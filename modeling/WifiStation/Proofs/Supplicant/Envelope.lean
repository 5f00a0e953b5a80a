import WifiStation.Proofs.Text.Number
import WifiStation.Proofs.Text.Words
import WifiStation.Supplicant.Event

/-!
# WifiStation.Proofs.Supplicant.Envelope

What is taken for a record, and what for its name.

`Envelope` says what a record looks like, apart from the reader: a digit in angle brackets, a name,
and a text that is empty or starts with a blank. As no blank can stand in a name, the name of a line
is known from the line, and the reader finds it (`Event.read?_eq_some_iff`). Kinds and full names
stand for each other (`EventKind.name_ofName`), so a record is of a kind exactly if it has the name
of that kind (`reports_iff`).

`Form` spells the same out in characters, and `Event.Tells` what the reader makes of it, without the
functions of the reader: an event tells what a line says, and no other event does
(`Event.read?_iff_form`).
-/

namespace WifiStation.Supplicant

open WifiStation.Text

/-- A line of the form `<priority>NAME rest`. -/
structure Envelope (line : List Char) (priority : Nat) (name : String) (rest : List Char) :
    Prop where
  text : line = '<' :: priority.digitChar :: '>' :: (name.toList ++ rest)
  priority_le : priority ≤ maxPriority
  name_ne : name ≠ ""
  name_chars : ∀ c ∈ name.toList, Event.isNameChar c = true
  ends : endsWord rest = true

/-! ### The end of the name -/

theorem isBlank_eq_false_of_isNameChar {c : Char} (h : Event.isNameChar c = true) :
    isBlank c = false := by
  have range : 45 ≤ c.toNat ∧ c.toNat ≤ 95 := by
    simp only [Event.isNameChar, isDigit, Bool.or_eq_true, Bool.and_eq_true, decide_eq_true_eq,
      beq_iff_eq, Char.le_def, UInt32.le_iff_toNat_le] at h
    rcases h with ((⟨low, high⟩ | digit) | rfl) | rfl
    · change 65 ≤ c.toNat at low
      change c.toNat ≤ 90 at high
      omega
    · omega
    · decide
    · decide
  simp only [isBlank, Bool.or_eq_false_iff, Bool.and_eq_false_iff, decide_eq_false_iff_not,
    beq_eq_false_iff_ne]
  omega

/-- A name ends at the blank behind it, or at the end of the line. -/
theorem span_name {name rest : List Char} (chars : ∀ c ∈ name, Event.isNameChar c = true)
    (ends : endsWord rest = true) :
    (name ++ rest).takeWhile Event.isNameChar = name ∧
      (name ++ rest).dropWhile Event.isNameChar = rest := by
  refine span_of_endsWord (fun c blank => ?_) chars ends
  rw [← Bool.not_eq_true]
  intro inside
  rw [isBlank_eq_false_of_isNameChar inside] at blank
  cases blank

/-! ### Reading -/

/-- A line in the form of a record is read as one. -/
theorem Envelope.read {line : List Char} {priority : Nat} {name : String} {rest : List Char}
    (h : Envelope line priority name rest) :
    Event.read? line = some ⟨priority, .ofName name, trimStart rest⟩ := by
  have digit : digit? 10 priority.digitChar = some priority :=
    digit?_digitChar priority (Nat.lt_of_le_of_lt h.priority_le (by decide))
  have allowed : ¬ priority > maxPriority := Nat.not_lt.mpr h.priority_le
  obtain ⟨front, back⟩ := span_name h.name_chars h.ends
  have accepted : (!name.toList.isEmpty && endsWord rest) = true := by
    simp [h.name_ne, h.ends]
  rw [Event.read?, h.text]
  simp only [after?, Option.bind_eq_bind, Option.bind_some, List.head?_cons, List.tail_cons, digit,
    allowed, front, back, accepted, if_true, if_false, String.ofList_toList]
  rfl

/-- A line is read as a record if and only if it has the form of one. -/
theorem Event.read?_eq_some_iff {line : List Char} {e : Event} :
    Event.read? line = some e ↔ ∃ name rest, Envelope line e.priority name rest ∧
      e.kind = .ofName name ∧ e.remainder = trimStart rest := by
  constructor
  · intro h
    simp only [Event.read?, Option.bind_eq_bind, Option.bind_eq_some_iff] at h
    obtain ⟨body, opened, digit, first, priority, value, h⟩ := h
    split at h
    · cases h
    · rename_i allowed
      obtain ⟨rest, closed, h⟩ := Option.bind_eq_some_iff.mp h
      split at h
      · rename_i named
        simp only [Bool.and_eq_true, Bool.not_eq_true', List.isEmpty_eq_false_iff] at named
        cases h
        refine ⟨String.ofList (rest.takeWhile Event.isNameChar), rest.dropWhile Event.isNameChar,
          ⟨?_, Nat.not_lt.mp allowed, ?_, ?_, named.2⟩, rfl, rfl⟩
        · obtain ⟨-, rfl⟩ := digit?_eq_some_iff.mp value
          obtain ⟨more, rfl⟩ := List.head?_eq_some_iff.mp first
          have more : more = '>' :: rest := after?_eq_some_iff.mp closed
          rw [after?_eq_some_iff.mp opened, more, String.toList_ofList,
            List.takeWhile_append_dropWhile]
        · simpa using named.1
        · intro c hc
          rw [String.toList_ofList] at hc
          exact List.all_eq_true.mp List.all_takeWhile c hc
      · cases h
  · rintro ⟨name, rest, envelope, kind, remainder⟩
    rw [envelope.read, ← kind, ← remainder]

/-! ### Names -/

/-- The name of the events of a kind. -/
def EventKind.name : EventKind → String
  | .scanResults => "CTRL-EVENT-SCAN-RESULTS"
  | .connected => "CTRL-EVENT-CONNECTED"
  | .disconnected => "CTRL-EVENT-DISCONNECTED"
  | .ssidTempDisabled => "CTRL-EVENT-SSID-TEMP-DISABLED"
  | .other name => name

@[simp] theorem EventKind.name_ofName (name : String) : (EventKind.ofName name).name = name := by
  unfold EventKind.ofName
  split
  · exact Eq.symm ‹_›
  · split
    · exact Eq.symm ‹_›
    · split
      · exact Eq.symm ‹_›
      · split
        · exact Eq.symm ‹_›
        · rfl

/-- The kinds that have a name of their own. -/
def EventKind.named : List EventKind := [.scanResults, .connected, .disconnected, .ssidTempDisabled]

theorem EventKind.ofName_of_named : ∀ k ∈ named, ofName k.name = k := by decide

theorem EventKind.other_ne_of_named : ∀ k ∈ named, ∀ n, k ≠ other n := by simp [named]

/-- No full name is the start or the end of another one. -/
theorem EventKind.eq_of_name_prefix_or_suffix : ∀ k ∈ named, ∀ k' ∈ named,
    k.name.toList <+: k'.name.toList ∨ k.name.toList <:+ k'.name.toList → k' = k := by
  decide

theorem EventKind.ofName_of_unnamed {name : String} (other : ∀ k ∈ named, name ≠ k.name) :
    ofName name = .other name := by
  simp only [named, List.forall_mem_cons, EventKind.name] at other
  obtain ⟨scan, up, down, off, -⟩ := other
  rw [ofName, if_neg scan, if_neg up, if_neg down, if_neg off]

/-- The kind of a name is the one that has it, or that of all other names. -/
theorem EventKind.eq_ofName_iff {kind : EventKind} {name : String} :
    kind = ofName name ↔ (∀ k ∈ named, kind = k ↔ name = k.name) ∧
      ∀ n, kind = .other n ↔ n = name ∧ ∀ k ∈ named, name ≠ k.name := by
  by_cases known : ∃ k ∈ named, name = k.name
  · obtain ⟨k, hk', rfl⟩ := known
    rw [ofName_of_named k hk']
    constructor
    · intro same
      subst same
      refine ⟨fun k hk => ⟨congrArg name, fun same => ?_⟩, fun n => ?_⟩
      · rw [← ofName_of_named kind hk', same, ofName_of_named k hk]
      · exact iff_of_false (other_ne_of_named kind hk' n) fun h => h.2 kind hk' rfl
    · intro h
      exact (h.1 k hk').mpr rfl
  · have other : ∀ k ∈ named, name ≠ k.name := by simpa using known
    rw [ofName_of_unnamed other]
    constructor
    · intro same
      subst same
      refine ⟨fun k hk => iff_of_false ?_ (other k hk), fun n => ?_⟩
      · exact fun same => other_ne_of_named k hk name same.symm
      · exact ⟨fun same => ⟨(EventKind.other.inj same).symm, other⟩, fun h => h.1 ▸ rfl⟩
    · intro h
      exact (h.2 name).mpr ⟨rfl, other⟩

/-- A record tells of an event by its name, with a remainder behind the blanks. -/
def Reports (record name : String) (remainder : List Char) : Prop :=
  ∃ priority rest, Envelope record.toList priority name rest ∧ remainder = trimStart rest

theorem reports_iff {record name : String} {remainder : List Char} :
    Reports record name remainder ↔ ∃ e, Event.read? record.toList = some e ∧
      e.kind = .ofName name ∧ e.remainder = remainder := by
  constructor
  · rintro ⟨priority, rest, envelope, rfl⟩
    exact ⟨_, envelope.read, rfl, rfl⟩
  · rintro ⟨e, read, kind, rfl⟩
    obtain ⟨name', rest, envelope, kind', remainder⟩ := Event.read?_eq_some_iff.mp read
    have same : name' = name := by
      rw [← EventKind.name_ofName name', ← kind', kind, EventKind.name_ofName]
    exact ⟨e.priority, rest, same ▸ envelope, remainder⟩

/-! ### The form of a record -/

/-- A line in the form of a record: a digit in angle brackets, a name, and the text behind it. -/
structure Form (line : List Char) (digit : Char) (name : String) (rest : List Char) : Prop where
  text : line = '<' :: digit :: '>' :: (name.toList ++ rest)
  digit_mem : digit ∈ ['0', '1', '2', '3', '4']
  name_ne : name ≠ ""
  name_chars : ∀ c ∈ name.toList,
    ('A' ≤ c ∧ c ≤ 'Z') ∨ ('0' ≤ c ∧ c ≤ '9') ∨ c = '-' ∨ c = '_'
  ends : ∀ c, rest.head? = some c → isBlank c = true

/-- What a record of this form tells. -/
structure Event.Tells (e : Event) (digit : Char) (name : String) (rest : List Char) : Prop where
  priority : digit.toNat = '0'.toNat + e.priority
  remainder : ∃ gap, Blanks gap ∧ rest = gap ++ e.remainder
  remainder_first : ∀ c, e.remainder.head? = some c → isBlank c = false
  named : ∀ k ∈ EventKind.named, e.kind = k ↔ name = k.name
  unnamed : ∀ n, e.kind = .other n ↔ n = name ∧ ∀ k ∈ EventKind.named, name ≠ k.name

theorem isNameChar_iff (c : Char) : Event.isNameChar c = true ↔
    ('A' ≤ c ∧ c ≤ 'Z') ∨ ('0' ≤ c ∧ c ≤ '9') ∨ c = '-' ∨ c = '_' := by
  have digit : isDigit c = true ↔ '0' ≤ c ∧ c ≤ '9' := by
    simp [isDigit, Char.le_def, UInt32.le_iff_toNat_le]
  simp [Event.isNameChar, digit, or_assoc]

/-- The form is that of an envelope, with the digit for the priority. -/
theorem form_iff {line : List Char} {digit : Char} {name : String} {rest : List Char} :
    Form line digit name rest ↔
      ∃ priority, digit = priority.digitChar ∧ Envelope line priority name rest := by
  have ends : endsWord rest = true ↔ ∀ c, rest.head? = some c → isBlank c = true := by
    cases rest <;> simp [endsWord]
  have digits : ['0', '1', '2', '3', '4'] = (List.range (maxPriority + 1)).map Nat.digitChar := rfl
  constructor
  · intro h
    obtain ⟨priority, below, rfl⟩ := List.mem_map.mp (digits ▸ h.digit_mem)
    exact ⟨priority, rfl, h.text, Nat.le_of_lt_succ (List.mem_range.mp below), h.name_ne,
      fun c hc => (isNameChar_iff c).mpr (h.name_chars c hc), ends.mpr h.ends⟩
  · rintro ⟨priority, rfl, h⟩
    have below : priority ∈ List.range (maxPriority + 1) :=
      List.mem_range.mpr (Nat.lt_succ_of_le h.priority_le)
    exact ⟨h.text, digits ▸ List.mem_map_of_mem below, h.name_ne,
      fun c hc => (isNameChar_iff c).mp (h.name_chars c hc), ends.mp h.ends⟩

/-- What is told is told by one event only. -/
theorem Event.tells_iff {e : Event} {priority : Nat} {name : String} {rest : List Char}
    (small : priority ≤ maxPriority) :
    e.Tells priority.digitChar name rest ↔ e = ⟨priority, .ofName name, trimStart rest⟩ := by
  have value : priority.digitChar.toNat = '0'.toNat + priority :=
    toNat_digitChar priority (Nat.lt_of_le_of_lt small (by decide))
  constructor
  · intro h
    have same : e.priority = priority := Nat.add_left_cancel (h.priority.symm.trans value)
    have kind : e.kind = .ofName name := EventKind.eq_ofName_iff.mpr ⟨h.named, h.unnamed⟩
    have behind : trimStart rest = e.remainder :=
      trimStart_eq_iff.mpr ⟨h.remainder, h.remainder_first⟩
    rw [← same, ← kind, behind]
  · intro h
    subst h
    obtain ⟨gap, first⟩ := trimStart_eq_iff.mp (rfl : trimStart rest = trimStart rest)
    obtain ⟨named, unnamed⟩ := EventKind.eq_ofName_iff.mp (rfl : EventKind.ofName name = _)
    exact ⟨value, gap, first, named, unnamed⟩

/-- **A line is read as a record exactly if it has the form of one.** The priority is the value of
the digit, the remainder is the text behind the name without the blanks at its start, and the kind is
that of the name: one of the four if it is the full name of that kind, and otherwise that of all other
names. A name with more before or behind a full name is another name. -/
theorem Event.read?_iff_form (line : List Char) :
    ((∃ e, Event.read? line = some e) ↔ ∃ digit name rest, Form line digit name rest) ∧
    ∀ digit name rest, Form line digit name rest →
      (∀ e, Event.read? line = some e ↔ e.Tells digit name rest) ∧
      ∀ k ∈ EventKind.named, name ≠ k.name →
        k.name.toList <+: name.toList ∨ k.name.toList <:+ name.toList →
        ∀ e, Event.read? line = some e → e.kind = .other name := by
  have reads : ∀ digit name rest, Form line digit name rest →
      ∀ e, Event.read? line = some e ↔ e.Tells digit name rest := by
    intro digit name rest form e
    obtain ⟨priority, rfl, envelope⟩ := form_iff.mp form
    rw [envelope.read, Event.tells_iff envelope.priority_le, Option.some.injEq, eq_comm]
  refine ⟨⟨?_, ?_⟩, fun digit name rest form => ⟨reads digit name rest form, ?_⟩⟩
  · rintro ⟨e, read⟩
    obtain ⟨name, rest, envelope, -⟩ := Event.read?_eq_some_iff.mp read
    exact ⟨_, name, rest, form_iff.mpr ⟨e.priority, rfl, envelope⟩⟩
  · rintro ⟨digit, name, rest, form⟩
    obtain ⟨priority, -, envelope⟩ := form_iff.mp form
    exact ⟨_, envelope.read⟩
  · intro k hk longer part e read
    refine (((reads digit name rest form e).mp read).unnamed name).mpr ⟨rfl, ?_⟩
    intro k' hk' same
    subst same
    exact longer (congrArg EventKind.name (EventKind.eq_of_name_prefix_or_suffix k hk k' hk' part))

/-- A name that goes on behind that of a link that is up, and behind it blanks of three bytes. -/
theorem Event.read?_iff_form_longer_name :
    let line := "<4>CTRL-EVENT-CONNECTED-2\u3000\u2003été".toList
    let name := "CTRL-EVENT-CONNECTED-2"
    let rest := "\u3000\u2003été".toList
    Form line '4' name rest ∧ EventKind.connected.name.toList <+: name.toList ∧
      ∃ e, Event.read? line = some e ∧ e.Tells '4' name rest ∧ e.kind = .other name := by
  intro line name rest
  have chars : name.toList.all Event.isNameChar = true := by decide
  have form : Form line '4' name rest :=
    ⟨by decide, by decide, by decide,
      fun c hc => (isNameChar_iff c).mp (List.all_eq_true.mp chars c hc),
      fun c first => by cases first; decide⟩
  have part : EventKind.connected.name.toList <+: name.toList := by decide
  obtain ⟨accepted, told⟩ := Event.read?_iff_form line
  obtain ⟨tells, longer⟩ := told '4' name rest form
  obtain ⟨e, read⟩ := accepted.mpr ⟨'4', name, rest, form⟩
  exact ⟨form, part, e, read, (tells e).mp read,
    longer .connected (by decide) (by decide) (.inl part) e read⟩

end WifiStation.Supplicant
