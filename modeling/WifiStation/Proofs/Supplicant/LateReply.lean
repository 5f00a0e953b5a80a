import WifiStation.Proofs.Runs
import WifiStation.Proofs.Text.Utf8
import WifiStation.Supplicant.Channel

/-!
# WifiStation.Proofs.Supplicant.LateReply

Which reply a command gets, when replies may come late.

A reply does not say what it is a reply to. What keeps replies and commands together is the
supplicant, which answers every command once and in order, and the channel, which throws away what
has arrived before it sends the next command. A `Line` is both of them with the time in between: a
reply may arrive at any time after its command was sent, also after the command was given up.

Replies are counted, so the n-th command has the n-th reply, and a request takes the first reply
that comes after it was sent (`Note.Takes`). The drain covers the replies that came before, and only
these: a request gets its own reply exactly if no reply to an earlier command is still on the way
(`taken_reply`).

A command counts as sent from the moment at which the socket is drained for it. What arrives between
the drain and the sending stays in the socket and is read first, like all that comes behind it.
-/

namespace WifiStation.Supplicant

open WifiStation.Text

/-- A text that fits is read from a datagram as it was written. -/
theorem Datagram.text_encode {s : String} (fits : (Utf8.encode s.toList).length ≤ maxDatagramBytes) :
    Datagram.text (Utf8.encode s.toList) = s := by
  rw [Datagram.text, List.take_of_length_le fits, Utf8.decodeLossy_encode, String.ofList_toList]

/-- A control channel whose other end answers every command once and in order. -/
structure Line where
  channel : ControlChannel
  /-- How many commands have been sent. -/
  sent : Nat := 0
  /-- The replies that have arrived. -/
  replies : List Datagram := []
  /-- How many of them had arrived when the last command was sent. -/
  heardBefore : Nat := 0

namespace Line

/-- What can happen on a line. -/
inductive Event where
  /-- A command is sent, unless another one waits for its reply. -/
  | request (command : String)
  /-- The reply to the first command that has none arrives. -/
  | reply (d : Datagram)
  /-- A record arrives that nobody has asked for. -/
  | record (d : Datagram)
  /-- The time for the reply is up. -/
  | timeout

/-- What came of a request: the command by its number, how many replies had arrived when it was
sent, and the outcome. -/
structure Note where
  command : Nat
  heardBefore : Nat
  outcome : Outcome

/-- Something happens at the socket; there is a note if it ends the request. -/
def pass (l : Line) (input : ControlInput) : Line × List Note :=
  let r := l.channel.step input
  ({ l with channel := r.1 },
    r.2.toList.map fun outcome => ⟨l.sent - 1, l.heardBefore, outcome⟩)

/-- One event. -/
def step (l : Line) : Event → Line × List Note
  | .request command =>
    if l.channel.waiting.isSome then (l, [])
    else { l with sent := l.sent + 1, heardBefore := l.replies.length }.pass (.send command)
  | .reply d =>
    if l.replies.length < l.sent then { l with replies := l.replies ++ [d] }.pass (.arrive d)
    else (l, [])
  | .record d => if isEventText d.text then l.pass (.arrive d) else (l, [])
  | .timeout => l.pass .timeout

/-! ### Replies that are taken -/

/-- The replies from one place up to another look like events, which no request takes. -/
def Skipped (replies : List Datagram) (first last : Nat) : Prop :=
  ∀ i d, first ≤ i → i < last → replies[i]? = some d → isEventText d.text = true

/-- A request takes the reply at place `j`: the first that comes after it was sent, apart from those
that look like events. -/
structure Note.Takes (note : Note) (replies : List Datagram) (text : String) (j : Nat) : Prop where
  reply : ∃ d, replies[j]? = some d ∧ d.text = text
  plain : isEventText text = false
  since : note.heardBefore ≤ j
  upTo : j ≤ note.command
  first : Skipped replies note.heardBefore j

/-- More replies change nothing about those that are there. -/
theorem skipped_append {replies : List Datagram} (more : List Datagram) {first last : Nat}
    (inside : last ≤ replies.length) :
    Skipped (replies ++ more) first last ↔ Skipped replies first last := by
  constructor
  · intro h i d from_ upto hd
    exact h i d from_ upto (by rwa [List.getElem?_append_left (by omega)])
  · intro h i d from_ upto hd
    exact h i d from_ upto (by rwa [List.getElem?_append_left (by omega)] at hd)

theorem Note.Takes.append {note : Note} {replies : List Datagram} {text : String} {j : Nat}
    (h : note.Takes replies text j) (more : List Datagram) :
    note.Takes (replies ++ more) text j := by
  obtain ⟨d, hd, ht⟩ := h.reply
  have inside : j < replies.length := (List.getElem?_eq_some_iff.mp hd).1
  refine ⟨⟨d, ?_, ht⟩, h.plain, h.since, h.upTo, ?_⟩
  · rwa [List.getElem?_append_left inside]
  · rw [skipped_append more (Nat.le_of_lt inside)]
    exact h.first

/-- A request gets its own reply exactly if all that come after it was sent and before its own look
like events; there are none if all replies to earlier commands had arrived. -/
theorem Note.Takes.eq_command_iff {note : Note} {replies : List Datagram} {text : String} {j : Nat}
    (h : note.Takes replies text j) :
    j = note.command ↔ Skipped replies note.heardBefore note.command := by
  constructor
  · rintro rfl
    exact h.first
  · intro skipped
    obtain ⟨d, hd, ht⟩ := h.reply
    rcases Nat.lt_or_eq_of_le h.upTo with earlier | own
    · -- it would have to look like an event, and what is taken does not
      have event := skipped j d h.since earlier hd
      rw [ht, h.plain] at event
      cases event
    · exact own

/-! ### The invariant -/

/-- There are no more replies than commands; a request that waits has seen no reply but such as look
like events; and every request that succeeded has taken a reply. -/
structure Sound (l : Line) (notes : List Note) : Prop where
  answered : l.replies.length ≤ l.sent
  waiting : l.channel.waiting.isSome →
    l.heardBefore < l.sent ∧ l.heardBefore ≤ l.replies.length ∧
      Skipped l.replies l.heardBefore l.replies.length
  notes : ∀ note ∈ notes, ∀ text, note.outcome = .ok text → ∃ j, note.Takes l.replies text j

theorem sound_new (timeoutMs : Nat) : Sound { channel := { timeoutMs } } [] :=
  ⟨Nat.le_refl 0, fun h => (nomatch h), fun _ h => (nomatch h)⟩

theorem step_arrive_of_none {c : ControlChannel} (h : c.waiting = none) (d : Datagram) :
    c.step (.arrive d) = ({ c with unread := c.unread ++ [d] }, none) := by
  simp only [ControlChannel.step, h]

theorem step_arrive_of_some {c : ControlChannel} {command : String} (h : c.waiting = some command)
    (d : Datagram) :
    c.step (.arrive d) =
      if isEventText d.text then (c, none)
      else ({ c with waiting := none }, some (.ok d.text)) := by
  simp only [ControlChannel.step, h]

theorem Sound.request {l : Line} {notes : List Note} (h : l.Sound notes) (command : String) :
    (l.step (.request command)).1.Sound (notes ++ (l.step (.request command)).2) := by
  rw [step]
  split
  · rwa [List.append_nil]
  · change Sound _ (notes ++ [])
    rw [List.append_nil]
    refine ⟨Nat.le_succ_of_le h.answered, fun _ => ⟨Nat.lt_succ_of_le h.answered, Nat.le_refl _, ?_⟩,
      h.notes⟩
    -- no reply has come since the request was sent just now
    intro i d since upto
    exact absurd (Nat.lt_of_le_of_lt since upto) (Nat.lt_irrefl _)

theorem Sound.reply {l : Line} {notes : List Note} (h : l.Sound notes) (d : Datagram) :
    (l.step (.reply d)).1.Sound (notes ++ (l.step (.reply d)).2) := by
  rw [step]
  split
  · rename_i due
    have answered : (l.replies ++ [d]).length ≤ l.sent := by
      rw [List.length_append]
      exact due
    have earlier : ∀ note ∈ notes, ∀ text, note.outcome = .ok text →
        ∃ j, note.Takes (l.replies ++ [d]) text j := by
      intro note hn text ht
      obtain ⟨j, takes⟩ := h.notes note hn text ht
      exact ⟨j, takes.append [d]⟩
    rw [pass]
    cases hw : l.channel.waiting with
    | none =>
        rw [step_arrive_of_none hw]
        refine ⟨answered, fun waits => ?_, by simpa using earlier⟩
        change l.channel.waiting.isSome = true at waits
        rw [hw] at waits
        cases waits
    | some command =>
        obtain ⟨asked, since, skipped⟩ := h.waiting (by rw [hw]; rfl)
        rw [step_arrive_of_some hw]
        split
        · -- it looks like an event, and the request waits on
          rename_i event
          refine ⟨answered, fun _ => ⟨asked, ?_, ?_⟩, by simpa using earlier⟩
          · simpa using Nat.le_succ_of_le since
          · intro i d' from_ upto hd
            rcases Nat.lt_or_ge i l.replies.length with old | new
            · rw [List.getElem?_append_left old] at hd
              exact skipped i d' from_ old hd
            · have last : i = l.replies.length := by
                simp only [List.length_append, List.length_singleton] at upto
                omega
              rw [last, List.getElem?_concat_length, Option.some.injEq] at hd
              rwa [← hd]
        · -- the request takes it
          rename_i plain
          refine ⟨answered, fun waits => (nomatch waits), fun note hn text ht => ?_⟩
          rcases List.mem_append.mp hn with hn | hn
          · exact earlier note hn text ht
          · cases List.mem_singleton.mp hn
            cases ht
            refine ⟨l.replies.length, ⟨d, List.getElem?_concat_length, rfl⟩,
              Bool.eq_false_iff.mpr plain, since, ?_, ?_⟩
            · change l.replies.length ≤ l.sent - 1
              omega
            · exact (skipped_append [d] (Nat.le_refl _)).mpr skipped
  · rwa [List.append_nil]

theorem Sound.record {l : Line} {notes : List Note} (h : l.Sound notes) (d : Datagram) :
    (l.step (.record d)).1.Sound (notes ++ (l.step (.record d)).2) := by
  rw [step]
  split
  · rename_i event
    rw [pass]
    cases hw : l.channel.waiting with
    | none =>
        rw [step_arrive_of_none hw]
        exact ⟨h.answered, h.waiting, by simpa using h.notes⟩
    | some command =>
        rw [step_arrive_of_some hw, if_pos event]
        exact ⟨h.answered, h.waiting, by simpa using h.notes⟩
  · rwa [List.append_nil]

theorem Sound.timeout {l : Line} {notes : List Note} (h : l.Sound notes) :
    (l.step .timeout).1.Sound (notes ++ (l.step .timeout).2) := by
  rw [step, pass, ControlChannel.step]
  cases hw : l.channel.waiting with
  | none => exact ⟨h.answered, h.waiting, by simpa using h.notes⟩
  | some command =>
      refine ⟨h.answered, fun waits => (nomatch waits), fun note hn text ht => ?_⟩
      rcases List.mem_append.mp hn with hn | hn
      · exact h.notes note hn text ht
      · cases List.mem_singleton.mp hn
        cases ht

/-- Every event keeps the line sound. -/
theorem Sound.step {l : Line} {notes : List Note} (h : l.Sound notes) (event : Event) :
    (l.step event).1.Sound (notes ++ (l.step event).2) := by
  cases event with
  | request command => exact h.request command
  | reply d => exact h.reply d
  | record d => exact h.record d
  | timeout => exact h.timeout

/-- A request that succeeds takes the first reply that arrives after it was sent. It is the reply to
its own command if and only if no reply to an earlier command arrives in between; otherwise it is
such a late reply. -/
theorem taken_reply (timeoutMs : Nat) (events : List Event) :
    let r := runFrom step { channel := { timeoutMs } } events
    ∀ note ∈ r.2, ∀ text, note.outcome = .ok text →
      ∃ j, note.Takes r.1.replies text j ∧
        (j = note.command ↔ Skipped r.1.replies note.heardBefore note.command) := by
  intro r note hn text ht
  have sound : r.1.Sound r.2 :=
    runFrom_induction (motive := Sound) (fun _ _ event h => h.step event)
      (sound_new timeoutMs) events
  obtain ⟨j, takes⟩ := sound.notes note hn text ht
  exact ⟨j, takes, takes.eq_command_iff⟩

/-- A reply that comes before the next command is thrown away, and that command gets its own. -/
theorem taken_reply_late_before_next :
    let r := runFrom step { channel := { timeoutMs := 50 } }
      [.request "SLOW", .timeout, .reply (Utf8.encode "LATE\n".toList), .request "PING",
        .reply (Utf8.encode "PONG\n".toList)]
    ⟨1, 1, .ok "PONG\n"⟩ ∈ r.2 ∧
      ∃ j, Note.Takes ⟨1, 1, .ok "PONG\n"⟩ r.1.replies "PONG\n" j ∧
        (j = 1 ↔ Skipped r.1.replies 1 1) := by
  intro r
  have text : Datagram.text (Utf8.encode "PONG\n".toList) = "PONG\n" :=
    Datagram.text_encode (by decide)
  have plain : isEventText "PONG\n" = false := by decide
  have note : (⟨1, 1, .ok "PONG\n"⟩ : Note) ∈ r.2 := by
    simp only [r, runFrom, step, pass, ControlChannel.step, text, plain]
    simp
  exact ⟨note, taken_reply 50 _ _ note "PONG\n" rfl⟩

/-- A reply that comes after the next command is taken for the reply to that command, whose own reply
comes later. -/
theorem late_reply_taken :
    let late : Datagram := Utf8.encode "LATE\n".toList
    let pong : Datagram := Utf8.encode "PONG\n".toList
    let r := runFrom step { channel := { timeoutMs := 50 } }
      [.request "SLOW", .timeout, .request "PING", .reply late, .reply pong]
    ∃ note ∈ r.2, note.outcome = .ok "LATE\n" ∧
      ¬ ∃ d, r.1.replies[note.command]? = some d ∧ d.text = "LATE\n" := by
  intro late pong r
  have text : late.text = "LATE\n" := Datagram.text_encode (by decide)
  have own : pong.text = "PONG\n" := Datagram.text_encode (by decide)
  have plain : isEventText "LATE\n" = false := by decide
  refine ⟨⟨1, 0, .ok "LATE\n"⟩, ?_, rfl, ?_⟩
  · simp only [r, runFrom, step, pass, ControlChannel.step, text, plain]
    simp
  · have replies : r.1.replies = [late, pong] := by
      simp only [r, runFrom, step, pass, ControlChannel.step, text, plain]
      simp
    rintro ⟨d, hd, ht⟩
    rw [replies] at hd
    cases hd
    rw [own] at ht
    exact absurd ht (by decide)

end Line

end WifiStation.Supplicant
