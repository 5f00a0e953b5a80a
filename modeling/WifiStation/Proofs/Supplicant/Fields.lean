import WifiStation.Proofs.Keyed
import WifiStation.Proofs.Supplicant.Envelope
import WifiStation.Proofs.Supplicant.Radio

/-!
# WifiStation.Proofs.Supplicant.Fields

The fields of a record are those that were written into it.

The remainder of a record is tokens with blanks between them: bare words, pairs whose value has no
blank, and pairs whose value stands between quotes. A `Token` carries what it takes to be read back
(`IsKey`, `IsBare`, no quote between the quotes), and `Joined` makes a text of tokens.

The reader takes one token after the other, whatever stands behind it (`readPairs_token`, one case
for each kind of token). So a text of tokens is read as their pairs (`Joined.readPairs`), and of the
pairs with one key the last counts (`told?`). What stands between quotes is passed over as a whole: a
network that calls itself `x reason=FORGED` gives no reason.
-/

namespace WifiStation.Supplicant

open WifiStation.Text

/-! ### Tokens -/

/-- A text that can be a key: it is not empty, and neither blanks nor equals signs are in it. -/
structure IsKey (s : String) : Prop where
  ne_empty : s ≠ ""
  no_blank : ∀ c ∈ s.toList, isBlank c = false
  no_equals : '=' ∉ s.toList

/-- A value that needs no quotes: no blank is in it, and it does not start with a quote. -/
structure IsBare (s : String) : Prop where
  no_blank : ∀ c ∈ s.toList, isBlank c = false
  unquoted : s.toList.head? ≠ some '"'

/-- A text is a key if all its characters may stand in one. -/
theorem IsKey.of_all {s : String} (ne_empty : s ≠ "") (all : s.toList.all isKeyChar = true) :
    IsKey s := by
  simp only [List.all_eq_true, isKeyChar, Bool.not_eq_true', Bool.or_eq_false_iff] at all
  exact ⟨ne_empty, fun c hc => (all c hc).1, fun hc => nomatch (all _ hc).2⟩

theorem IsBare.of_all {s : String} (all : s.toList.all (!isBlank ·) = true)
    (unquoted : s.toList.head? ≠ some '"') : IsBare s := by
  simp only [List.all_eq_true, Bool.not_eq_true'] at all
  exact ⟨all, unquoted⟩

/-- What can stand in the remainder of a record. -/
inductive Token where
  /-- A word that is no pair; any key would do. -/
  | word (text : String) (isWord : IsKey text)
  | bare (key value : String) (isKey : IsKey key) (isBare : IsBare value)
  | quoted (key value : String) (isKey : IsKey key) (free : '"' ∉ value.toList)

namespace Token

/-- The characters of a token. -/
def chars : Token → List Char
  | word text _ => text.toList
  | bare key value _ _ => key.toList ++ '=' :: value.toList
  | quoted key value _ _ => key.toList ++ '=' :: '"' :: (value.toList ++ ['"'])

/-- The pair that a token stands for, if it is one. -/
def pair? : Token → Option (String × String)
  | word _ _ => none
  | bare key value _ _ => some (key, value)
  | quoted key value _ _ => some (key, value)

end Token

/-- A text of tokens with blanks between them. There may be blanks behind the last. -/
inductive Joined : List Token → List Char → Prop
  | nil : Joined [] []
  | last (t : Token) : Joined [t] t.chars
  | more (t : Token) {ts : List Token} {gap text : List Char} (blanks : Blanks gap)
      (apart : gap ≠ []) (others : Joined ts text) : Joined (t :: ts) (t.chars ++ (gap ++ text))

/-- The value of a key among tokens: that of the last pair with the key. -/
def told? (ts : List Token) (key : String) : Option String :=
  (ts.filterMap Token.pair?).reverse.lookup key

/-- A token that is no pair with a key does not matter to that key. -/
theorem told?_skip (front back : List Token) {t : Token} {key : String}
    (other : ∀ p, t.pair? = some p → p.1 ≠ key) :
    told? (front ++ t :: back) key = told? (front ++ back) key := by
  rw [told?, told?, List.filterMap_append, List.filterMap_append, List.filterMap_cons]
  cases pair : t.pair? with
  | none => rfl
  | some p =>
      obtain ⟨key', value⟩ := p
      have ne : key ≠ key' := (other _ pair).symm
      simp [List.lookup_append, List.lookup_cons, beq_false_of_ne ne]

/-! ### One turn of the reader -/

theorem readPairs_of_nil {s : List Char} (h : trimStart s = []) : readPairs s = [] := by
  rw [readPairs]
  split
  · rfl
  · rename_i text
    rw [h] at text
    cases text

theorem readPairs_of_cons {s : List Char} {c : Char} {t : List Char} (h : trimStart s = c :: t) :
    readPairs s =
      match (c :: t).dropWhile isKeyChar with
      | [] => []
      | d :: rest =>
        if d = '=' then
          if ((c :: t).takeWhile isKeyChar).isEmpty then readPairs (takeValue rest).2
          else ((c :: t).takeWhile isKeyChar, (takeValue rest).1) :: readPairs (takeValue rest).2
        else readPairs rest := by
  rw [readPairs]
  split
  · rename_i text
    rw [h] at text
    cases text
  · rename_i text
    rw [h] at text
    cases text
    split
    · rename_i left
      rw [left]
    · rename_i left
      rw [left]

/-- What stands behind the blanks at the start is all that matters. -/
theorem readPairs_congr {s s' : List Char} (h : trimStart s = trimStart s') :
    readPairs s = readPairs s' := by
  cases text : trimStart s' with
  | nil => rw [readPairs_of_nil (h.trans text), readPairs_of_nil text]
  | cons c t => rw [readPairs_of_cons (h.trans text), readPairs_of_cons text]

theorem readPairs_blanks {gap : List Char} (blanks : Blanks gap) (s : List Char) :
    readPairs (gap ++ s) = readPairs s :=
  readPairs_congr (trimStart_append blanks s)

theorem fieldsOf_trimStart {gap : List Char} (blanks : Blanks gap) (text : List Char) :
    fieldsOf (trimStart (gap ++ text)) = fieldsOf text := by
  have same : trimStart (trimStart (gap ++ text)) = trimStart text := by
    rw [trimStart_append blanks]
    exact List.dropWhile_idempotent isBlank text
  rw [fieldsOf, fieldsOf, readPairs_congr same]

theorem IsKey.isWord {key : String} (h : IsKey key) : IsWord key.toList :=
  ⟨by simpa using h.ne_empty, h.no_blank⟩

theorem IsKey.isKeyChar {key : String} (h : IsKey key) :
    ∀ c ∈ key.toList, isKeyChar c = true := by
  intro c hc
  have other : c ≠ '=' := fun same => h.no_equals (same ▸ hc)
  simp [Supplicant.isKeyChar, h.no_blank c hc, other]

/-- A key is taken whole, up to a character that cannot be in a key. -/
theorem readPairs_key {key : String} (isKey : IsKey key) {d : Char} (stop : isKeyChar d = false)
    (rest : List Char) :
    readPairs (key.toList ++ d :: rest) =
      if d = '=' then (key.toList, (takeValue rest).1) :: readPairs (takeValue rest).2
      else readPairs rest := by
  have front : (key.toList ++ d :: rest).takeWhile isKeyChar = key.toList := by
    simp [List.takeWhile_append_of_pos isKey.isKeyChar, stop]
  have back : (key.toList ++ d :: rest).dropWhile isKeyChar = d :: rest := by
    simp [List.dropWhile_append_of_pos isKey.isKeyChar, stop]
  have start := trimStart_of_word isKey.isWord (d :: rest)
  cases text : key.toList ++ d :: rest with
  | nil => simp at text
  | cons c t =>
      rw [text] at start
      rw [readPairs_of_cons start, ← text, front, back]
      simp [isKey.ne_empty]

/-- A word at the end of a text is no pair. -/
theorem readPairs_word {word : String} (isWord : IsKey word) : readPairs word.toList = [] := by
  have start := trimStart_of_word isWord.isWord []
  rw [List.append_nil] at start
  cases text : word.toList with
  | nil => exact readPairs_of_nil rfl
  | cons c t =>
      have all : (c :: t).dropWhile isKeyChar = [] := by
        rw [← text, List.dropWhile_eq_nil_iff]
        exact isWord.isKeyChar
      rw [text] at start
      rw [readPairs_of_cons start, all]

theorem takeValue_bare {value : String} (isBare : IsBare value) {rest : List Char}
    (ends : endsWord rest = true) : takeValue (value.toList ++ rest) = (value.toList, rest) := by
  have chars : ∀ c ∈ value.toList, (!isBlank c) = true := by simpa using isBare.no_blank
  obtain ⟨front, back⟩ := span_of_endsWord (fun c blank => by simp [blank]) chars ends
  have plain : ∀ more, value.toList ++ rest ≠ '"' :: more := by
    intro more quote
    cases text : value.toList with
    | nil =>
        -- what stands behind an empty value is a blank
        rw [text, List.nil_append] at quote
        rw [quote] at ends
        have blank : isBlank '"' = true := ends
        exact absurd blank (by decide)
    | cons c chars =>
        rw [text, List.cons_append, List.cons.injEq] at quote
        exact isBare.unquoted (by simp [text, quote.1])
  unfold takeValue
  split
  · rename_i more quote
    exact absurd quote (plain more)
  · rw [front, back]

/-- A value between quotes may have blanks and equals signs in it. -/
theorem takeValue_quoted {value : String} (free : '"' ∉ value.toList) (rest : List Char) :
    takeValue ('"' :: (value.toList ++ '"' :: rest)) = (value.toList, rest) := by
  have chars : ∀ c ∈ value.toList, decide (c ≠ '"') = true := by
    intro c hc
    exact decide_eq_true fun same => free (same ▸ hc)
  rw [takeValue, List.takeWhile_append_of_pos chars, List.dropWhile_append_of_pos chars]
  simp

/-! ### Texts of tokens -/

/-- A token is read as its pair, whatever stands behind the blank that ends it. -/
theorem readPairs_token (t : Token) {rest : List Char} (ends : endsWord rest = true) :
    readPairs (t.chars ++ rest) =
      (t.pair?.map (Prod.map String.toList String.toList)).toList ++ readPairs rest := by
  cases t with
  | word text isWord =>
      cases rest with
      | nil =>
          rw [Token.chars, List.append_nil, readPairs_word isWord, readPairs_of_nil rfl]
          rfl
      | cons b more =>
          have blank : isBlank b = true := ends
          have other : b ≠ '=' := by
            rintro rfl
            exact absurd blank (by decide)
          have blanks : Blanks [b] := by simpa [Blanks] using blank
          have gap : readPairs (b :: more) = readPairs more := readPairs_blanks blanks more
          rw [Token.chars, readPairs_key isWord (by simp [isKeyChar, blank]), if_neg other, gap]
          rfl
  | bare key value isKey isBare =>
      rw [Token.chars, List.append_assoc, List.cons_append, readPairs_key isKey (by decide),
        if_pos rfl, takeValue_bare isBare ends]
      rfl
  | quoted key value isKey free =>
      have shape : (Token.quoted key value isKey free).chars ++ rest =
          key.toList ++ '=' :: '"' :: (value.toList ++ '"' :: rest) := by simp [Token.chars]
      rw [shape, readPairs_key isKey (by decide), if_pos rfl, takeValue_quoted free]
      rfl

/-- A text of tokens is read as their pairs, in order. -/
theorem Joined.readPairs {ts : List Token} {text : List Char} (h : Joined ts text) :
    readPairs text = (ts.filterMap Token.pair?).map (Prod.map String.toList String.toList) := by
  induction h with
  | nil => exact readPairs_of_nil rfl
  | last t =>
      have ends : endsWord ([] : List Char) = true := rfl
      have only := readPairs_token t ends
      rw [List.append_nil, readPairs_of_nil (s := []) rfl] at only
      rw [only]
      cases pair : t.pair? <;> simp [pair]
  | @more t ts gap text blanks apart others ih =>
      have ends : endsWord (gap ++ text) = true := by
        rw [endsWord_append apart, blanks.endsWord]
      rw [readPairs_token t ends, readPairs_blanks blanks, ih]
      cases pair : t.pair? <;> simp [pair]

theorem Joined.get?_fieldsOf {ts : List Token} {text : List Char} (h : Joined ts text)
    (key : String) : (fieldsOf text).get? key = told? ts key := by
  rw [fieldsOf, h.readPairs, List.foldl_map]
  simp only [Prod.map_fst, Prod.map_snd, String.ofList_toList]
  rw [Keyed.get?_foldl_insert, Keyed.get?_empty, Option.or_none, told?]

/-! ### The reason of a refusal -/

theorem isKey_ssid : IsKey "ssid" := .of_all (by decide) (by decide)

/-- **What is read from a text of tokens is what its pairs say.** Every key has the value of the last
pair with it, and a key that no pair has is not there. So when a network is disabled for a time, the
last error is the reason that the record gives, and it is published, whatever name without quotes the
network has. -/
theorem fields_of_tokens (ts : List Token) (text : List Char) (joined : Joined ts text) :
    (∀ key, (fieldsOf text).get? key = told? ts key) ∧
    ∀ (front back : List Token) (ssid reason : String) (free : '"' ∉ ssid.toList)
      (record : String) (priority : Nat) (gap : List Char) (σ : Type)
      (channel : σ → String → Outcome × σ) (s : σ) (m : Monitor),
      ts = front ++ .quoted "ssid" ssid isKey_ssid free :: back →
      told? (front ++ back) "reason" = some reason →
      Blanks gap →
      Envelope record.toList priority "CTRL-EVENT-SSID-TEMP-DISABLED" (gap ++ text) →
        let m' := (m.talk channel (m.handleRecord record) s).1
        m'.link = { m.link with lastError := some reason } ∧ m'.published.value = m'.link := by
  refine ⟨joined.get?_fieldsOf, ?_⟩
  intro front back ssid reason free record priority gap σ channel s m split told blanks envelope
  have other : ∀ p, (Token.quoted "ssid" ssid isKey_ssid free).pair? = some p →
      p.1 ≠ "reason" := by
    intro p pair
    cases pair
    exact (by decide : "ssid" ≠ "reason")
  have field : (fieldsOf (trimStart (gap ++ text))).get? "reason" = some reason := by
    rw [fieldsOf_trimStart blanks, joined.get?_fieldsOf, split, told?_skip front back other, told]
  have kind : EventKind.ofName "CTRL-EVENT-SSID-TEMP-DISABLED" = .ssidTempDisabled := by decide
  have done : m.handleRecord record = .done (m.setLastError reason).publish := by
    rw [Monitor.handleRecord, envelope.read, kind]
    simp only [Monitor.handleEvent, Event.fields, field]
  rw [done, Monitor.talk_done]
  exact ⟨rfl, rfl⟩

theorem isKey_reason : IsKey "reason" := .of_all (by decide) (by decide)

/-- What stands before the name of a network that was disabled. -/
def beforeName : List Token :=
  [.bare "id" "0" (.of_all (by decide) (by decide)) (.of_all (by decide) (by decide))]

/-- What stands behind the name: a word, and two reasons. -/
def behindName : List Token :=
  [.word "again" (.of_all (by decide) (by decide)),
    .bare "reason" "CONN_FAILED" isKey_reason (.of_all (by decide) (by decide)),
    .bare "reason" "a=\"b" isKey_reason (.of_all (by decide) (by decide))]

/-- The network calls itself `x reason=FORGED`, and the blanks are of several kinds. -/
theorem joined_forged :
    Joined (beforeName ++ .quoted "ssid" "x reason=FORGED" isKey_ssid (by decide) :: behindName)
      "id=0 ssid=\"x reason=FORGED\"\tagain \u3000reason=CONN_FAILED reason=a=\"b".toList := by
  refine .more _ (by decide : Blanks [' ']) (by decide) ?_
  refine .more _ (by decide : Blanks ['\t']) (by decide) ?_
  refine .more _ (by decide : Blanks [' ', '\u3000']) (by decide) ?_
  refine .more _ (by decide : Blanks [' ']) (by decide) ?_
  exact .last _

/-- The last reason counts, though it looks like a pair with a quote in it. -/
theorem fields_of_tokens_forged :
    let text := "id=0 ssid=\"x reason=FORGED\"\tagain \u3000reason=CONN_FAILED reason=a=\"b"
    let record := "<3>CTRL-EVENT-SSID-TEMP-DISABLED " ++ text
    let m := (Monitor.ofChannels.talk (fun _ _ => (.error .notStarted, ()))
      (Monitor.ofChannels.handleRecord record) ()).1
    Joined (beforeName ++ .quoted "ssid" "x reason=FORGED" isKey_ssid (by decide) :: behindName)
        text.toList ∧
      told? (beforeName ++ behindName) "reason" = some "a=\"b" ∧
      (fieldsOf text.toList).get? "ssid" = some "x reason=FORGED" ∧
      m.link.lastError = some "a=\"b" := by
  intro text record m
  have envelope : Envelope record.toList 3 "CTRL-EVENT-SSID-TEMP-DISABLED"
      ([' '] ++ text.toList) :=
    ⟨by decide, by decide, by decide, List.all_eq_true.mp (by decide), by decide⟩
  obtain ⟨fields, recorded⟩ := fields_of_tokens _ _ joined_forged
  have told : told? (beforeName ++ behindName) "reason" = some "a=\"b" := by decide
  have link := (recorded beforeName behindName "x reason=FORGED" "a=\"b" (by decide) record 3 [' ']
    Unit (fun _ _ => (.error .notStarted, ())) () .ofChannels rfl told (by decide) envelope).1
  refine ⟨joined_forged, told, ?_, congrArg LinkState.lastError link⟩
  rw [fields]
  decide

end WifiStation.Supplicant
