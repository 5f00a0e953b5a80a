import WifiStation.Proofs.Text.Number
import WifiStation.Proofs.Text.Words
import WifiStation.Supplicant.Scan

/-!
# WifiStation.Proofs.Supplicant.ScanRow

The form of a row in the reply to a scan.

A line is taken apart in two steps that know nothing of each other. `columns?` cuts it into four
words and the text behind them, whatever these say; `Columns.result?` makes sense of the five parts.
Reading a line is one after the other (`read?_eq`), so what blanks do is settled by facts about
`columns?`, and what may stand in a column by facts about the readers of the columns.

`Row` is the form of a row apart from both: the parts with the gaps between them and the tokens
without their brackets, together with what makes it a row. `Row.Tells` says which network it tells
of. A token counts only for the flag it names, if it names one, so the flags are told as a set
(`Capabilities.contains_ofTokens`).
-/

namespace WifiStation.Supplicant

open WifiStation.Text WifiStation.Net

/-! ### Sets of flags -/

namespace Capabilities

theorem contains_single (s : Capabilities) (c : Capability) :
    s.contains (single c) = s.bits.getLsbD c.index := by
  have bit : 1#7 <<< c.index = BitVec.twoPow 7 c.index := rfl
  have set : BitVec.twoPow 7 c.index ≠ 0#7 := by cases c <;> decide
  rw [contains, single, bit, BitVec.and_twoPow]
  cases s.bits.getLsbD c.index with
  | true => simp
  | false => simp [Ne.symm set]

/-- Every bit of a set is for a flag. -/
theorem exists_index : ∀ i < 7, ∃ c : Capability, c.index = i
  | 0, _ => ⟨.ess, rfl⟩
  | 1, _ => ⟨.wps, rfl⟩
  | 2, _ => ⟨.wep, rfl⟩
  | 3, _ => ⟨.wpaCcmp, rfl⟩
  | 4, _ => ⟨.wpaMixed, rfl⟩
  | 5, _ => ⟨.wpa2Ccmp, rfl⟩
  | 6, _ => ⟨.wpa2Mixed, rfl⟩
  | _ + 7, h => absurd h (by omega)

/-- Two sets with the same flags are the same. -/
theorem eq_of_contains {a b : Capabilities}
    (h : ∀ c, a.contains (single c) = true ↔ b.contains (single c) = true) : a = b := by
  cases a with | mk x =>
  cases b with | mk y =>
  refine congrArg mk (BitVec.eq_of_getLsbD_eq fun i hi => ?_)
  obtain ⟨c, rfl⟩ := exists_index i hi
  have same := h c
  rwa [contains_single, contains_single, ← Bool.eq_iff_iff] at same

theorem contains_union (a b : Capabilities) (c : Capability) :
    (a.union b).contains (single c) = (a.contains (single c) || b.contains (single c)) := by
  simp [contains_single, union]

theorem contains_single_single (a b : Capability) :
    (single a).contains (single b) = decide (b = a) := by
  cases a <;> cases b <;> decide

/-- One set is in another if its flags are. -/
theorem contains_of_forall {a b : Capabilities}
    (h : ∀ c, b.contains (single c) = true → a.contains (single c) = true) :
    a.contains b = true := by
  rw [contains, beq_iff_eq]
  refine BitVec.eq_of_getLsbD_eq fun i hi => ?_
  obtain ⟨c, rfl⟩ := exists_index i hi
  have both := h c
  rw [contains_single, contains_single] at both
  rw [BitVec.getLsbD_and]
  cases flag : b.bits.getLsbD c.index with
  | false => simp
  | true => simp [both flag]

theorem contains_foldl (flags : List Capability) (s : Capabilities) (c : Capability) :
    (flags.foldl (fun s c => s.union (single c)) s).contains (single c) = true ↔
      s.contains (single c) = true ∨ c ∈ flags := by
  induction flags generalizing s with
  | nil => simp
  | cons d flags ih =>
      rw [List.foldl_cons, ih, contains_union, contains_single_single]
      simp [or_assoc]

/-- The flags of tokens are those that a token names. -/
theorem contains_ofTokens (tokens : List String) (c : Capability) :
    (ofTokens tokens).contains (single c) = true ↔
      ∃ token ∈ tokens, Capability.ofToken? token = some c := by
  have none : empty.contains (single c) = false := by cases c <;> decide
  rw [ofTokens, contains_foldl, none, List.mem_filterMap]
  simp

end Capabilities

/-! ### Tokens in brackets -/

/-- A token without brackets. -/
def Plain (token : List Char) : Prop := ∀ c ∈ token, c ≠ '[' ∧ c ≠ ']'

/-- Tokens as they stand in a row, each in brackets. -/
def brackets (tokens : List (List Char)) : List Char := tokens.flatMap fun t => '[' :: (t ++ [']'])

theorem brackets_cons (t : List Char) (tokens : List (List Char)) :
    brackets (t :: tokens) = '[' :: (t ++ ']' :: brackets tokens) := by
  simp [brackets]

/-- The rest of a token is read up to the bracket that closes it. -/
theorem tokensFrom_some {t : List Char} (plain : Plain t) (held rest : List Char) :
    tokensFrom (some held) (t ++ ']' :: rest) =
      (tokensFrom none rest).map ((held.reverse ++ t) :: ·) := by
  induction t generalizing held with
  | nil => simp [tokensFrom]
  | cons c t ih =>
      have outside := plain c List.mem_cons_self
      rw [List.cons_append, tokensFrom, if_neg outside.2, if_neg outside.1,
        ih fun c' hc' => plain c' (List.mem_cons_of_mem c hc')]
      simp

/-- Whole tokens in front are read first. -/
theorem tokensFrom_brackets {tokens : List (List Char)} (plain : ∀ t ∈ tokens, Plain t)
    (rest : List Char) :
    tokensFrom none (brackets tokens ++ rest) = (tokensFrom none rest).map (tokens ++ ·) := by
  induction tokens with
  | nil => simp [brackets]
  | cons t tokens ih =>
      rw [brackets_cons, List.cons_append, tokensFrom, if_pos rfl, List.append_assoc,
        List.cons_append, tokensFrom_some (plain t List.mem_cons_self),
        ih fun t' ht' => plain t' (List.mem_cons_of_mem t ht')]
      cases tokensFrom none rest <;> simp

/-- What is read as tokens is the tokens in brackets; what is read from inside a token starts with
the rest of it. -/
theorem brackets_of_tokensFrom (s : List Char) :
    (∀ tokens, tokensFrom none s = some tokens → s = brackets tokens ∧ ∀ t ∈ tokens, Plain t) ∧
      ∀ held tokens, tokensFrom (some held) s = some tokens →
        ∃ t more, Plain t ∧ (∀ t ∈ more, Plain t) ∧ s = t ++ ']' :: brackets more ∧
          tokens = (held.reverse ++ t) :: more := by
  induction s with
  | nil =>
      constructor
      · intro tokens h
        cases h
        simp [brackets]
      · intro held tokens h
        cases h
  | cons c s ih =>
      constructor
      · intro tokens h
        rw [tokensFrom] at h
        split at h
        · rename_i opening
          obtain ⟨t, more, plain, others, rfl, rfl⟩ := ih.2 [] tokens h
          refine ⟨by rw [opening, List.reverse_nil, List.nil_append, brackets_cons], ?_⟩
          simpa using ⟨plain, others⟩
        · cases h
      · intro held tokens h
        rw [tokensFrom] at h
        split at h
        · rename_i closing
          obtain ⟨more, found, rfl⟩ := Option.map_eq_some_iff.mp h
          obtain ⟨rfl, others⟩ := ih.1 more found
          exact ⟨[], more, by simp [Plain], others, by rw [closing]; rfl, by simp⟩
        · rename_i closing
          split at h
          · cases h
          · rename_i opening
            obtain ⟨t, more, plain, others, rfl, rfl⟩ := ih.2 (c :: held) tokens h
            refine ⟨c :: t, more, ?_, others, rfl, by simp⟩
            simpa [Plain] using ⟨⟨opening, closing⟩, plain⟩

/-- Tokens are read from brackets around them, one or more, and from nothing else. -/
theorem bracketed?_eq_some_iff {s : List Char} {tokens : List (List Char)} :
    bracketed? s = some tokens ↔ tokens ≠ [] ∧ (∀ t ∈ tokens, Plain t) ∧ s = brackets tokens := by
  constructor
  · intro h
    rw [bracketed?] at h
    split at h
    · cases h
    · rename_i nonempty
      obtain ⟨rfl, plain⟩ := (brackets_of_tokensFrom s).1 tokens h
      refine ⟨?_, plain, rfl⟩
      rintro rfl
      simp [brackets] at nonempty
  · rintro ⟨some, plain, rfl⟩
    have read := tokensFrom_brackets plain []
    cases tokens with
    | nil => exact absurd rfl some
    | cons t tokens => simpa [bracketed?, brackets_cons, tokensFrom] using read

/-- Tokens that are read from the start of a text are the first of all. -/
theorem bracketed?_prefix {s more : List Char} {tokens all : List (List Char)}
    (start : bracketed? s = some tokens) (whole : bracketed? (s ++ more) = some all) :
    tokens <+: all := by
  obtain ⟨some, plain, rfl⟩ := bracketed?_eq_some_iff.mp start
  obtain ⟨-, plain', same⟩ := bracketed?_eq_some_iff.mp whole
  have read : tokensFrom none (brackets tokens ++ more) = Option.some all := by
    rw [same]
    simpa [tokensFrom] using tokensFrom_brackets plain' []
  rw [tokensFrom_brackets plain] at read
  obtain ⟨others, -, rfl⟩ := Option.map_eq_some_iff.mp read
  exact List.prefix_append tokens others

/-! ### Columns -/

/-- The words of a line that has four, and the text behind them. -/
structure Columns where
  address : List Char
  frequency : List Char
  level : List Char
  flags : List Char
  name : List Char

/-- Cuts a line into columns. -/
def columns? (line : List Char) : Option Columns := do
  let (address, rest) ← word? line
  let (frequency, rest) ← word? rest
  let (level, rest) ← word? rest
  let (flags, name) ← word? rest
  return { address, frequency, level, flags, name }

/-- The network that columns tell of. -/
def Columns.result? (c : Columns) : Option ScanResult := do
  let bssid ← Mac.read? c.address
  let frequency ← ScanResult.frequency? c.frequency
  let rssi ← signed? 32 c.level
  let tokens ← bracketed? c.flags
  let ssid := String.ofList (trim c.name)
  if ssid.utf8ByteSize ≤ maxNameBytes then
    return { bssid, frequency, rssi, flags := .ofTokens (tokens.map String.ofList), ssid }
  else none

/-- Columns tell of a network exactly if each of them tells of its part. -/
theorem Columns.result?_eq_some_iff {c : Columns} {r : ScanResult} :
    c.result? = some r ↔
      Mac.read? c.address = some r.bssid ∧ ScanResult.frequency? c.frequency = some r.frequency ∧
        signed? 32 c.level = some r.rssi ∧
        (∃ tokens, bracketed? c.flags = some tokens ∧
          r.flags = .ofTokens (tokens.map String.ofList)) ∧
        r.ssid = String.ofList (trim c.name) ∧ r.ssid.utf8ByteSize ≤ maxNameBytes := by
  simp only [result?, Option.bind_eq_bind, Option.bind_eq_some_iff]
  constructor
  · rintro ⟨bssid, address, megahertz, frequency, rssi, level, tokens, flags, h⟩
    split at h
    · rename_i short
      cases h
      exact ⟨address, frequency, level, ⟨tokens, flags, rfl⟩, rfl, short⟩
    · cases h
  · rintro ⟨address, frequency, level, ⟨tokens, flags, named⟩, name, short⟩
    refine ⟨_, address, _, frequency, _, level, tokens, flags, ?_⟩
    rw [← name, if_pos short, ← named]
    rfl

/-- A line is read column by column. -/
theorem ScanResult.read?_eq (line : List Char) :
    ScanResult.read? line = (columns? line).bind Columns.result? := by
  ext r
  simp only [ScanResult.read?, columns?, Columns.result?, Option.bind_eq_bind,
    Option.bind_eq_some_iff, Option.pure_def, Option.some.injEq]
  constructor
  · rintro ⟨_, first, bssid, address, _, second, megahertz, frequency, _, third, rssi, level, _,
      fourth, tokens, flags, told⟩
    exact ⟨_, ⟨_, first, _, second, _, third, _, fourth, rfl⟩, bssid, address, megahertz, frequency,
      rssi, level, tokens, flags, told⟩
  · rintro ⟨_, ⟨_, first, _, second, _, third, _, fourth, rfl⟩, bssid, address, megahertz, frequency,
      rssi, level, tokens, flags, told⟩
    exact ⟨_, first, bssid, address, _, second, megahertz, frequency, _, third, rssi, level, _, fourth,
      tokens, flags, told⟩

/-! ### Rows -/

/-- A token that is all of a word with its brackets: it has no bracket and no blank in it. -/
def IsToken (t : List Char) : Prop := ∀ c ∈ t, c ≠ '[' ∧ c ≠ ']' ∧ isBlank c = false

instance : DecidablePred IsToken := fun t =>
  List.decidableBAll (fun c => c ≠ '[' ∧ c ≠ ']' ∧ isBlank c = false) t

/-- The parts of a row: four columns with blanks in front of each, and what stands behind them. -/
structure Row where
  indent : List Char
  address : List Char
  gap₁ : List Char
  frequency : List Char
  gap₂ : List Char
  level : List Char
  gap₃ : List Char
  /-- The tokens, without their brackets. -/
  tokens : List (List Char)
  tail : List Char
  blanks : Blanks indent ∧ Blanks gap₁ ∧ Blanks gap₂ ∧ Blanks gap₃
  gaps : gap₁ ≠ [] ∧ gap₂ ≠ [] ∧ gap₃ ≠ []
  words : IsWord address ∧ IsWord frequency ∧ IsWord level
  some_token : tokens ≠ []
  are_tokens : ∀ t ∈ tokens, IsToken t
  tail_ends : endsWord tail = true

namespace Row

/-- The line that the parts make up. -/
def line (row : Row) : List Char :=
  row.indent ++ (row.address ++ (row.gap₁ ++ (row.frequency ++ (row.gap₂ ++ (row.level ++
    (row.gap₃ ++ (brackets row.tokens ++ row.tail)))))))

/-- Whether a flag is named by one of the tokens. -/
def Names (row : Row) (c : Capability) : Prop :=
  ∃ t ∈ row.tokens, Capability.ofToken? (String.ofList t) = some c

instance (row : Row) (c : Capability) : Decidable (row.Names c) :=
  inferInstanceAs (Decidable (∃ t ∈ row.tokens, Capability.ofToken? (String.ofList t) = some c))

/-- The network that a row tells of. -/
structure Tells (row : Row) (r : ScanResult) : Prop where
  bssid : Mac.read? row.address = some r.bssid
  frequency : IsDigits row.frequency ∧ decimal row.frequency = r.frequency.toNat
  rssi : SignedDigits row.level r.rssi ∧ -(2 ^ 31 : Nat) ≤ r.rssi ∧ r.rssi < (2 ^ 31 : Nat)
  flags : ∀ c, r.flags.contains (.single c) = true ↔ row.Names c
  ssid : Trims row.tail r.ssid.toList ∧ r.ssid.utf8ByteSize ≤ 32

theorem plain (row : Row) : ∀ t ∈ row.tokens, Plain t := fun t ht c hc =>
  ⟨(row.are_tokens t ht c hc).1, (row.are_tokens t ht c hc).2.1⟩

/-- The tokens in their brackets are one word. -/
theorem isWord_brackets (row : Row) : IsWord (brackets row.tokens) := by
  constructor
  · obtain ⟨t, tokens, shape⟩ := List.exists_cons_of_ne_nil row.some_token
    rw [shape, brackets_cons]
    exact List.cons_ne_nil _ _
  · intro c hc
    obtain ⟨t, ht, hc⟩ := List.mem_flatMap.mp hc
    simp only [List.mem_cons, List.mem_append, List.not_mem_nil, or_false] at hc
    rcases hc with rfl | hc | rfl
    · decide
    · exact (row.are_tokens t ht c hc).2.2
    · decide

/-- The columns of a row. -/
def columns (row : Row) : Columns where
  address := row.address
  frequency := row.frequency
  level := row.level
  flags := brackets row.tokens
  name := row.tail

theorem endsWord_gap {gap s : List Char} (blanks : Blanks gap) (nonempty : gap ≠ []) :
    endsWord (gap ++ s) = true := by
  rw [endsWord_append nonempty, blanks.endsWord]

theorem columns?_line (row : Row) : columns? row.line = some row.columns := by
  obtain ⟨indent, blanks₁, blanks₂, blanks₃⟩ := row.blanks
  obtain ⟨gap₁, gap₂, gap₃⟩ := row.gaps
  obtain ⟨address, frequency, level⟩ := row.words
  simp only [columns?, line, Option.bind_eq_bind, Option.bind_some, Option.pure_def,
    word?_of_gap indent address (endsWord_gap blanks₁ gap₁),
    word?_of_gap blanks₁ frequency (endsWord_gap blanks₂ gap₂),
    word?_of_gap blanks₂ level (endsWord_gap blanks₃ gap₃),
    word?_of_gap blanks₃ row.isWord_brackets row.tail_ends]
  rfl

end Row

theorem ScanResult.frequency?_eq_some_iff {s : List Char} {w : UInt32} :
    ScanResult.frequency? s = some w ↔ IsDigits s ∧ decimal s = w.toNat := by
  simp only [ScanResult.frequency?, Option.map_eq_some_iff, Option.filter_eq_some_iff,
    digits?_eq_some_iff, decide_eq_true_eq]
  constructor
  · rintro ⟨n, ⟨⟨digits, rfl⟩, bound⟩, rfl⟩
    exact ⟨digits, (UInt32.toNat_ofNat_of_lt' bound).symm⟩
  · rintro ⟨digits, value⟩
    have bound := w.toNat_lt
    exact ⟨decimal s, ⟨⟨digits, rfl⟩, by omega⟩, by rw [value, UInt32.ofNat_toNat]⟩

theorem gap_ne_nil {gap w rest : List Char} (ends : endsWord (gap ++ (w ++ rest)) = true)
    (word : IsWord w) : gap ≠ [] := by
  rintro rfl
  obtain ⟨c, w', rfl⟩ := List.exists_cons_of_ne_nil word.ne_nil
  have letter : isBlank c = false := word.no_blank c List.mem_cons_self
  have blank : isBlank c = true := ends
  rw [letter] at blank
  cases blank

/-- A line with four columns, the last of them tokens, is laid out as a row. -/
theorem exists_row {line : List Char} {c : Columns} {tokens : List (List Char)}
    (h : columns? line = some c) (flags : bracketed? c.flags = some tokens) :
    ∃ row : Row, row.line = line ∧ row.columns = c := by
  simp only [columns?, Option.bind_eq_bind, Option.bind_eq_some_iff, Option.pure_def,
    Option.some.injEq] at h
  obtain ⟨⟨address, _⟩, first, ⟨frequency, _⟩, second, ⟨level, _⟩, third, ⟨_, tail⟩, fourth, rfl⟩ := h
  obtain ⟨indent, blanks₀, isAddress, ends₁, rfl⟩ := exists_gap_of_word? first
  obtain ⟨gap₁, blanks₁, isFrequency, ends₂, rfl⟩ := exists_gap_of_word? second
  obtain ⟨gap₂, blanks₂, isLevel, ends₃, rfl⟩ := exists_gap_of_word? third
  obtain ⟨gap₃, blanks₃, isFlags, ends, rfl⟩ := exists_gap_of_word? fourth
  obtain ⟨some_token, plain, rfl⟩ := bracketed?_eq_some_iff.mp flags
  refine ⟨{
    indent, address, gap₁, frequency, gap₂, level, gap₃, tokens, tail, some_token
    blanks := ⟨blanks₀, blanks₁, blanks₂, blanks₃⟩
    gaps := ⟨gap_ne_nil ends₁ isFrequency, gap_ne_nil ends₂ isLevel, gap_ne_nil ends₃ isFlags⟩
    words := ⟨isAddress, isFrequency, isLevel⟩
    are_tokens := fun t ht c hc => ⟨(plain t ht c hc).1, (plain t ht c hc).2, ?_⟩
    tail_ends := ends }, rfl, rfl⟩
  refine isFlags.no_blank c (List.mem_flatMap.mpr ⟨t, ht, ?_⟩)
  simp [hc]

/-- What the columns of a row tell of is what the row tells of. -/
theorem Row.result?_columns_iff (row : Row) (r : ScanResult) :
    row.columns.result? = some r ↔ row.Tells r := by
  have tokens : bracketed? (brackets row.tokens) = some row.tokens :=
    bracketed?_eq_some_iff.mpr ⟨row.some_token, row.plain, rfl⟩
  have named (c : Capability) :
      (Capabilities.ofTokens (row.tokens.map String.ofList)).contains (.single c) = true ↔
        row.Names c := by
    rw [Capabilities.contains_ofTokens]
    simp [Names]
  rw [Columns.result?_eq_some_iff]
  constructor
  · rintro ⟨address, frequency, level, ⟨all, flags, sameFlags⟩, name, short⟩
    obtain rfl : row.tokens = all := Option.some.inj (tokens.symm.trans flags)
    refine ⟨address, ScanResult.frequency?_eq_some_iff.mp frequency, signed?_eq_some_iff.mp level,
      fun c => ?_, ?_, short⟩
    · rw [sameFlags, named]
    · rw [name, String.toList_ofList]
      exact trims_trim row.tail
  · rintro ⟨address, frequency, level, flags, name, short⟩
    refine ⟨address, ScanResult.frequency?_eq_some_iff.mpr frequency, signed?_eq_some_iff.mpr level,
      ⟨row.tokens, tokens, ?_⟩, ?_, short⟩
    · exact Capabilities.eq_of_contains fun c => (flags c).trans (named c).symm
    · rw [show trim row.columns.name = r.ssid.toList from trim_eq_iff.mpr name, String.ofList_toList]

/-- A line is read exactly if it is laid out as a row that tells of the network. -/
theorem ScanResult.read?_iff_exists_row {line : List Char} {r : ScanResult} :
    ScanResult.read? line = some r ↔ ∃ row : Row, row.line = line ∧ row.Tells r := by
  rw [ScanResult.read?_eq, Option.bind_eq_some_iff]
  constructor
  · rintro ⟨c, cut, told⟩
    obtain ⟨-, -, -, ⟨tokens, flags, -⟩, -⟩ := Columns.result?_eq_some_iff.mp told
    obtain ⟨row, rfl, rfl⟩ := exists_row cut flags
    exact ⟨row, rfl, (row.result?_columns_iff r).mp told⟩
  · rintro ⟨row, rfl, told⟩
    exact ⟨row.columns, row.columns?_line, (row.result?_columns_iff r).mpr told⟩

/-- Tokens count for the flags they name and for nothing else. -/
theorem Row.flags_eq {row row' : Row} {r r' : ScanResult} (told : row.Tells r) (told' : row'.Tells r')
    (same : ∀ c, row.Names c ↔ row'.Names c) : r.flags = r'.flags :=
  Capabilities.eq_of_contains fun c => (told.flags c).trans ((same c).trans (told'.flags c).symm)

/-- A line of the reply to a scan is read if and only if it is a row: an address, a frequency, a
level and tokens in brackets, with blanks in front of each and any number of them before the first,
then a name that is trimmed and may be empty. Nothing is read but what the row tells of. Of the
tokens only the set of flags that they name matters, not their order, nor how often they stand
there, nor which other tokens do. -/
theorem read?_iff_row :
    (∀ line r, ScanResult.read? line = some r ↔ ∃ row : Row, row.line = line ∧ row.Tells r) ∧
      ∀ (row row' : Row) (r r' : ScanResult), row.Tells r → row'.Tells r' →
        (∀ c, row.Names c ↔ row'.Names c) → r.flags = r'.flags :=
  ⟨fun _ _ => ScanResult.read?_iff_exists_row, fun _ _ _ _ => Row.flags_eq⟩

theorem read?_iff_row_reordered :
    ∃ row row' : Row,
      row.line = "aa:bb:cc:dd:ee:ff 2437 -45 [WPA2-PSK-CCMP][ESS] MyNetwork".toList ∧
      row'.line = "\t00:11:22:33:44:5F\t5180\t+7\t[ESS][P2P][ESS][WPA2-PSK-CCMP]".toList ∧
      ∃ r r' : ScanResult, row.Tells r ∧ row'.Tells r' ∧ (∀ c, row.Names c ↔ row'.Names c) ∧
        r.flags = r'.flags := by
  let row : Row := {
    indent := [], address := "aa:bb:cc:dd:ee:ff".toList, gap₁ := [' '], frequency := "2437".toList
    gap₂ := [' '], level := "-45".toList, gap₃ := [' ']
    tokens := ["WPA2-PSK-CCMP".toList, "ESS".toList], tail := " MyNetwork".toList
    blanks := by decide, gaps := by decide, words := by decide, some_token := by decide
    are_tokens := by decide, tail_ends := by decide }
  let row' : Row := {
    indent := ['\t'], address := "00:11:22:33:44:5F".toList, gap₁ := ['\t']
    frequency := "5180".toList, gap₂ := ['\t'], level := "+7".toList, gap₃ := ['\t']
    tokens := ["ESS".toList, "P2P".toList, "ESS".toList, "WPA2-PSK-CCMP".toList], tail := []
    blanks := by decide, gaps := by decide, words := by decide, some_token := by decide
    are_tokens := by decide, tail_ends := by decide }
  have tells : row.Tells ⟨⟨0xAA, 0xBB, 0xCC, 0xDD, 0xEE, 0xFF⟩, 2437, -45, ⟨0b0100001⟩, "MyNetwork"⟩ :=
    (row.result?_columns_iff _).mp (by decide)
  have tells' : row'.Tells ⟨⟨0, 0x11, 0x22, 0x33, 0x44, 0x5F⟩, 5180, 7, ⟨0b0100001⟩, ""⟩ :=
    (row'.result?_columns_iff _).mp (by decide)
  have names : ∀ c, row.Names c ↔ row'.Names c := by
    intro c
    cases c <;> decide
  exact ⟨row, row', by decide, by decide, _, _, tells, tells', names,
    read?_iff_row.2 row row' _ _ tells tells' names⟩

end WifiStation.Supplicant
