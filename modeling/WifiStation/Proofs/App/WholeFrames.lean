import WifiStation.Proofs.App.Alignment

/-!
# WifiStation.Proofs.App.WholeFrames

Which bytes are messages, and what is read of bytes that are none.

`WholeFrame` is the format of a message by itself, without its reader or its writer: two bytes, any
number of complete fields, and a complete field of kind zero. What the second byte announces does
not matter.

* The format has one spelling: a field that was read is written back to the bytes that it was read
  from (`Field.eq_encode_of_take?`). So the bytes of a `Transmission` are the whole messages and
  nothing else is (`wholeFrame_iff`), and every message that is read stands in the bytes
  (`Frame.eq_bytes_of_take?`).
* Reading a part of a stream gives the messages that end in it, and stops inside the next one unless
  the part ends where a message does (`readAll_part`). Any bytes are such a part: whole messages and
  then something that is not whole (`takeAll_eq`).
* What was written for any list of fields is whole, so it is read without a trace of how many fields
  there were or how much of a payload was left out, other than one issue
  (`take?_encode_any_fields`).
-/

namespace WifiStation.App

open WifiStation.Wire

/-! ### The format -/

/-- The bytes of a complete field: the kind, the length of the payload, two words, the payload. -/
inductive WholeField (kind : UInt8) : List UInt8 → Prop where
  | intro (l1 l0 : UInt8) (words payload : List UInt8) (wide : words.length = 8)
      (full : payload.length = 256 * l1.toNat + l0.toNat) :
      WholeField kind (kind :: l1 :: l0 :: (words ++ payload))

/-- The bytes of complete fields, of which the last one and no other is of kind zero. -/
inductive WholeFields : List UInt8 → Prop where
  | last {bs : List UInt8} (ends : WholeField 0 bs) : WholeFields bs
  | cons {kind : UInt8} {bs rest : List UInt8} (inner : kind ≠ 0) (first : WholeField kind bs)
      (others : WholeFields rest) : WholeFields (bs ++ rest)

/-- The bytes of a complete message: its type, a number, and its fields. -/
inductive WholeFrame : List UInt8 → Prop where
  | intro (type declared : UInt8) {bs : List UInt8} (fields : WholeFields bs) :
      WholeFrame (type :: declared :: bs)

/-! ### What is written is whole -/

theorem toNat_word16 (a b : UInt8) : (word16 a b).toNat = 256 * a.toNat + b.toNat := by
  have := a.toNat_lt; have := b.toNat_lt
  simp only [word16, UInt16.toNat_ofNat']
  omega

namespace Field

theorem whole_encode (f : Field) : WholeField f.kind f.encode := by
  have small : (f.payload.take maxPayload).length ≤ maxPayload := List.length_take_le _ _
  rw [encode, List.append_assoc, List.append_assoc, ← List.append_assoc (bytes32 f.v0)]
  refine .intro _ _ (bytes32 f.v0 ++ bytes32 f.v1) _ (by simp) ?_
  rw [maxPayload] at small
  simp only [UInt8.toNat_ofNat', UInt16.toNat_ofNat', maxPayload]
  omega

theorem length_encode (f : Field) : 11 ≤ f.encode.length := by
  simp only [encode, List.length_cons, List.length_append, length_bytes16, length_bytes32]
  omega

/-- A field that was read was written that way: the format has no second spelling. -/
theorem eq_encode_of_take? {bs rest : List UInt8} {f : Field} (h : take? bs = some (f, rest)) :
    bs = f.encode ++ rest := by
  unfold take? at h
  split at h
  · rename_i k l1 l0 a b c d e g i j tail
    simp only at h
    split at h
    · cases h
    · rename_i enough
      cases h
      have size : (tail.take (word16 l1 l0).toNat).length = (word16 l1 l0).toNat := by
        rw [List.length_take] at enough ⊢
        omega
      have uncut : (tail.take (word16 l1 l0).toNat).take maxPayload =
          tail.take (word16 l1 l0).toNat :=
        List.take_of_length_le (by have := (word16 l1 l0).toNat_lt; rw [size, maxPayload]; omega)
      simp only [encode, uncut, size, UInt16.ofNat_toNat, bytes16_word16, bytes32_word32,
        List.cons_append, List.nil_append, List.take_append_drop]
  · cases h

end Field

/-- A complete field is what is written for some field. -/
theorem wholeField_iff {kind : UInt8} {bs : List UInt8} :
    WholeField kind bs ↔ ∃ f : Field, f.kind = kind ∧ f.encode = bs := by
  constructor
  · rintro ⟨l1, l0, words, payload, wide, full⟩
    match words, wide with
    | [a, b, c, d, e, f, g, h], _ =>
      have read : Field.take? (kind :: l1 :: l0 :: ([a, b, c, d, e, f, g, h] ++ payload)) =
          some (⟨kind, word32 a b c d, word32 e f g h, payload⟩, []) := by
        have size : (word16 l1 l0).toNat = payload.length := (toNat_word16 l1 l0).trans full.symm
        simp only [List.cons_append, List.nil_append, Field.take?, size, List.take_length,
          List.drop_length, Nat.lt_irrefl, if_false]
      exact ⟨_, rfl, ((Field.eq_encode_of_take? read).trans (List.append_nil _)).symm⟩
  · rintro ⟨f, rfl, rfl⟩
    exact f.whole_encode

theorem wholeFields_iff {bs : List UInt8} :
    WholeFields bs ↔ ∃ (fs : List Field) (last : Field), (∀ f ∈ fs, f.kind ≠ 0) ∧ last.kind = 0 ∧
      fs.flatMap Field.encode ++ last.encode = bs := by
  constructor
  · intro h
    induction h with
    | last ends =>
        obtain ⟨last, kind, rfl⟩ := wholeField_iff.mp ends
        exact ⟨[], last, List.forall_mem_nil _, kind, rfl⟩
    | cons inner first _ ih =>
        obtain ⟨f, rfl, rfl⟩ := wholeField_iff.mp first
        obtain ⟨fs, last, kinds, ends, rfl⟩ := ih
        exact ⟨f :: fs, last, List.forall_mem_cons.mpr ⟨inner, kinds⟩, ends, List.append_assoc ..⟩
  · rintro ⟨fs, last, kinds, ends, rfl⟩
    induction fs with
    | nil => exact .last (ends ▸ last.whole_encode)
    | cons f fs ih =>
        obtain ⟨inner, kinds⟩ := List.forall_mem_cons.mp kinds
        rw [List.flatMap_cons, List.append_assoc]
        exact .cons inner f.whole_encode (ih kinds)

/-- The whole messages are the bytes of transmissions. -/
theorem wholeFrame_iff {bs : List UInt8} : WholeFrame bs ↔ ∃ t : Transmission, t.bytes = bs := by
  constructor
  · rintro ⟨type, declared, fields⟩
    obtain ⟨fs, last, kinds, ends, rfl⟩ := wholeFields_iff.mp fields
    exact ⟨⟨type, declared, fs, last, kinds, ends⟩, rfl⟩
  · rintro ⟨t, rfl⟩
    exact .intro t.type t.declared (wholeFields_iff.mpr ⟨t.fields, t.last, t.inner, t.ends, rfl⟩)

theorem wholeFrames_iff {parts : List (List UInt8)} :
    (∀ p ∈ parts, WholeFrame p) ↔ ∃ ts : List Transmission, ts.map Transmission.bytes = parts := by
  constructor
  · intro whole
    induction parts with
    | nil => exact ⟨[], rfl⟩
    | cons p parts ih =>
        obtain ⟨first, others⟩ := List.forall_mem_cons.mp whole
        obtain ⟨t, rfl⟩ := wholeFrame_iff.mp first
        obtain ⟨ts, rfl⟩ := ih others
        exact ⟨t :: ts, rfl⟩
  · rintro ⟨ts, rfl⟩ p hp
    obtain ⟨t, -, rfl⟩ := List.mem_map.mp hp
    exact wholeFrame_iff.mpr ⟨t, rfl⟩

/-- A message takes thirteen bytes at least: two, and the field that ends it. -/
theorem Transmission.length_bytes (t : Transmission) : 13 ≤ t.bytes.length := by
  have := t.last.length_encode
  simp only [bytes, List.length_cons, List.length_append]
  omega

/-- A stream is made of whole messages in one way. -/
theorem flatMap_bytes_unique {ts us : List Transmission}
    (same : ts.flatMap Transmission.bytes = us.flatMap Transmission.bytes) :
    ts.map Transmission.bytes = us.map Transmission.bytes := by
  induction ts generalizing us with
  | nil =>
      cases us with
      | nil => rfl
      | cons u us =>
          have := u.length_bytes
          rw [List.flatMap_nil, List.flatMap_cons] at same
          rw [(List.append_eq_nil_iff.mp same.symm).1] at this
          cases this
  | cons t ts ih =>
      cases us with
      | nil =>
          have := t.length_bytes
          rw [List.flatMap_nil, List.flatMap_cons] at same
          rw [(List.append_eq_nil_iff.mp same).1] at this
          cases this
      | cons u us =>
          -- the reader finds the end of the first message, and it has one answer
          have first := t.take?_bytes (ts.flatMap Transmission.bytes)
          rw [List.flatMap_cons, List.flatMap_cons] at same
          rw [same, u.take?_bytes] at first
          simp only [Option.some.injEq, Prod.mk.injEq] at first
          rw [first.2] at same
          rw [List.map_cons, List.map_cons, List.append_cancel_right same, ih first.2.symm]

theorem length_flatMap_bytes (ts : List Transmission) :
    13 * ts.length ≤ (ts.flatMap Transmission.bytes).length := by
  induction ts with
  | nil => exact Nat.le_refl 0
  | cons t ts ih =>
      have := t.length_bytes
      simp only [List.flatMap_cons, List.length_cons, List.length_append]
      omega

/-! ### What is read was whole -/

theorem eq_encode_of_takeFields? {bs rest : List UInt8} {fs : List Field}
    (h : takeFields? bs = some (fs, rest)) :
    ∃ last : Field, (∀ f ∈ fs, f.kind ≠ 0) ∧ last.kind = 0 ∧
      bs = fs.flatMap Field.encode ++ (last.encode ++ rest) := by
  fun_induction takeFields? bs generalizing fs rest with
  | case1 => cases h
  | case2 bs f tail hf ends =>
      cases h
      exact ⟨f, List.forall_mem_nil _, beq_iff_eq.mp ends, Field.eq_encode_of_take? hf⟩
  | case3 bs f tail hf inner ih =>
      obtain ⟨r, hr, hfr⟩ := Option.map_eq_some_iff.mp h
      cases hfr
      obtain ⟨last, kinds, ends, rfl⟩ := ih hr
      refine ⟨last, List.forall_mem_cons.mpr ⟨fun kind => inner (beq_iff_eq.mpr kind), kinds⟩, ends,
        ?_⟩
      rw [List.flatMap_cons, List.append_assoc]
      exact Field.eq_encode_of_take? hf

/-- A message that is read is whole in the bytes, and says what it says there. -/
theorem Frame.eq_bytes_of_take? {bs rest : List UInt8} {f : Frame}
    (h : Frame.take? bs = some (f, rest)) :
    ∃ t : Transmission, t.frame = f ∧ bs = t.bytes ++ rest := by
  match bs with
  | [] => cases h
  | [_] => cases h
  | type :: declared :: bs =>
      have read := h
      rw [Frame.take?_cons] at read
      obtain ⟨r, hr, hfr⟩ := Option.map_eq_some_iff.mp read
      cases hfr
      obtain ⟨last, kinds, ends, rfl⟩ := eq_encode_of_takeFields? hr
      have bytes : type :: declared :: (r.1.flatMap Field.encode ++ (last.encode ++ r.2)) =
          (⟨type, declared, r.1, last, kinds, ends⟩ : Transmission).bytes ++ r.2 := by
        simp [Transmission.bytes]
      rw [bytes, Transmission.take?_bytes] at h
      exact ⟨_, congrArg Prod.fst (Option.some.inj h), bytes⟩

/-- Any bytes are whole messages, those that are read, and then something that starts with none. -/
theorem Frame.takeAll_eq (bs : List UInt8) :
    ∃ ts : List Transmission, (Frame.takeAll bs).1 = ts.map Transmission.frame ∧
      bs = ts.flatMap Transmission.bytes ++ (Frame.takeAll bs).2 := by
  fun_induction Frame.takeAll bs with
  | case1 bs hf => exact ⟨[], rfl, rfl⟩
  | case2 bs f rest hf r ih =>
      obtain ⟨t, rfl, rfl⟩ := Frame.eq_bytes_of_take? hf
      obtain ⟨ts, frames, rest_eq⟩ := ih
      refine ⟨t :: ts, congrArg (t.frame :: ·) frames, ?_⟩
      rw [List.flatMap_cons, List.append_assoc]
      exact congrArg (t.bytes ++ ·) rest_eq

/-! ### Streams that break off -/

/-- The end is that of a message if nothing is left over. -/
theorem Frame.readAll_boundary_iff (bs : List UInt8) :
    (Frame.readAll bs).2 = .boundary ↔ (Frame.takeAll bs).2 = [] := by
  rw [Frame.readAll]
  cases (Frame.takeAll bs).2 <;> simp

/-- Of a stream that is cut somewhere the messages before the cut are read. Those are some at its
start, and the one behind them does not end before the cut. -/
theorem Frame.readAll_part (ts : List Transmission) {n : Nat}
    (inside : n ≤ (ts.flatMap Transmission.bytes).length) :
    ∃ done others : List Transmission, ts = done ++ others ∧
      (done.flatMap Transmission.bytes).length ≤ n ∧
      (∀ t ∈ others.head?, n < ((done ++ [t]).flatMap Transmission.bytes).length) ∧
      Frame.readAll ((ts.flatMap Transmission.bytes).take n) = (done.map Transmission.frame,
        if (done.flatMap Transmission.bytes).length = n then .boundary else .inside) := by
  have parts := List.take_append_drop n (ts.flatMap Transmission.bytes)
  have size : ((ts.flatMap Transmission.bytes).take n).length = n := by
    rw [List.length_take, Nat.min_eq_left inside]
  generalize (ts.flatMap Transmission.bytes).take n = bs at parts size ⊢
  generalize (ts.flatMap Transmission.bytes).drop n = more at parts
  obtain ⟨done, others, rfl, frames, behind⟩ := Frame.takeAll_part Transmission.take?_bytes parts
  obtain ⟨left, hleft⟩ : ∃ left, (Frame.takeAll bs).2 = left := ⟨_, rfl⟩
  have stuck := Frame.take?_takeAll bs
  rw [hleft] at stuck behind
  have split : bs = done.flatMap Transmission.bytes ++ left := by
    rw [List.flatMap_append, ← behind, ← List.append_assoc] at parts
    exact List.append_cancel_right parts
  have sum : (done.flatMap Transmission.bytes).length + left.length = n := by
    rw [← List.length_append, ← split, size]
  refine ⟨done, others, rfl, by omega, fun t ht => ?_, ?_⟩
  · -- what is left would start with the next message if that were complete
    obtain ⟨rest, rfl⟩ : ∃ rest, others = t :: rest := List.head?_eq_some_iff.mp ht
    rw [List.flatMap_cons] at behind
    have short : left.length < t.bytes.length := by
      refine Nat.lt_of_not_le fun enough => ?_
      obtain ⟨tail, rfl⟩ := List.prefix_of_prefix_length_le
        (List.prefix_append t.bytes _) (behind ▸ List.prefix_append left more) enough
      rw [t.take?_bytes] at stuck
      cases stuck
    simp only [List.flatMap_append, List.flatMap_singleton, List.length_append]
    omega
  · rw [Frame.readAll, frames, hleft]
    congr 1
    have atEnd : (done.flatMap Transmission.bytes).length = n ↔ left.isEmpty = true := by
      rw [List.isEmpty_iff_length_eq_zero]
      omega
    simp only [atEnd]

/-- **Reading any bytes ends, and invents no message.** A message takes thirteen bytes at least.
The end is that of a message if and only if the bytes are whole messages one after the other, and
inside one otherwise. If such bytes are cut anywhere, what is read is what is said in the messages
that end before the cut, whatever numbers they announce, and the end is that of a message if and
only if one ends at the cut. -/
theorem readAll_whole_frames (bs : List UInt8) :
    (Frame.readAll bs).1.length ≤ bs.length / 13 ∧
    ((Frame.readAll bs).2 = .boundary ↔
      ∃ parts : List (List UInt8), (∀ p ∈ parts, WholeFrame p) ∧ parts.flatten = bs) ∧
    ∀ parts : List (List UInt8), (∀ p ∈ parts, WholeFrame p) → parts.flatten = bs →
      (∀ others, (∀ p ∈ others, WholeFrame p) → others.flatten = bs → others = parts) ∧
      ∀ n ≤ bs.length, ∃ done others : List Transmission,
        (done ++ others).map Transmission.bytes = parts ∧
        (done.flatMap Transmission.bytes).length ≤ n ∧
        (∀ t ∈ others.head?, n < ((done ++ [t]).flatMap Transmission.bytes).length) ∧
        Frame.readAll (bs.take n) = (done.map Transmission.frame,
          if (done.flatMap Transmission.bytes).length = n then .boundary else .inside) := by
  obtain ⟨ts, frames, split⟩ := Frame.takeAll_eq bs
  refine ⟨?_, ⟨fun ends => ?_, ?_⟩, ?_⟩
  · have size := congrArg List.length split
    have := length_flatMap_bytes ts
    rw [List.length_append] at size
    rw [Frame.readAll, frames, List.length_map]
    omega
  · rw [(Frame.readAll_boundary_iff bs).mp ends, List.append_nil] at split
    exact ⟨ts.map Transmission.bytes, wholeFrames_iff.mpr ⟨ts, rfl⟩, split.symm⟩
  · rintro ⟨parts, whole, rfl⟩
    obtain ⟨us, rfl⟩ := wholeFrames_iff.mp whole
    have nothing := Frame.takeAll_stream Transmission.take?_bytes us
      (show Frame.take? [] = none from rfl)
    rw [List.append_nil] at nothing
    rw [Frame.readAll_boundary_iff, ← List.flatMap_def, nothing]
  · rintro parts whole rfl
    obtain ⟨us, rfl⟩ := wholeFrames_iff.mp whole
    rw [← List.flatMap_def]
    refine ⟨fun others whole' same => ?_, fun n inside => ?_⟩
    · obtain ⟨vs, rfl⟩ := wholeFrames_iff.mp whole'
      rw [← List.flatMap_def] at same
      exact flatMap_bytes_unique same
    obtain ⟨done, others, rfl, read⟩ := Frame.readAll_part us inside
    exact ⟨done, others, rfl, read⟩

/-- Two messages without fields, the second of which announces some. -/
theorem readAll_whole_frames_cut :
    let first : List UInt8 := [0, 0, 0, 0, 0, 0, 0, 0, 0, 0, 0, 0, 0]
    let second : List UInt8 := [1, 9, 0, 0, 1, 0, 0, 0, 0, 0, 0, 0, 0, 7]
    (∀ p ∈ [first, second], WholeFrame p) ∧ [first, second].flatten = first ++ second ∧
      20 ≤ (first ++ second).length ∧ ∃ done others : List Transmission,
        (done ++ others).map Transmission.bytes = [first, second] ∧
        (done.flatMap Transmission.bytes).length ≤ 20 ∧
        (∀ t ∈ others.head?, 20 < ((done ++ [t]).flatMap Transmission.bytes).length) ∧
        Frame.readAll ((first ++ second).take 20) = (done.map Transmission.frame,
          if (done.flatMap Transmission.bytes).length = 20 then .boundary else .inside) := by
  intro first second
  have whole : ∀ p ∈ [first, second], WholeFrame p := by
    refine List.forall_mem_cons.mpr ⟨?_, List.forall_mem_singleton.mpr ?_⟩
    · exact .intro 0 0 (.last (.intro 0 0 [0, 0, 0, 0, 0, 0, 0, 0] [] rfl rfl))
    · exact .intro 1 9 (.last (.intro 0 1 [0, 0, 0, 0, 0, 0, 0, 0] [7] rfl rfl))
  have inside : 20 ≤ (first ++ second).length := by decide
  exact ⟨whole, rfl, inside,
    ((readAll_whole_frames (first ++ second)).2.2 [first, second] whole rfl).2 20 inside⟩

/-! ### What is written for any fields -/

/-- What the fields of a message tell: of every kind the last one counts. -/
def lastWins (type : UInt8) (fs : List Field) : Option Message :=
  (MessageType.ofCode? type).map fun
    | .appStateUpdate => .app
      { index := (lastOf? .appIndex fs).map Field.v0
        app := (lastOf? .appState fs).map Field.pair
        connectivity := (lastOf? .connectivity fs).map Field.pair }
    | .networkStateUpdate => .network
      { supplicant := ((lastOf? .supplicantState fs).map Field.pair).getD {}
        dhcp4 := ((lastOf? .dhcp4State fs).map Field.pair).getD {} }

theorem MessageType.ofCode?_eq (b : UInt8) : ofCode? b =
    if b = 0 then some .appStateUpdate else if b = 1 then some .networkStateUpdate else none := by
  simp only [ofCode?, ← UInt8.toNat_inj, UInt8.toNat_zero, UInt8.toNat_one]
  split <;> simp_all

theorem Transmission.message_eq (t : Transmission) : t.message = lastWins t.type t.fields := by
  rw [message, lastWins, MessageType.ofCode?_eq]
  split
  · rfl
  · split <;> rfl

/-- If as many fields are announced as a byte can say, up to all of them, the first one that is not
announced is told. -/
theorem Transmission.issues_of_capped (t : Transmission)
    (capped : t.declared.toNat = min t.fields.length 255) : t.issues =
      if many : 255 < t.fields.length then [.missingTerminator t.fields[255].kind] else [] := by
  rw [issues, if_neg (by omega)]
  by_cases many : 255 < t.fields.length
  · have full : t.declared.toNat = 255 := by omega
    simp only [full, many, dif_pos]
  · rw [dif_neg many, dif_neg (by omega)]

/-- **Any list of fields is read as it was written.** Whatever their number and the length of their
payloads, all fields count, of each kind the last; the reader stands at the first byte behind them;
and all that is told of more than 255 fields is the kind of the first one too many. -/
theorem take?_encode_any_fields (type : UInt8) (fs : List Field) (kinds : ∀ f ∈ fs, f.kind ≠ 0)
    (rest : List UInt8) :
    Frame.take? (encode type fs ++ rest) = some (⟨type, lastWins type fs,
      if many : 255 < fs.length then [.missingTerminator fs[255].kind] else []⟩, rest) := by
  have capped : (UInt8.ofNat (min fs.length 255)).toNat = min fs.length 255 := by
    rw [UInt8.toNat_ofNat', Nat.mod_eq_of_lt (by omega)]
  let t : Transmission := ⟨type, UInt8.ofNat (min fs.length 255), fs, .terminator, kinds, rfl⟩
  rw [← t.message_eq, ← t.issues_of_capped capped]
  exact t.take?_bytes rest

/-- As many fields as can be announced, and one more, whose payload is longer than its length can
say. -/
def longFields : List Field :=
  List.replicate 255 { kind := 1, v0 := 7 } ++
    [{ kind := 2, v0 := 1, payload := List.replicate 70000 0 }]

theorem take?_encode_any_fields_long :
    (∀ f ∈ longFields, f.kind ≠ 0) ∧
      Frame.take? (encode 0 longFields ++ [1, 2, 3]) =
        some (⟨0, some (.app { index := some 7, app := some ⟨1, 0⟩ }), [.missingTerminator 2]⟩,
          [1, 2, 3]) := by
  have kinds : ∀ f ∈ longFields, f.kind ≠ 0 := by
    intro f hf
    rcases List.mem_append.mp hf with short | long
    · rw [List.eq_of_mem_replicate short]
      decide
    · rw [List.mem_singleton.mp long]
      decide
  have many : 255 < longFields.length := by simp [longFields, -List.reduceReplicate]
  have extra : longFields[255].kind = 2 := by simp [longFields, -List.reduceReplicate]
  have told : lastWins 0 longFields =
      some (.app { index := some 7, app := some ⟨1, 0⟩ }) := by
    simp [lastWins, MessageType.ofCode?_eq, lastOf?, longFields, FieldKind.code, Field.pair,
      List.getLast?_replicate, -List.reduceReplicate]
  have read := take?_encode_any_fields 0 longFields kinds [1, 2, 3]
  rw [dif_pos many, extra, told] at read
  exact ⟨kinds, read⟩

end WifiStation.App
