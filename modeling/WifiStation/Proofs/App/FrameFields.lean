import WifiStation.App.Frame

/-!
# WifiStation.Proofs.App.FrameFields

A message on the wire as the list of its fields.

The reader of a message has a loop for the fields that were announced, which a terminator may end
early, and a loop for those behind them. `takeFields?` is the plain view of the same bytes: all
fields up to the terminator, whatever was announced.

* `takeAnnounced_outcome` says where the first loop can end, in terms of the view, and
  `takeSurplus_eq` what the second one adds; together they give the whole reader
  (`Frame.take?_cons`).
* Fields that were written come back (`Field.take?_encode`, `takeFields?_encode`), with payloads cut
  to what their length can say, and so does a message (`Frame.take?_encode`).
* What is complete stays what it is when more bytes follow (`Frame.take?_append`), so a stream may
  be read in pieces (`Frame.takeAll_append`). Any part of a stream holds the first of its messages,
  and the rest of it, behind what has been received of the next one, the others
  (`Frame.takeAll_part`).
-/

namespace WifiStation.App

open WifiStation.Wire

/-! ### One field -/

/-- The field as it is written: with as much of the payload as its length can say. -/
def Field.cut (f : Field) : Field := { f with payload := f.payload.take maxPayload }

@[simp] theorem Field.isTerminator_cut (f : Field) : f.cut.isTerminator = f.isTerminator := rfl

/-- A length that sixteen bits can say is read as it was written. -/
theorem toNat_word16_ofNat {n : Nat} (small : n < 65536) :
    (word16 (UInt8.ofNat (n / 256)) (UInt8.ofNat n)).toNat = n := by
  simp only [word16, UInt16.toNat_ofNat', UInt8.toNat_ofNat']
  omega

/-- A field that was written comes back, and the bytes behind it are left. -/
theorem Field.take?_encode (f : Field) (rest : List UInt8) :
    Field.take? (f.encode ++ rest) = some (f.cut, rest) := by
  have small : (f.payload.take maxPayload).length < 65536 :=
    Nat.lt_succ_of_le (List.length_take_le _ _)
  have size : (UInt16.ofNat (f.payload.take maxPayload).length).toNat =
      (f.payload.take maxPayload).length := by
    rw [UInt16.toNat_ofNat', Nat.mod_eq_of_lt small]
  simp only [encode, bytes16, bytes32, List.cons_append, List.nil_append, take?, size,
    toNat_word16_ofNat small, word32_bytes32, List.take_left, List.drop_left, Nat.lt_irrefl,
    if_false, cut]

/-- A complete field stays what it is when more bytes follow. -/
theorem Field.take?_append {bs rest : List UInt8} {f : Field} (h : Field.take? bs = some (f, rest))
    (more : List UInt8) : Field.take? (bs ++ more) = some (f, rest ++ more) := by
  unfold Field.take? at h
  split at h
  · rename_i k l1 l0 a b c d e g i j tail
    simp only at h
    split at h
    · cases h
    · rename_i enough
      cases h
      have whole : (word16 l1 l0).toNat ≤ tail.length := by
        rw [List.length_take] at enough
        omega
      have same : ((tail ++ more).take (word16 l1 l0).toNat) = tail.take (word16 l1 l0).toNat :=
        List.take_append_of_le_length whole
      simp only [List.cons_append, Field.take?, same, if_neg enough,
        List.drop_append_of_le_length whole]
  · cases h

/-! ### The fields of a message -/

/-- The fields up to the terminator, and the bytes behind it; `none` if they are not complete. -/
def takeFields? (bs : List UInt8) : Option (List Field × List UInt8) :=
  match _h : Field.take? bs with
  | none => none
  | some (f, rest) =>
    if f.isTerminator then some ([], rest)
    else (takeFields? rest).map fun r => (f :: r.1, r.2)
termination_by bs.length
decreasing_by exact Field.length_take? _h

theorem takeFields?_of_none {bs : List UInt8} (h : Field.take? bs = none) :
    takeFields? bs = none := by
  rw [takeFields?]
  split
  · rfl
  · rename_i hf
    rw [h] at hf
    cases hf

theorem takeFields?_of_some {bs rest : List UInt8} {f : Field}
    (h : Field.take? bs = some (f, rest)) :
    takeFields? bs = if f.isTerminator then some ([], rest)
      else (takeFields? rest).map fun r => (f :: r.1, r.2) := by
  rw [takeFields?]
  split
  · rename_i hf
    rw [h] at hf
    cases hf
  · rename_i hf
    rw [h] at hf
    cases hf
    rfl

/-- Fields that were written come back, and the bytes behind the terminator are left. -/
theorem takeFields?_encode {fs : List Field} (kinds : ∀ f ∈ fs, f.isTerminator = false)
    {last : Field} (ends : last.isTerminator = true) (rest : List UInt8) :
    takeFields? (fs.flatMap Field.encode ++ (last.encode ++ rest)) =
      some (fs.map Field.cut, rest) := by
  induction fs with
  | nil =>
      rw [List.flatMap_nil, List.nil_append, takeFields?_of_some (last.take?_encode rest),
        Field.isTerminator_cut, if_pos ends]
      rfl
  | cons f fs ih =>
      have inner : f.cut.isTerminator = false := kinds f List.mem_cons_self
      rw [List.flatMap_cons, List.append_assoc, takeFields?_of_some (f.take?_encode _), inner,
        ih fun g hg => kinds g (List.mem_cons_of_mem f hg)]
      rfl

theorem takeFields?_append {bs rest : List UInt8} {fs : List Field}
    (h : takeFields? bs = some (fs, rest)) (more : List UInt8) :
    takeFields? (bs ++ more) = some (fs, rest ++ more) := by
  fun_induction takeFields? bs generalizing fs rest with
  | case1 => cases h
  | case2 bs f tail hf ends =>
      cases h
      rw [takeFields?_of_some (Field.take?_append hf more), if_pos ends]
  | case3 bs f tail hf ends ih =>
      obtain ⟨r, hr, hfr⟩ := Option.map_eq_some_iff.mp h
      cases hfr
      rw [takeFields?_of_some (Field.take?_append hf more), if_neg ends, ih hr]
      rfl

/-! ### What the fields tell -/

/-- The message after some fields; `none` if its type is unknown. -/
def absorb (message : Option Message) (fs : List Field) : Option Message :=
  message.map fun m => fs.foldl Message.apply m

@[simp] theorem absorb_nil (message : Option Message) : absorb message [] = message := by
  cases message <;> rfl

theorem absorb_cons (message : Option Message) (f : Field) (fs : List Field) :
    absorb message (f :: fs) = absorb (message.map (·.apply f)) fs := by
  cases message <;> rfl

theorem absorb_append (message : Option Message) (fs gs : List Field) :
    absorb message (fs ++ gs) = absorb (absorb message fs) gs := by
  cases message with
  | none => rfl
  | some m => exact congrArg some List.foldl_append

/-- What is irregular about fields of which a number was announced. -/
def issuesOf (declared : Nat) (fs : List Field) : List FramingIssue :=
  if fs.length < declared then [.countMismatch declared fs.length]
  else
    match fs[declared]? with
    | some f => [.missingTerminator f.kind]
    | none => []

theorem issuesOf_full {declared : Nat} {fs : List Field} (all : fs.length = declared) :
    issuesOf declared fs = [] := by
  subst all
  simp [issuesOf]

/-- The first field behind the announced ones is the one that is told. -/
theorem issuesOf_surplus {declared : Nat} {fs : List Field} (all : fs.length = declared) (f : Field)
    (gs : List Field) : issuesOf declared (fs ++ f :: gs) = [.missingTerminator f.kind] := by
  subst all
  simp [issuesOf]

/-! ### The two loops -/

/-- Where the loop over `left` announced fields can end. -/
inductive AnnouncedOutcome (left : Nat) (message : Option Message) (bs : List UInt8) :
    Option Announced → Prop
  /-- Inside a field; the message is not complete. -/
  | inside (h : takeFields? bs = none) : AnnouncedOutcome left message bs none
  /-- At the terminator, before the number was reached. -/
  | early (fs : List Field) (rest : List UInt8) (fewer : fs.length < left)
      (h : takeFields? bs = some (fs, rest)) :
      AnnouncedOutcome left message bs (some ⟨absorb message fs, left - fs.length, true, rest⟩)
  /-- When the number was reached; the rest of the message is still to be read. -/
  | full (fs : List Field) (rest : List UInt8) (all : fs.length = left)
      (h : takeFields? bs = (takeFields? rest).map fun r => (fs ++ r.1, r.2)) :
      AnnouncedOutcome left message bs (some ⟨absorb message fs, 0, false, rest⟩)

theorem takeAnnounced_outcome (left : Nat) (message : Option Message) (bs : List UInt8) :
    AnnouncedOutcome left message bs (takeAnnounced left message bs) := by
  induction left generalizing message bs with
  | zero =>
      have h : AnnouncedOutcome 0 message bs (some ⟨absorb message [], 0, false, bs⟩) :=
        .full [] bs rfl (by simp)
      rwa [absorb_nil] at h
  | succ left ih =>
      rw [takeAnnounced]
      split
      · rename_i hf
        exact .inside (takeFields?_of_none hf)
      · rename_i f rest hf
        have view := takeFields?_of_some hf
        split
        · rename_i ends
          rw [if_pos ends] at view
          have h : AnnouncedOutcome (left + 1) message bs
              (some ⟨absorb message [], left + 1, true, rest⟩) :=
            .early [] rest (Nat.succ_pos left) view
          rwa [absorb_nil] at h
        · rename_i inner
          rw [if_neg inner] at view
          -- the field goes in front of those of the shorter loop
          generalize hr : takeAnnounced left (message.map (·.apply f)) rest = r
          have out := ih (message.map (·.apply f)) rest
          rw [hr] at out
          cases out with
          | inside h =>
              rw [h] at view
              exact .inside view
          | early fs rest' fewer h =>
              rw [h] at view
              have out : AnnouncedOutcome (left + 1) message bs
                  (some ⟨absorb message (f :: fs), left + 1 - (f :: fs).length, true, rest'⟩) :=
                .early (f :: fs) rest' (Nat.succ_lt_succ fewer) view
              rwa [absorb_cons, List.length_cons, Nat.succ_sub_succ] at out
          | full fs rest' all h =>
              rw [h, Option.map_map] at view
              have out : AnnouncedOutcome (left + 1) message bs
                  (some ⟨absorb message (f :: fs), 0, false, rest'⟩) :=
                .full (f :: fs) rest' (congrArg Nat.succ all) view
              rwa [absorb_cons] at out

/-- The loop behind the announced fields adds all fields that are left. -/
theorem takeSurplus_eq (message : Option Message) {bs rest : List UInt8} {f : Field}
    (h : Field.take? bs = some (f, rest)) :
    takeSurplus message f rest = (takeFields? bs).map fun r => (absorb message r.1, r.2) := by
  rw [takeFields?_of_some h]
  fun_induction takeSurplus message f rest generalizing bs with
  | case1 message f rest ends =>
      rw [if_pos ends]
      simp
  | case2 message f rest inner hg =>
      rw [if_neg inner, takeFields?_of_none hg]
      rfl
  | case3 message f rest inner g tail hg ih =>
      rw [if_neg inner, ih hg, takeFields?_of_some hg]
      simp only [Option.map_map, Function.comp_def, absorb_cons]

/-- The reader in the view: whatever number was announced, all fields up to the terminator count,
and the number decides about the issues only. -/
theorem Frame.take?_cons (type declared : UInt8) (bs : List UInt8) :
    Frame.take? (type :: declared :: bs) = (takeFields? bs).map fun r =>
      (⟨type, absorb (Message.blank? type) r.1, issuesOf declared.toNat r.1⟩, r.2) := by
  rw [Frame.take?]
  generalize hr : takeAnnounced declared.toNat (Message.blank? type) bs = r
  have out := takeAnnounced_outcome declared.toNat (Message.blank? type) bs
  rw [hr] at out
  cases out with
  | inside h => rw [h]; rfl
  | early fs rest fewer h =>
      have missing : declared.toNat - fs.length ≠ 0 := by omega
      have read : declared.toNat - (declared.toNat - fs.length) = fs.length := by omega
      simp [h, Announced.issues, issuesOf, missing, read, fewer]
  | full fs rest all h =>
      have calm : (⟨absorb (Message.blank? type) fs, 0, false, rest⟩ : Announced).issues
          declared.toNat = [] := rfl
      rw [h]
      simp only [calm, Bool.false_eq_true, if_false, List.nil_append]
      cases hf : Field.take? rest with
      | none => rw [takeFields?_of_none hf]; rfl
      | some p =>
          obtain ⟨f, tail⟩ := p
          simp only [takeSurplus_eq _ hf, takeFields?_of_some hf]
          -- the field behind the announced ones is the terminator, or the one that is told
          by_cases ends : f.isTerminator = true
          · simp [ends, surplusIssues, issuesOf_full all]
          · simp [ends, surplusIssues, issuesOf_surplus all, Function.comp_def, absorb_append]

/-- A message of at most 255 fields comes back as it was written, and what is behind it is left. -/
theorem Frame.take?_encode (type : UInt8) {fs : List Field}
    (kinds : ∀ f ∈ fs, f.isTerminator = false) (few : fs.length ≤ 255) (rest : List UInt8) :
    Frame.take? (encode type fs ++ rest) =
      some (⟨type, absorb (Message.blank? type) (fs.map Field.cut), []⟩, rest) := by
  have count : (UInt8.ofNat (min fs.length 255)).toNat = fs.length := by
    rw [Nat.min_eq_left few, UInt8.toNat_ofNat', Nat.mod_eq_of_lt (Nat.lt_succ_of_le few)]
  have calm : issuesOf fs.length (fs.map Field.cut) = [] := issuesOf_full (List.length_map _)
  rw [encode, List.cons_append, List.cons_append, List.append_assoc, Frame.take?_cons,
    takeFields?_encode kinds rfl, count, Option.map_some, calm]

/-! ### Streams in pieces -/

/-- A complete message stays what it is when more bytes follow. -/
theorem Frame.take?_append {bs rest : List UInt8} {f : Frame} (h : Frame.take? bs = some (f, rest))
    (more : List UInt8) : Frame.take? (bs ++ more) = some (f, rest ++ more) := by
  match bs with
  | [] => cases h
  | [_] => cases h
  | type :: declared :: bs =>
      rw [Frame.take?_cons] at h
      obtain ⟨r, hr, hfr⟩ := Option.map_eq_some_iff.mp h
      cases hfr
      rw [List.cons_append, List.cons_append, Frame.take?_cons, takeFields?_append hr]
      rfl

theorem Frame.takeAll_of_none {bs : List UInt8} (h : Frame.take? bs = none) :
    Frame.takeAll bs = ([], bs) := by
  rw [Frame.takeAll]
  split
  · rfl
  · rename_i hf
    rw [h] at hf
    cases hf

theorem Frame.takeAll_of_some {bs rest : List UInt8} {f : Frame}
    (h : Frame.take? bs = some (f, rest)) :
    Frame.takeAll bs = (f :: (Frame.takeAll rest).1, (Frame.takeAll rest).2) := by
  rw [Frame.takeAll]
  split
  · rename_i hf
    rw [h] at hf
    cases hf
  · rename_i hf
    rw [h] at hf
    cases hf
    rfl

/-- A stream may be read in pieces: what is left of the first is read with the second. -/
theorem Frame.takeAll_append (bs more : List UInt8) :
    Frame.takeAll (bs ++ more) =
      ((Frame.takeAll bs).1 ++ (Frame.takeAll ((Frame.takeAll bs).2 ++ more)).1,
        (Frame.takeAll ((Frame.takeAll bs).2 ++ more)).2) := by
  fun_induction Frame.takeAll bs with
  | case1 bs hf => rfl
  | case2 bs f rest hf r ih =>
      rw [Frame.takeAll_of_some (Frame.take?_append hf more), ih]
      rfl

/-- What is left is not complete. -/
theorem Frame.take?_takeAll (bs : List UInt8) : Frame.take? (Frame.takeAll bs).2 = none := by
  fun_induction Frame.takeAll bs with
  | case1 bs h => exact h
  | case2 bs f rest h r ih => exact ih

/-- A message of which the end is missing is not complete. -/
theorem Frame.take?_torn {torn rest : List UInt8} {f : Frame}
    (h : Frame.take? (torn ++ rest) = some (f, [])) (missing : rest ≠ []) :
    Frame.take? torn = none := by
  cases ht : Frame.take? torn with
  | none => rfl
  | some r =>
      obtain ⟨g, left⟩ := r
      have whole := (Frame.take?_append ht rest).symm.trans h
      simp only [Option.some.injEq, Prod.mk.injEq, List.append_eq_nil_iff] at whole
      exact absurd whole.2.2 missing

section Streams

variable {α : Type} {bytes : α → List UInt8} {frame : α → Frame}

/-- A part of a stream of messages, read, gives the first of the messages; the others are in what is
left and in what is not read yet. -/
theorem Frame.takeAll_part
    (back : ∀ a rest, Frame.take? (bytes a ++ rest) = some (frame a, rest))
    {bs more : List UInt8} {items : List α} (h : bs ++ more = items.flatMap bytes) :
    ∃ done others, items = done ++ others ∧ (Frame.takeAll bs).1 = done.map frame ∧
      (Frame.takeAll bs).2 ++ more = others.flatMap bytes := by
  induction items generalizing bs with
  | nil =>
      obtain ⟨rfl, rfl⟩ := List.append_eq_nil_iff.mp h
      rw [Frame.takeAll_of_none rfl]
      exact ⟨[], [], rfl, rfl, rfl⟩
  | cons a items ih =>
      cases hf : Frame.take? bs with
      | none =>
          rw [Frame.takeAll_of_none hf]
          exact ⟨[], a :: items, rfl, rfl, h⟩
      | some r =>
          obtain ⟨f, left⟩ := r
          have first := Frame.take?_append hf more
          rw [h, List.flatMap_cons, back a] at first
          simp only [Option.some.injEq, Prod.mk.injEq] at first
          obtain ⟨rfl, tail⟩ := first
          obtain ⟨done, others, rfl, frames, rest⟩ := ih tail.symm
          rw [Frame.takeAll_of_some hf]
          exact ⟨a :: done, others, rfl, congrArg (frame a :: ·) frames, rest⟩

/-- A stream that breaks off inside a message gives the complete ones. -/
theorem Frame.takeAll_stream
    (back : ∀ a rest, Frame.take? (bytes a ++ rest) = some (frame a, rest))
    (items : List α) {torn : List UInt8} (cut : Frame.take? torn = none) :
    Frame.takeAll (items.flatMap bytes ++ torn) = (items.map frame, torn) := by
  induction items with
  | nil => exact Frame.takeAll_of_none cut
  | cons a items ih =>
      rw [List.flatMap_cons, List.append_assoc, Frame.takeAll_of_some (back a _), ih]
      rfl

end Streams

end WifiStation.App
