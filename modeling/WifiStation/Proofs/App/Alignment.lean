import WifiStation.Proofs.App.FrameFields

/-!
# WifiStation.Proofs.App.Alignment

A stream of messages stays aligned, whatever number of fields each of them announces.

A `Transmission` is a message as any peer may send it: any type, any announced number, any fields,
closed by a field of kind zero. `Transmission.frame` says what has to be read of it, without going
through the fields one by one:

* of every kind of field that the type understands the last one counts, among all fields, those
  behind the announced ones included (`Transmission.message`);
* the number is compared with how many fields there are (`Transmission.issues`).

`take?_bytes` is the step: one transmission is read and nothing behind it is touched. The whole
stream follows by induction (`readAll_transmissions`).
-/

namespace WifiStation.App

/-! ### The last field of a kind -/

/-- The last field of a kind. -/
def lastOf? (kind : FieldKind) (fs : List Field) : Option Field :=
  (fs.filter fun f => f.kind = kind.code).getLast?

theorem lastOf?_cons (kind : FieldKind) (f : Field) (fs : List Field) :
    lastOf? kind (f :: fs) =
      (lastOf? kind fs).or (if f.kind = kind.code then some f else none) := by
  by_cases h : f.kind = kind.code
  · simp only [lastOf?, List.filter_cons, h, decide_true, if_true, List.getLast?_cons]
    cases (fs.filter fun f => f.kind = kind.code).getLast? <;> rfl
  · simp [lastOf?, h]

/-- What a first field says counts only if no later one of its kind says anything. -/
theorem or_map_lastOf?_cons {α : Type} (kind : FieldKind) (f : Field) (fs : List Field)
    (g : Field → α) (before : Option α) :
    ((lastOf? kind (f :: fs)).map g).or before =
      ((lastOf? kind fs).map g).or (if f.kind = kind.code then some (g f) else before) := by
  rw [lastOf?_cons]
  cases lastOf? kind fs with
  | none => split <;> rfl
  | some later => rfl

theorem getD_map_lastOf?_cons {α : Type} (kind : FieldKind) (f : Field) (fs : List Field)
    (g : Field → α) (before : α) :
    ((lastOf? kind (f :: fs)).map g).getD before =
      ((lastOf? kind fs).map g).getD (if f.kind = kind.code then g f else before) := by
  rw [lastOf?_cons]
  cases lastOf? kind fs with
  | none => split <;> rfl
  | some later => rfl

/-- The last field of a kind does not depend on payloads. -/
theorem lastOf?_map_cut (kind : FieldKind) (fs : List Field) :
    lastOf? kind (fs.map Field.cut) = (lastOf? kind fs).map Field.cut := by
  induction fs with
  | nil => rfl
  | cons f fs ih =>
      rw [List.map_cons, lastOf?_cons, lastOf?_cons, ih]
      cases lastOf? kind fs with
      | none => by_cases h : f.kind = kind.code <;> simp [h, Field.cut]
      | some later => rfl

theorem FieldKind.ofCode?_eq_some_iff (b : UInt8) (kind : FieldKind) :
    ofCode? b = some kind ↔ b = kind.code := by
  constructor
  · intro h
    apply UInt8.toNat_inj.mp
    unfold ofCode? at h
    split at h <;> first | (cases h; assumption) | cases h
  · rintro rfl
    exact ofCode?_code kind

namespace Message

/-- A report of an app takes what the field is about, and keeps the rest. -/
theorem apply_app (u : AppUpdate) (f : Field) :
    (app u).apply f = app
      { index := if f.kind = FieldKind.appIndex.code then some f.v0 else u.index
        app := if f.kind = FieldKind.appState.code then some f.pair else u.app
        connectivity :=
          if f.kind = FieldKind.connectivity.code then some f.pair else u.connectivity } := by
  simp only [← FieldKind.ofCode?_eq_some_iff, apply]
  cases FieldKind.ofCode? f.kind with
  | none => rfl
  | some kind => cases kind <;> rfl

theorem apply_network (s : NetworkState) (f : Field) :
    (network s).apply f = network
      { supplicant := if f.kind = FieldKind.supplicantState.code then f.pair else s.supplicant
        dhcp4 := if f.kind = FieldKind.dhcp4State.code then f.pair else s.dhcp4 } := by
  simp only [← FieldKind.ofCode?_eq_some_iff, apply]
  cases FieldKind.ofCode? f.kind with
  | none => rfl
  | some kind => cases kind <;> rfl

/-- Of every kind the last field counts; what no field is about stays. -/
theorem foldl_apply_app (fs : List Field) (u : AppUpdate) :
    fs.foldl apply (app u) = app
      { index := ((lastOf? .appIndex fs).map Field.v0).or u.index
        app := ((lastOf? .appState fs).map Field.pair).or u.app
        connectivity := ((lastOf? .connectivity fs).map Field.pair).or u.connectivity } := by
  induction fs generalizing u with
  | nil => rfl
  | cons f fs ih =>
      rw [List.foldl_cons, apply_app, ih]
      simp only [or_map_lastOf?_cons]

theorem foldl_apply_network (fs : List Field) (s : NetworkState) :
    fs.foldl apply (network s) = network
      { supplicant := ((lastOf? .supplicantState fs).map Field.pair).getD s.supplicant
        dhcp4 := ((lastOf? .dhcp4State fs).map Field.pair).getD s.dhcp4 } := by
  induction fs generalizing s with
  | nil => rfl
  | cons f fs ih =>
      rw [List.foldl_cons, apply_network, ih]
      simp only [getD_map_lastOf?_cons]

end Message

/-! ### Transmissions -/

/-- A message as any peer may send it. -/
structure Transmission where
  type : UInt8
  /-- How many fields are announced. -/
  declared : UInt8
  fields : List Field
  /-- The field that ends the message. -/
  last : Field
  inner : ∀ f ∈ fields, f.kind ≠ 0
  ends : last.kind = 0

namespace Transmission

/-- The bytes of a transmission. -/
def bytes (t : Transmission) : List UInt8 :=
  t.type :: t.declared :: (t.fields.flatMap Field.encode ++ t.last.encode)

/-- What a transmission tells: nothing if its type is unknown. -/
def message (t : Transmission) : Option Message :=
  if t.type = 0 then
    some (.app
      { index := (lastOf? .appIndex t.fields).map Field.v0
        app := (lastOf? .appState t.fields).map Field.pair
        connectivity := (lastOf? .connectivity t.fields).map Field.pair })
  else if t.type = 1 then
    some (.network
      { supplicant := ((lastOf? .supplicantState t.fields).map Field.pair).getD {}
        dhcp4 := ((lastOf? .dhcp4State t.fields).map Field.pair).getD {} })
  else none

/-- What is irregular about a transmission: it has fewer fields than announced, or more, and then
the first one too many is told. -/
def issues (t : Transmission) : List FramingIssue :=
  if t.fields.length < t.declared.toNat then
    [.countMismatch t.declared.toNat t.fields.length]
  else if h : t.declared.toNat < t.fields.length then
    [.missingTerminator t.fields[t.declared.toNat].kind]
  else []

/-- What is to be read of a transmission. -/
def frame (t : Transmission) : Frame := ⟨t.type, t.message, t.issues⟩

theorem absorb_fields (t : Transmission) :
    absorb (Message.blank? t.type) (t.fields.map Field.cut) = t.message := by
  have told : ∀ kind, (lastOf? kind (t.fields.map Field.cut)).map Field.pair =
      (lastOf? kind t.fields).map Field.pair := by
    intro kind
    rw [lastOf?_map_cut, Option.map_map]
    rfl
  have index : (lastOf? .appIndex (t.fields.map Field.cut)).map Field.v0 =
      (lastOf? .appIndex t.fields).map Field.v0 := by
    rw [lastOf?_map_cut, Option.map_map]
    rfl
  rw [message]
  split
  · rename_i h
    have blank : Message.blank? t.type = some (.app {}) := by rw [h]; rfl
    simp only [blank, absorb, Option.map_some, Message.foldl_apply_app, told, index, Option.or_none]
  · split
    · rename_i h
      have blank : Message.blank? t.type = some (.network {}) := by rw [h]; rfl
      simp only [blank, absorb, Option.map_some, Message.foldl_apply_network, told]
    · rename_i h₀ h₁
      have unknown : MessageType.ofCode? t.type = none := by
        unfold MessageType.ofCode?
        split
        · exact absurd (UInt8.toNat_inj.mp ‹_›) h₀
        · exact absurd (UInt8.toNat_inj.mp ‹_›) h₁
        · rfl
      rw [Message.blank?, unknown]
      rfl

theorem issuesOf_fields (t : Transmission) :
    issuesOf t.declared.toNat (t.fields.map Field.cut) = t.issues := by
  rw [issuesOf, issues, List.length_map, List.getElem?_map]
  by_cases more : t.declared.toNat < t.fields.length
  · rw [List.getElem?_eq_getElem more, dif_pos more]
    rfl
  · rw [List.getElem?_eq_none (Nat.le_of_not_lt more), dif_neg more]
    rfl

/-- A transmission is read whole, and what is behind it is left. -/
theorem take?_bytes (t : Transmission) (rest : List UInt8) :
    Frame.take? (t.bytes ++ rest) = some (t.frame, rest) := by
  have kinds : ∀ f ∈ t.fields, f.isTerminator = false := by
    intro f hf
    exact beq_eq_false_iff_ne.mpr (t.inner f hf)
  have ends : t.last.isTerminator = true := beq_iff_eq.mpr t.ends
  rw [bytes, List.cons_append, List.cons_append, List.append_assoc, Frame.take?_cons,
    takeFields?_encode kinds ends, Option.map_some, absorb_fields, issuesOf_fields]
  rfl

end Transmission

/-- A stream of transmissions gives one frame for each of them, in order, and ends at the boundary
behind the last, whatever numbers of fields they announce. -/
theorem readAll_transmissions (ts : List Transmission) :
    Frame.readAll (ts.flatMap Transmission.bytes) = (ts.map Transmission.frame, .boundary) := by
  have all : Frame.takeAll (ts.flatMap Transmission.bytes) = (ts.map Transmission.frame, []) := by
    induction ts with
    | nil => exact Frame.takeAll_of_none rfl
    | cons t ts ih =>
        rw [List.flatMap_cons, Frame.takeAll_of_some (t.take?_bytes _), ih]
        rfl
  rw [Frame.readAll, all]
  rfl

end WifiStation.App
