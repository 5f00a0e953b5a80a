import WifiStation.Wire.BigEndian
import WifiStation.App.Message

/-!
# WifiStation.App.Frame

Messages as bytes.

A message is a type byte, the number of its fields in a byte, the fields, and a terminator: a field
of kind 0, which the number does not count. A field is a kind byte, the length of its payload in
two bytes, two words, and the payload.

* `encode` writes at most 255 as the number of fields, and at most 65535 bytes of a payload.
* `Frame.take?` reads the announced fields (`takeAnnounced`), fewer if the terminator comes first,
  and then whatever is left up to the terminator (`takeSurplus`), so that the next message starts
  where this one ends. A number that is wrong is an issue of the frame, not an error.
* `Frame.takeAll` reads the messages that are complete and leaves the bytes of one that is not;
  `Frame.readAll` says of a whole stream whether it ends at the boundary of a message.
-/

namespace WifiStation.App

open WifiStation.Wire

/-- What is irregular about a message that could be read. -/
inductive FramingIssue where
  /-- The number of fields is too large. -/
  | countMismatch (declared read : Nat)
  /-- The number of fields is too small; the kind is that of the first field behind it. -/
  | missingTerminator (kind : UInt8)
  deriving DecidableEq, Repr, Inhabited

/-- The issue as text. -/
def FramingIssue.message : FramingIssue → String
  | countMismatch declared read => s!"header declared {declared} fields but {read} were read"
  | missingTerminator kind => s!"expected terminator, found field kind {kind}"

/-- A message as it was read. -/
structure Frame where
  type : UInt8
  /-- `none` if the type is unknown. -/
  message : Option Message
  issues : List FramingIssue
  deriving DecidableEq, Repr, Inhabited

/-! ### Writing -/

/-- The most bytes of a payload. -/
def maxPayload : Nat := 65535

/-- The bytes of a field. -/
def Field.encode (f : Field) : List UInt8 :=
  let payload := f.payload.take maxPayload
  f.kind :: (bytes16 (UInt16.ofNat payload.length) ++ bytes32 f.v0 ++ bytes32 f.v1 ++ payload)

/-- The bytes of a message: type, number of fields, fields, terminator. -/
def encode (type : UInt8) (fields : List Field) : List UInt8 :=
  type :: UInt8.ofNat (min fields.length 255) ::
    (fields.flatMap Field.encode ++ Field.terminator.encode)

/-- The bytes of a message of a known type. -/
def encodeMessage (type : MessageType) (fields : List Field) : List UInt8 :=
  encode type.code fields

/-- The bytes that tell an app the state of the network. -/
def encodeNetwork (s : NetworkState) : List UInt8 := encodeMessage .networkStateUpdate (networkFields s)

/-! ### Reading -/

/-- The field at the start, and the bytes behind it; `none` if it is not complete. -/
def Field.take? : List UInt8 → Option (Field × List UInt8)
  | k :: l1 :: l0 :: a :: b :: c :: d :: e :: f :: g :: h :: rest =>
    let size := (word16 l1 l0).toNat
    let payload := rest.take size
    if payload.length < size then none
    else some (⟨k, word32 a b c d, word32 e f g h, payload⟩, rest.drop size)
  | _ => none

theorem Field.length_take? {bs : List UInt8} {f : Field} {rest : List UInt8}
    (h : Field.take? bs = some (f, rest)) : rest.length < bs.length := by
  unfold Field.take? at h
  split at h
  · simp only at h
    split at h
    · simp at h
    · simp only [Option.some.injEq, Prod.mk.injEq] at h
      rw [← h.2]
      simp only [List.length_drop, List.length_cons]
      omega
  · simp at h

/-- Where the reading of the announced fields has ended. -/
structure Announced where
  /-- What the fields have told; `none` if the type is unknown. -/
  message : Option Message
  /-- How many of the announced fields were not there. -/
  missing : Nat
  /-- Whether the terminator was among them. -/
  terminated : Bool
  /-- The bytes behind what was read. -/
  rest : List UInt8
  deriving DecidableEq, Repr

/-- Reads `left` more fields, fewer if the terminator comes first; `none` if they are not
complete. -/
def takeAnnounced (left : Nat) (message : Option Message) (bs : List UInt8) : Option Announced :=
  match left with
  | 0 => some ⟨message, 0, false, bs⟩
  | left + 1 =>
    match Field.take? bs with
    | none => none
    | some (f, rest) =>
      if f.isTerminator then some ⟨message, left + 1, true, rest⟩
      else takeAnnounced left (message.map (·.apply f)) rest

/-- What is irregular about the announced fields. -/
def Announced.issues (a : Announced) (declared : Nat) : List FramingIssue :=
  if a.missing = 0 then [] else [.countMismatch declared (declared - a.missing)]

/-- What is irregular about the first field behind the announced ones. -/
def surplusIssues (f : Field) : List FramingIssue :=
  if f.isTerminator then [] else [.missingTerminator f.kind]

/-- Reads on from the first field behind the announced ones, up to the terminator; gives the
message and the bytes behind it. -/
def takeSurplus (message : Option Message) (f : Field) (bs : List UInt8) :
    Option (Option Message × List UInt8) :=
  if f.isTerminator then some (message, bs)
  else
    match _h : Field.take? bs with
    | none => none
    | some (g, rest) => takeSurplus (message.map (·.apply f)) g rest
termination_by bs.length
decreasing_by exact Field.length_take? _h

/-- The message at the start, and the bytes behind it; `none` if it is not complete. First the
announced fields are read, then, unless the terminator was among them, whatever comes up to it. -/
def Frame.take? : List UInt8 → Option (Frame × List UInt8)
  | type :: declared :: bs =>
    match takeAnnounced declared.toNat (Message.blank? type) bs with
    | none => none
    | some a =>
      let short := a.issues declared.toNat
      if a.terminated then some (⟨type, a.message, short⟩, a.rest)
      else
        match Field.take? a.rest with
        | none => none
        | some (f, rest) =>
          (takeSurplus a.message f rest).map fun r => (⟨type, r.1, short ++ surplusIssues f⟩, r.2)
  | _ => none

theorem length_takeAnnounced {left : Nat} {message : Option Message} {bs : List UInt8}
    {a : Announced} (h : takeAnnounced left message bs = some a) : a.rest.length ≤ bs.length := by
  induction left generalizing message bs with
  | zero =>
    cases h
    exact Nat.le_refl _
  | succ left ih =>
    rw [takeAnnounced] at h
    split at h
    · cases h
    · rename_i f rest hf
      have shorter := Field.length_take? hf
      split at h
      · cases h
        exact Nat.le_of_lt shorter
      · have := ih h
        omega

theorem length_takeSurplus {message : Option Message} {f : Field} {bs : List UInt8}
    {r : Option Message × List UInt8} (h : takeSurplus message f bs = some r) :
    r.2.length ≤ bs.length := by
  fun_induction takeSurplus message f bs with
  | case1 =>
    cases h
    exact Nat.le_refl _
  | case2 => cases h
  | case3 message f bs _ g rest hg ih =>
    have shorter := Field.length_take? hg
    have := ih h
    omega

theorem Frame.length_take? {bs : List UInt8} {f : Frame} {rest : List UInt8}
    (h : Frame.take? bs = some (f, rest)) : rest.length < bs.length := by
  unfold Frame.take? at h
  split at h
  · split at h
    · cases h
    · rename_i ha
      have announced := length_takeAnnounced ha
      split at h
      · cases h
        simp only [List.length_cons]
        omega
      · split at h
        · cases h
        · rename_i hg
          obtain ⟨r, hr, hfr⟩ := Option.map_eq_some_iff.1 h
          simp only [Prod.mk.injEq] at hfr
          have first := Field.length_take? hg
          have behind := length_takeSurplus hr
          rw [← hfr.2]
          simp only [List.length_cons]
          omega
  · cases h

/-- The complete messages at the start, and the bytes left over. -/
def Frame.takeAll (bs : List UInt8) : List Frame × List UInt8 :=
  match _h : Frame.take? bs with
  | none => ([], bs)
  | some (f, rest) =>
    let r := takeAll rest
    (f :: r.1, r.2)
termination_by bs.length
decreasing_by exact Frame.length_take? _h

/-- Where a stream of messages ends. -/
inductive StreamEnd where
  /-- Behind a message, or before the first. -/
  | boundary
  /-- Inside a message. -/
  | inside
  deriving DecidableEq, Repr, Inhabited

/-- The messages of a stream, and where it ends. -/
def Frame.readAll (bs : List UInt8) : List Frame × StreamEnd :=
  let r := takeAll bs
  (r.1, if r.2.isEmpty then .boundary else .inside)

end WifiStation.App
