/-!
# WifiStation.App.Message

What the daemon and its apps tell each other over the control socket.

* An app reports its own health and whether it has connectivity; the daemon reports the state of
  the network. Every state is a pair of a code and an error number.
* A message travels as a list of `Field`s, which `Message.apply` takes into account one by one: a
  field that means nothing to the type of the message is skipped, and of several fields of one kind
  the last counts.
-/

namespace WifiStation.App

/-- The types of message. -/
inductive MessageType where
  /-- From an app: its health. -/
  | appStateUpdate
  /-- From the daemon: the state of the network. -/
  | networkStateUpdate
  deriving DecidableEq, Repr, Inhabited

/-- The byte of a type. -/
def MessageType.code : MessageType → UInt8
  | appStateUpdate => 0
  | networkStateUpdate => 1

/-- The type of a byte. -/
def MessageType.ofCode? (b : UInt8) : Option MessageType :=
  match b.toNat with
  | 0 => some .appStateUpdate
  | 1 => some .networkStateUpdate
  | _ => none

@[simp] theorem MessageType.ofCode?_code (t : MessageType) : ofCode? t.code = some t := by
  cases t <;> rfl

/-- The kinds of field. -/
inductive FieldKind where
  /-- Ends a message. -/
  | terminator
  | appIndex
  | appState
  | connectivity
  | supplicantState
  | dhcp4State
  deriving DecidableEq, Repr, Inhabited

/-- The byte of a kind. -/
def FieldKind.code : FieldKind → UInt8
  | terminator => 0
  | appIndex => 1
  | appState => 2
  | connectivity => 3
  | supplicantState => 4
  | dhcp4State => 5

/-- The kind of a byte. -/
def FieldKind.ofCode? (b : UInt8) : Option FieldKind :=
  match b.toNat with
  | 0 => some .terminator
  | 1 => some .appIndex
  | 2 => some .appState
  | 3 => some .connectivity
  | 4 => some .supplicantState
  | 5 => some .dhcp4State
  | _ => none

@[simp] theorem FieldKind.ofCode?_code (k : FieldKind) : ofCode? k.code = some k := by
  cases k <;> rfl

/-- The states that have a meaning. Others travel as they are. -/
inductive StateCode where
  | unknown
  | ok
  | err
  | active
  | inactive
  deriving DecidableEq, Repr, Inhabited

/-- The number of a state. -/
def StateCode.code : StateCode → UInt32
  | unknown => 0
  | ok => 1
  | err => 2
  | active => 3
  | inactive => 4

/-- The state of a number. -/
def StateCode.ofCode? (w : UInt32) : Option StateCode :=
  match w.toNat with
  | 0 => some .unknown
  | 1 => some .ok
  | 2 => some .err
  | 3 => some .active
  | 4 => some .inactive
  | _ => none

@[simp] theorem StateCode.ofCode?_code (s : StateCode) : ofCode? s.code = some s := by
  cases s <;> rfl

/-- A state and an error number. -/
structure StatePair where
  state : UInt32 := 0
  error : UInt32 := 0
  deriving DecidableEq, Repr, Inhabited

/-- The pair of a state with a meaning. -/
def StatePair.of (state : StateCode) (error : UInt32) : StatePair := ⟨state.code, error⟩

/-- Whether a pair is in a state. -/
def StatePair.is (p : StatePair) (state : StateCode) : Bool := p.state == state.code

/-- A field as it travels. -/
structure Field where
  kind : UInt8 := 0
  v0 : UInt32 := 0
  v1 : UInt32 := 0
  payload : List UInt8 := []
  deriving DecidableEq, Repr, Inhabited

namespace Field

/-- A field without payload. -/
def of (kind : FieldKind) (v0 v1 : UInt32) : Field := { kind := kind.code, v0, v1 }

/-- A field that carries a pair. -/
def ofPair (kind : FieldKind) (p : StatePair) : Field := of kind p.state p.error

/-- The field that ends a message. -/
def terminator : Field := {}

/-- Whether a field ends a message. -/
def isTerminator (f : Field) : Bool := f.kind == FieldKind.terminator.code

/-- The values of a field as a pair. -/
def pair (f : Field) : StatePair := ⟨f.v0, f.v1⟩

end Field

/-! ### Messages -/

/-- What an app reports; only what it has sent is there. -/
structure AppUpdate where
  index : Option UInt32 := none
  app : Option StatePair := none
  connectivity : Option StatePair := none
  deriving DecidableEq, Repr, Inhabited

/-- The state of the network: of the link, and of address configuration. -/
structure NetworkState where
  supplicant : StatePair := {}
  dhcp4 : StatePair := {}
  deriving DecidableEq, Repr, Inhabited

/-- A message of a known type. -/
inductive Message where
  | app (update : AppUpdate)
  | network (state : NetworkState)
  deriving DecidableEq, Repr, Inhabited

namespace Message

/-- A message of a type before any field. -/
def blank : MessageType → Message
  | .appStateUpdate => app {}
  | .networkStateUpdate => network {}

/-- The message of a type byte before any field; `none` for an unknown type. -/
def blank? (type : UInt8) : Option Message := (MessageType.ofCode? type).map blank

/-- Takes one field into account. -/
def apply (m : Message) (f : Field) : Message :=
  match m, FieldKind.ofCode? f.kind with
  | app u, some .appIndex => app { u with index := some f.v0 }
  | app u, some .appState => app { u with app := some f.pair }
  | app u, some .connectivity => app { u with connectivity := some f.pair }
  | network s, some .supplicantState => network { s with supplicant := f.pair }
  | network s, some .dhcp4State => network { s with dhcp4 := f.pair }
  | m, _ => m

end Message

/-- The fields that report the health of an app. -/
def appStateFields (index state error : UInt32) : List Field :=
  [.of .appIndex index 0, .of .appState state error]

/-- The fields that report the connectivity of an app. -/
def connectivityFields (index state error : UInt32) : List Field :=
  [.of .appIndex index 0, .of .connectivity state error]

/-- The fields that report the state of the network. -/
def networkFields (s : NetworkState) : List Field :=
  [.ofPair .supplicantState s.supplicant, .ofPair .dhcp4State s.dhcp4]

end WifiStation.App
