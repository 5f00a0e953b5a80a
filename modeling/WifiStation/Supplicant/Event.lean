import WifiStation.Keyed
import WifiStation.Text.Number
import WifiStation.Text.Split

/-!
# WifiStation.Supplicant.Event

Records that the supplicant sends unasked: `<2>CTRL-EVENT-CONNECTED ...`, a priority digit in
angle brackets, a name, and a remainder behind a blank.

* `Event.read?` accepts exactly that form.
* `Event.fields` finds the `key=value` pairs of a remainder. A value in double quotes reaches to
  the next quote, any other to the next blank; a word without `=` is skipped, as is a pair without
  a key; of several pairs with one key the last counts.
-/

namespace WifiStation.Supplicant

open WifiStation.Text

/-- The events that change what is known about the link, and all others by name. -/
inductive EventKind where
  | scanResults
  | connected
  | disconnected
  | ssidTempDisabled
  | other (name : String)
  deriving DecidableEq, Repr, Inhabited

/-- The kind of an event name. -/
def EventKind.ofName (name : String) : EventKind :=
  if name = "CTRL-EVENT-SCAN-RESULTS" then .scanResults
  else if name = "CTRL-EVENT-CONNECTED" then .connected
  else if name = "CTRL-EVENT-DISCONNECTED" then .disconnected
  else if name = "CTRL-EVENT-SSID-TEMP-DISABLED" then .ssidTempDisabled
  else .other name

/-- The highest priority digit. -/
def maxPriority : Nat := 4

/-- A record. -/
structure Event where
  priority : Nat
  kind : EventKind
  /-- The text behind the name, without blanks at the start. -/
  remainder : List Char
  deriving DecidableEq, Repr, Inhabited

/-! ### Fields -/

/-- A character of a key. -/
def isKeyChar (c : Char) : Bool := !(isBlank c || c == '=')

/-- The value behind an equals sign, and the text behind the value. -/
def takeValue : List Char → List Char × List Char
  | '"' :: rest => (rest.takeWhile (· ≠ '"'), (rest.dropWhile (· ≠ '"')).drop 1)
  | s => (s.takeWhile (!isBlank ·), s.dropWhile (!isBlank ·))

theorem length_takeValue_le (s : List Char) : (takeValue s).2.length ≤ s.length := by
  have drop_le (p : Char → Bool) (l : List Char) : (l.dropWhile p).length ≤ l.length :=
    (List.dropWhile_sublist p).length_le
  unfold takeValue
  split
  · rename_i rest
    have := drop_le (· ≠ '"') rest
    simp only [List.length_drop, List.length_cons]
    omega
  · exact drop_le _ _

/-- The pairs of a text in order, those without a key left out. -/
def readPairs (s : List Char) : List (List Char × List Char) :=
  match _ht : trimStart s with
  | [] => []
  | c :: t =>
    let key := (c :: t).takeWhile isKeyChar
    match _hd : (c :: t).dropWhile isKeyChar with
    | [] => []
    | d :: rest =>
      if d = '=' then
        let value := takeValue rest
        if key.isEmpty then readPairs value.2 else (key, value.1) :: readPairs value.2
      else readPairs rest
termination_by s.length
decreasing_by
  all_goals
    have hs : (c :: t).length ≤ s.length := _ht ▸ (List.dropWhile_sublist isBlank).length_le
    have hd : (d :: rest).length ≤ (c :: t).length :=
      _hd ▸ (List.dropWhile_sublist isKeyChar).length_le
    have hv := length_takeValue_le rest
    simp only [List.length_cons] at hs hd
    omega

/-- The fields of a text: of several pairs with one key the last. -/
def fieldsOf (s : List Char) : Keyed String String :=
  (readPairs s).foldl (fun m p => m.insert (String.ofList p.1) (String.ofList p.2)) .empty

namespace Event

/-- A character of an event name. -/
def isNameChar (c : Char) : Bool :=
  ('A' ≤ c && c ≤ 'Z') || isDigit c || c == '-' || c == '_'

/-- Reads a record. -/
def read? (line : List Char) : Option Event := do
  let rest ← after? '<' line
  let digit ← rest.head?
  let priority ← digit? 10 digit
  if priority > maxPriority then none
  else
    let rest ← after? '>' rest.tail
    let name := rest.takeWhile isNameChar
    let remainder := rest.dropWhile isNameChar
    if !name.isEmpty && endsWord remainder then
      return { priority, kind := .ofName (String.ofList name), remainder := trimStart remainder }
    else none

/-- The fields of the remainder. -/
def fields (e : Event) : Keyed String String := fieldsOf e.remainder

end Event

end WifiStation.Supplicant
