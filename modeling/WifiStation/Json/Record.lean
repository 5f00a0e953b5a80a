import WifiStation.Json.Tree

/-!
# WifiStation.Json.Record

Reading a record of two text fields out of a tree.

The record is an object with both names, in any order and among others, or an array of the two
values. What is wrong is reported in the order of the text: a field that is there twice where its
name stands the second time, a value where it stands, a missing field where the object ends.
-/

namespace WifiStation

/-- Why a tree is not what a reader looks for; `ε` is why a field refuses a text. -/
inductive ReadError (ε : Type) where
  /-- The text is not well formed. -/
  | syntaxFault
  /-- A value of another type, or too few values. -/
  | mismatch
  | missingField (name : String)
  | duplicateField (name : String)
  /-- A text that its field refuses. -/
  | refused (e : ε)
  deriving DecidableEq, Repr, Inhabited

/-- The error as text; faults of the text itself and of types have none of their own. -/
def ReadError.message? {ε : Type} (refusal : ε → String) : ReadError ε → Option String
  | syntaxFault | mismatch => none
  | missingField name => some ("missing field " ++ String.ofList ('\x60' :: name.toList ++ ['\x60']))
  | duplicateField name =>
    some ("duplicate field " ++ String.ofList ('\x60' :: name.toList ++ ['\x60']))
  | refused e => some (refusal e)

namespace Tree

/-- The error of a value that is not of the type looked for. -/
def mismatch {ε : Type} : Tree → ReadError ε
  | broken | string none => .syntaxFault
  | number n => if (numberValue? n).isSome then .mismatch else .syntaxFault
  | _ => .mismatch

/-- A text field. -/
def field {ε α : Type} (of : String → Except ε α) : Tree → Except (ReadError ε) α
  | string (some s) =>
    match of s with
    | .ok a => .ok a
    | .error e => .error (.refused e)
  | t => .error t.mismatch

/-- A pair of fields, once the object has ended. -/
def pairOf {ε α β : Type} (first second : String) (closed : Bool) :
    Option α → Option β → Except (ReadError ε) (α × β)
  | some a, some b => if closed then .ok (a, b) else .error .syntaxFault
  | a, _ =>
    if closed then .error (.missingField (if a.isSome then second else first))
    else .error .syntaxFault

/-- The fields among members, on top of those found so far. -/
def pairOfMembers {ε α β : Type} (first second : String) (ofFirst : String → Except ε α)
    (ofSecond : String → Except ε β) (closed : Bool) (a : Option α) (b : Option β) :
    List (TreeText × Tree) → Except (ReadError ε) (α × β)
  | [] => pairOf first second closed a b
  | (none, _) :: _ => .error .syntaxFault
  | (some name, t) :: rest =>
    if name = first then
      if a.isSome then .error (.duplicateField first)
      else match field ofFirst t with
        | .error e => .error e
        | .ok a => pairOfMembers first second ofFirst ofSecond closed (some a) b rest
    else if name = second then
      if b.isSome then .error (.duplicateField second)
      else match field ofSecond t with
        | .error e => .error e
        | .ok b => pairOfMembers first second ofFirst ofSecond closed a (some b) rest
    else pairOfMembers first second ofFirst ofSecond closed a b rest

/-- The fields of an array. Something behind them is a fault of the text. -/
def pairOfItems {ε α β : Type} (ofFirst : String → Except ε α)
    (ofSecond : String → Except ε β) (closed : Bool) :
    List Tree → Except (ReadError ε) (α × β)
  | [] => .error (if closed then .mismatch else .syntaxFault)
  | t :: ts =>
    match field ofFirst t with
    | .error e => .error e
    | .ok a =>
      match ts with
      | [] => .error (if closed then .mismatch else .syntaxFault)
      | u :: us =>
        match field ofSecond u with
        | .error e => .error e
        | .ok b => if us.isEmpty && closed then .ok (a, b) else .error .syntaxFault

/-- A record of two text fields. -/
def pair {ε α β : Type} (first second : String) (ofFirst : String → Except ε α)
    (ofSecond : String → Except ε β) : Tree → Except (ReadError ε) (α × β)
  | object members closed =>
    pairOfMembers first second ofFirst ofSecond closed none none members
  | array items closed => pairOfItems ofFirst ofSecond closed items
  | t => .error t.mismatch

end Tree

end WifiStation
