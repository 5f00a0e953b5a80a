import WifiStation.Text.Class

/-!
# WifiStation.Profile.Basic

A network profile: the name of a network and its passphrase.

Both are short texts that the radio can carry and that can stand between double quotes in a
supplicant command: no double quote and no control character. `Ssid` and `Passphrase` carry the
proof of this, and their constructors from text say what is wrong otherwise, in the order empty or
too short, too long, bad character. Lengths are counted in bytes.
-/

namespace WifiStation

open WifiStation.Text

/-- Why a text is refused for a field. -/
inductive TextError where
  | empty (field : String)
  | tooLong (field : String) (size limit : Nat)
  | tooShort (field : String) (size minimum : Nat)
  | invalidChar (field : String)
  deriving DecidableEq, Repr, Inhabited

/-- The error as text. -/
def TextError.message : TextError → String
  | empty field => s!"{field} must not be empty"
  | tooLong field size limit => s!"{field} is {size} bytes, limit is {limit}"
  | tooShort field size minimum => s!"{field} is {size} bytes, minimum is {minimum}"
  | invalidChar field => s!"{field} contains a quote or control character"

/-- A character that can stand between quotes in a command. -/
def isPlain (c : Char) : Bool := c ≠ '"' && !isControl c

/-- The most bytes of a network name. -/
def maxSsidBytes : Nat := 32

/-- The fewest bytes of a passphrase. -/
def minPassphraseBytes : Nat := 8

/-- The most bytes of a passphrase. -/
def maxPassphraseBytes : Nat := 63

/-- The name of a network. -/
structure Ssid where
  text : String
  ne_empty : text ≠ ""
  size_le : text.utf8ByteSize ≤ maxSsidBytes
  plain : text.toList.all isPlain = true
  deriving DecidableEq, Repr

/-- The passphrase of a network. -/
structure Passphrase where
  text : String
  le_size : minPassphraseBytes ≤ text.utf8ByteSize
  size_le : text.utf8ByteSize ≤ maxPassphraseBytes
  plain : text.toList.all isPlain = true
  deriving DecidableEq, Repr

/-- The network name of a text. -/
def Ssid.ofText (text : String) : Except TextError Ssid :=
  if h₁ : text = "" then .error (.empty "ssid")
  else if h₂ : text.utf8ByteSize ≤ maxSsidBytes then
    if h₃ : text.toList.all isPlain = true then .ok ⟨text, h₁, h₂, h₃⟩
    else .error (.invalidChar "ssid")
  else .error (.tooLong "ssid" text.utf8ByteSize maxSsidBytes)

/-- The passphrase of a text. -/
def Passphrase.ofText (text : String) : Except TextError Passphrase :=
  if h₁ : minPassphraseBytes ≤ text.utf8ByteSize then
    if h₂ : text.utf8ByteSize ≤ maxPassphraseBytes then
      if h₃ : text.toList.all isPlain = true then .ok ⟨text, h₁, h₂, h₃⟩
      else .error (.invalidChar "psk")
    else .error (.tooLong "psk" text.utf8ByteSize maxPassphraseBytes)
  else .error (.tooShort "psk" text.utf8ByteSize minPassphraseBytes)

/-- How a passphrase is shown where values are listed: not at all. -/
def Passphrase.shown (_ : Passphrase) : String := "Psk([REDACTED])"

/-- A network and the passphrase for it. -/
structure Profile where
  ssid : Ssid
  psk : Passphrase
  deriving DecidableEq, Repr

/-- The profile of two texts; a fault of the name is reported first. -/
def Profile.ofTexts (ssid psk : String) : Except TextError Profile :=
  match Ssid.ofText ssid with
  | .error e => .error e
  | .ok ssid =>
    match Passphrase.ofText psk with
    | .error e => .error e
    | .ok psk => .ok ⟨ssid, psk⟩

/-! ### Texts that are accepted -/

@[simp] theorem Ssid.ofText_text (s : Ssid) : ofText s.text = .ok s := by
  simp [ofText, s.ne_empty, s.size_le, s.plain]

@[simp] theorem Passphrase.ofText_text (p : Passphrase) : ofText p.text = .ok p := by
  simp [ofText, p.le_size, p.size_le, p.plain]

@[simp] theorem Profile.ofTexts_texts (p : Profile) : ofTexts p.ssid.text p.psk.text = .ok p := by
  simp [ofTexts]

end WifiStation
