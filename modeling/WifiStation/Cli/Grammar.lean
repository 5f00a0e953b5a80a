/-!
# WifiStation.Cli.Grammar

The commands and the options of the program, as data.

Both readers of this data are elsewhere: one takes command lines apart, the other writes the help.
-/

namespace WifiStation.Cli

/-- An option. -/
structure OptionRule where
  /-- The name behind two hyphens. -/
  name : String
  /-- The letter behind one hyphen. -/
  letter : Option Char := none
  /-- What its value is called, if it takes one. -/
  value : Option String := none
  /-- Whether it may be given more than once. -/
  repeats : Bool := false
  required : Bool := false
  /-- The values it takes. -/
  accepts : String → Bool := fun _ => true
  help : String

/-- A command with its options. -/
structure CommandRule where
  name : String
  help : String
  options : List OptionRule := []

/-- The name of the program. -/
def programName : String := "wlinkd"

/-- The version of the program. -/
def programVersion : String := "0.1.0"

/-- What the program is. -/
def programHelp : String := "Command-line front end for the wlinkd link daemon"

/-- The file that the settings are read from if none is named. -/
def defaultConfig : String := "wlinkd.toml"

/-- The variable that can hold the passphrase. -/
def pskVariable : String := "WLINKD_PSK"

end WifiStation.Cli
