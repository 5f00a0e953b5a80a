import WifiStation.Cli.Grammar
import WifiStation.Text.Number

/-!
# WifiStation.Cli.Arguments

Command lines taken apart.

Arguments are read from left to right, and the first that decides the outcome wins: a request for
help or for the version, or a fault. What is missing is noticed at the end.

* An option is `--name`, and its value the next argument or what follows an equals sign. Letters
  may stand together behind one hyphen; a value can follow its letter at once.
* A value in an argument of its own does not start with a hyphen, unless it is nothing else.
* An option is given once, except one that is counted.
-/

namespace WifiStation.Cli

open WifiStation.Text

/-- Why there is nothing to be done. -/
inductive Stop where
  /-- The arguments are wrong. -/
  | usage
  | version
  /-- Help was asked for, on a command or on all of them. -/
  | help (command : Option CommandRule)
  /-- Help was asked for on asking for help. -/
  | helpOnHelp

/-- The options given, with their values. -/
abbrev Found := List (String × String)

/-! ### Options -/

/-- Takes notice of an option. -/
def note (rule : OptionRule) (value : String) (found : Found) : Except Stop Found :=
  if !rule.repeats && found.any (·.1 = rule.name) then .error .usage
  else if !rule.accepts value then .error .usage
  else .ok (found ++ [(rule.name, value)])

/-- Whether an argument can be the value of the option before it. -/
def isValue (argument : List Char) : Bool := argument.head? ≠ some '-' || argument = ['-']

/-- What an argument comes to. -/
inductive Step where
  | found (f : Found)
  /-- The option wants its value from the next argument. -/
  | wants (rule : OptionRule) (f : Found)

/-- Reads an option by its name. -/
def readLong (rules : List OptionRule) (onHelp : Stop) (versioned : Bool) (body : List Char)
    (found : Found) : Except Stop Step :=
  let name := String.ofList (body.takeWhile (· ≠ '='))
  let attached := (body.dropWhile (· ≠ '=')).tail
  let hasValue := body.contains '='
  match rules.find? (·.name = name) with
  | some rule =>
    if rule.value.isNone then
      if hasValue then .error .usage else (note rule "" found).map .found
    else if hasValue then (note rule (String.ofList attached) found).map .found
    else .ok (.wants rule found)
  | none =>
    if hasValue then .error .usage
    else if name = "help" then .error onHelp
    else if name = "version" && versioned then .error .version
    else .error .usage

/-- Reads options by their letters. -/
def readLetters (rules : List OptionRule) (onHelp : Stop) (versioned : Bool) :
    List Char → Found → Except Stop Step
  | [], found => .ok (.found found)
  | c :: rest, found =>
    match rules.find? (·.letter = some c) with
    | some rule =>
      if rule.value.isNone then
        match note rule "" found with
        | .error e => .error e
        | .ok found => readLetters rules onHelp versioned rest found
      else match rest with
        | [] => .ok (.wants rule found)
        | '=' :: value => (note rule (String.ofList value) found).map .found
        | value => (note rule (String.ofList value) found).map .found
    | none =>
      if c = 'h' then .error onHelp
      else if c = 'V' && versioned then .error .version
      else .error .usage

/-- Reads options up to the first argument that is none. -/
def readOptions (rules : List OptionRule) (onHelp : Stop) (versioned : Bool) :
    List String → Found → Except Stop (Found × List String)
  | [], found => .ok (found, [])
  | argument :: rest, found =>
    let step := match argument.toList with
      | ['-', '-'] => none
      | '-' :: '-' :: body => some (readLong rules onHelp versioned body found)
      | ['-'] => none
      | '-' :: letters => some (readLetters rules onHelp versioned letters found)
      | _ => none
    match step with
    | none => .ok (found, argument :: rest)
    | some (.error e) => .error e
    | some (.ok (.found found)) => readOptions rules onHelp versioned rest found
    | some (.ok (.wants rule found)) =>
      match rest with
      | [] => .error .usage
      | value :: rest =>
        if isValue value.toList then
          match note rule value found with
          | .error e => .error e
          | .ok found => readOptions rules onHelp versioned rest found
        else .error .usage

/-! ### Commands -/

/-- The value of an option. -/
def Found.get? (found : Found) (name : String) : Option String :=
  (List.find? (·.1 = name) found).map Prod.snd

/-- What an app reports of itself. -/
inductive ReportedState where
  | ok
  | err
  deriving DecidableEq, Repr, Inhabited

/-- A command. -/
inductive Command where
  | start
  | status
  | scan
  | configure (ssid psk : String)
  /-- Checks the settings, and shows them if asked to. -/
  | config (shown : Bool)
  | report (app : UInt32) (state : Option ReportedState) (error : UInt32)
      (connectivity : Option Bool)
  deriving DecidableEq, Repr

/-- A command line. -/
structure Invocation where
  /-- The file of the settings. -/
  config : String := defaultConfig
  /-- What the addresses of the daemon's pages start with. -/
  url : Option String := none
  command : Command
  deriving DecidableEq, Repr

/-- A number of thirty-two bits; a plus may stand before it. -/
def word? (s : String) : Option UInt32 :=
  match signed? 64 s.toList with
  | some n => if 0 ≤ n ∧ n < 2 ^ 32 then some (UInt32.ofNat n.toNat) else none
  | none => none

/-- The options before a command. -/
def mainOptions : List OptionRule := [
  { name := "config", letter := some 'c', value := some "CONFIG"
    accepts := fun v => v ≠ ""
    help := s!"Path to configuration file [default: {defaultConfig}]" },
  { name := "verbose", letter := some 'v', repeats := true
    help := "Increase log verbosity (-v, -vv, -vvv)" },
  { name := "url", value := some "URL"
    help := "Base URL of the daemon's HTTP façade (default: derived from config)" }]

/-- The commands. -/
def commands : List CommandRule := [
  { name := "start", help := "Start the wlinkd daemon" },
  { name := "status", help := "Show link, lease and app status of a running daemon" },
  { name := "scan", help := "Trigger a scan and list the last scan results" },
  { name := "configure", help := "Store a network and hand it to the supplicant"
    options := [
      { name := "ssid", value := some "SSID", required := true, help := "Network name" },
      { name := "psk", value := some "PSK", required := true
        help := s!"WPA passphrase (8..=63 characters) [env: {pskVariable}]" }] },
  { name := "config", help := "Validate and display configuration"
    options := [{ name := "show", help := "Show the resolved configuration" }] },
  { name := "report", help := "Report an app's health over the control socket"
    options := [
      { name := "app", value := some "APP", required := true
        accepts := fun v => (word? v).isSome
        help := "App slot index as listed in \x60apps.names\x60" },
      { name := "state", value := some "STATE"
        accepts := fun v => v = "ok" || v = "err"
        help := "App state to report [possible values: ok, err]" },
      { name := "error", value := some "ERROR"
        accepts := fun v => (word? v).isSome
        help := "Error code sent with the app state [default: 0]" },
      { name := "connectivity", value := some "CONNECTIVITY"
        accepts := fun v => v = "true" || v = "false"
        help := "Report connectivity instead of (or as well as) app state " ++
          "[possible values: true, false]" }] }]

/-- The command of a name with the options given; `none` if one is missing. The passphrase can come
from a variable. -/
def Command.ofFound? (name : String) (found : Found) (psk : Option String) : Option Command :=
  match name with
  | "start" => some .start
  | "status" => some .status
  | "scan" => some .scan
  | "configure" => do return .configure (← found.get? "ssid") (← (found.get? "psk").or psk)
  | "config" => some (.config (found.get? "show").isSome)
  | "report" => do
    let app ← (found.get? "app").bind word?
    let state := (found.get? "state").map fun v => if v = "ok" then ReportedState.ok else .err
    let error := ((found.get? "error").bind word?).getD 0
    return .report app state error ((found.get? "connectivity").map (· = "true"))
  | _ => none

/-- Reads what follows the name of a command. -/
def readCommand (rule : CommandRule) (psk : Option String) (arguments : List String) :
    Except Stop Command :=
  match readOptions rule.options (.help (some rule)) false arguments [] with
  | .error e => .error e
  | .ok (found, rest) =>
    if rest = [] ∨ rest = ["--"] then
      match Command.ofFound? rule.name found psk with
      | some command => .ok command
      | none => .error .usage
    else .error .usage

/-- What help is asked for by the names behind `help`. -/
def helpFor : List String → Stop
  | [] => .help none
  | [name] =>
    if name = "help" then .helpOnHelp
    else match commands.find? (·.name = name) with
      | some rule => .help (some rule)
      | none => .usage
  | _ => .usage

/-- Reads a command line; `psk` is what the variable of the passphrase holds. -/
def Invocation.read (psk : Option String) (arguments : List String) : Except Stop Invocation :=
  match readOptions mainOptions (.help none) true arguments [] with
  | .error e => .error e
  | .ok (_, []) => .error .usage
  | .ok (found, name :: rest) =>
    if name = "help" then .error (helpFor rest)
    else match commands.find? (·.name = name) with
      | none => .error .usage
      | some rule =>
        match readCommand rule psk rest with
        | .error e => .error e
        | .ok command =>
          .ok { config := (found.get? "config").getD defaultConfig
                url := found.get? "url"
                command }

end WifiStation.Cli
