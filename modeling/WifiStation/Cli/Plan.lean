import WifiStation.App.Reporter
import WifiStation.Cli.Help
import WifiStation.Daemon.Address
import WifiStation.Http.Message
import WifiStation.Http.Status
import WifiStation.Json.Tree
import WifiStation.Settings.Decode
import WifiStation.Settings.Text

/-!
# WifiStation.Cli.Plan

What the program does for a command line.

A `Plan` is how the program ends, or something it needs from outside with how to go on from there:
the settings file, a page of the daemon, the control socket, or a daemon to run. `plan` makes the
plan of a command line, and reading it is left to whoever has an outside.
-/

namespace WifiStation.Cli

open WifiStation.Text WifiStation.App WifiStation.Http

/-- How the program ends. -/
structure Ending where
  code : Nat
  out : String := ""
  err : String := ""
  deriving DecidableEq, Repr

/-- The end of the program, or a need and how to go on. -/
inductive Plan where
  | done (e : Ending)
  /-- What stands at a path is needed. -/
  | look (path : String) (next : Place → Plan)
  /-- A request to an address is to be answered with a status and a text, if anyone is there. -/
  | fetch (url : String) (request : Request) (next : Option (Nat × String) → Plan)
  /-- Bytes are to be sent to a socket; what comes back is why it could not be connected. -/
  | deliver (path : String) (bytes : List UInt8) (next : Option String → Plan)
  /-- A daemon is to be run. -/
  | serve (settings : Settings) (next : Option DaemonError → Plan)

/-- Ends well. -/
def finish (out : String) : Plan := .done { code := 0, out }

/-- Ends with an error. -/
def fail (message : String) : Plan := .done { code := 1, err := "Error: " ++ message ++ "\n" }

/-! ### Pages -/

/-- The value in an answer of the daemon, or what is wrong with the answer. -/
def answerValue (status : Nat) (text : String) : Except String Json :=
  let text := if hasBody status then text else ""
  let value := Json.parse? text.toList
  if isSuccess status then
    match value with
    | some v => .ok v
    | none => .error "malformed response from daemon"
  else
    let error := ((value.bind (·.member? "error")).bind Json.string?).getD text
    .error s!"daemon returned {statusText status}: {error}"

/-- Goes on with the value in the answer to a request; `shown` is the address told to the user if
nobody answers. -/
def withAnswer (url shown : String) (request : Request) (next : Json → Plan) : Plan :=
  .fetch url request fun
    | none => fail s!"daemon unreachable at {shown}"
    | some (status, text) =>
      match answerValue status text with
      | .error message => fail message
      | .ok v => next v

/-- Goes on with the value of a page. -/
def withPage (base path : String) (next : Json → Plan) : Plan :=
  withAnswer (base ++ path) (base ++ path) { method := "GET", target := path } next

/-- The plan that shows the state of the daemon. -/
def statusPlan (base : String) : Plan :=
  withPage base "/status" fun v => finish (v.sorted.pretty ++ "\n")

/-- A text with blanks before it up to a width. -/
def padLeft (width : Nat) (s : String) : String := "".pushn ' ' (width - s.length) ++ s

/-- A row of the list of networks. -/
def scanRow (bssid frequency rssi ssid flags : String) : String :=
  s!"{padded 17 bssid}  {padLeft 5 frequency}  {padLeft 4 rssi}  {padded 32 ssid}  {flags}\n"

/-- The row of a network. -/
def networkRow (v : Json) : String :=
  let text (name other : String) := ((v.member? name).bind Json.string?).getD other
  let value (name : String) := ((v.member? name).getD .null).sorted.compact
  let flags := ((v.member? "flags").bind Json.array?).getD []
  scanRow (text "bssid" "?") (value "frequency") (value "rssi") (text "ssid" "")
    (",".intercalate (flags.filterMap Json.string?))

/-- The plan that lists the networks around. -/
def scanPlan (base : String) : Plan :=
  withPage base "/scan" fun v =>
    match ((v.member? "scanresults").bind Json.array?).getD [] with
    | [] => finish "No networks found (scan results arrive asynchronously, retry shortly)\n"
    | networks => finish (scanRow "BSSID" "FREQ" "RSSI" "SSID" "FLAGS" ++
        String.join (networks.map networkRow))

/-- The plan that stores a network and has it joined. -/
def configurePlan (base ssid psk : String) : Plan :=
  let body := Json.object [("ssid", .string ssid), ("psk", .string psk)]
  withAnswer (base ++ "/configure") base
    { method := "POST", target := "/configure", contentType := some "application/json"
      body := body.compact }
    fun v =>
      let id := ((v.member? "network_id").getD .null).sorted.compact
      finish ("Network " ++ quote ssid ++ s!" configured (id {id})\n")

/-! ### Other commands -/

/-- The plan that checks the settings, and shows them if asked to. -/
def configPlan (path : String) (settings : Settings) (shown : Bool) : Plan :=
  if shown then finish (settings.text ++ "\n")
  else finish s!"Configuration at '{path}' is valid.\n"

/-- The code that reports a state. -/
def ReportedState.code : ReportedState → StateCode
  | ok => .ok
  | err => .err

/-- The plan that reports an app's health. -/
def reportPlan (settings : Settings) (app : UInt32) (state : Option ReportedState)
    (error : UInt32) (connectivity : Option Bool) : Plan :=
  if state.isNone && connectivity.isNone then
    fail "nothing to report: pass --state and/or --connectivity"
  else
    let reporter : Reporter := { app }
    let path := settings.daemon.socketPath
    let bytes := ((state.map fun s => reporter.appStateBytes s.code.code error).getD []) ++
      ((connectivity.map reporter.connectivityBytes).getD [])
    .deliver path bytes fun
      | some reason => fail (ReporterError.connect path reason).message
      | none => finish s!"Reported app {app}\n"

/-- The plan that runs the daemon. -/
def startPlan (settings : Settings) : Plan :=
  match settings.daemon.endpoint with
  | .error e => fail e.message
  | .ok _ => .serve settings fun
    | some e => fail e.message
    | none => finish ""

/-- The plan of a command line, with its settings. -/
def Invocation.plan (i : Invocation) (settings : Settings) : Plan :=
  let base := i.url.getD settings.daemon.baseUrl
  match i.command with
  | .start => startPlan settings
  | .status => statusPlan base
  | .scan => scanPlan base
  | .configure ssid psk => configurePlan base ssid psk
  | .config shown => configPlan i.config settings shown
  | .report app state error connectivity => reportPlan settings app state error connectivity

/-- The settings at a path; without a file the defaults. -/
def settingsAt (place : Place) : Except SettingsError Settings :=
  match place with
  | .absent | .unreachable => .ok {}
  | _ =>
    match place.readText with
    | .error e => .error (.place e)
    | .ok text => Settings.parse text

/-- The plan of arguments; `psk` is what the variable of the passphrase holds. -/
def plan (psk : Option String) (arguments : List String) : Plan :=
  match Invocation.read psk arguments with
  | .error .usage => .done { code := 2, err := helpText }
  | .error .version => finish s!"{programName} {programVersion}\n"
  | .error (.help none) => finish helpText
  | .error (.help (some rule)) => finish rule.helpText
  | .error .helpOnHelp => finish helpOnHelpText
  | .ok i => .look i.config fun place =>
    match settingsAt place with
    | .error e => fail e.message
    | .ok settings => i.plan settings

end WifiStation.Cli
