import WifiStation.App.Health
import WifiStation.Dhcp.Status
import WifiStation.Http.MediaType
import WifiStation.Http.Message
import WifiStation.Json.Record
import WifiStation.Profile.Store
import WifiStation.Supplicant.Service

/-!
# WifiStation.Http.Site

The daemon's pages.

* `GET /status` tells the state of the link, of the address and of the apps.
* `GET /scan` asks for a scan and tells what the last one has found.
* `POST /configure` takes a name and a passphrase, stores them, and has the supplicant join the
  network. It stops at the first of these that fails: 400 for texts that are no profile, 500 if the
  profile cannot be stored, 502 if the supplicant fails.

A request for another path is answered with 404, one with another method with 405. A body that is
not said to be JSON gives 415, one that is not JSON 400, and one with other content 422. `HEAD` is
`GET` without the body.

The limits of the library that carries the requests are left out. By default it reads a body of 2 MB
at most and answers a longer one with 413; here a body of any length is read.
-/

namespace WifiStation.Http

open WifiStation.Dhcp WifiStation.App WifiStation.Supplicant

/-- What the pages show and change. -/
structure Site where
  service : Service
  /-- The state of the address, if the daemon asks for one. -/
  dhcp : Option ClientStatus := none
  apps : Health
  /-- The file of the stored profile. -/
  store : Place := .absent
  /-- The version of the daemon. -/
  version : String := "0.1.0"
  /-- The revision that the daemon was made from. -/
  revision : String

namespace Site

/-! ### Reports -/

/-- The report of everything. -/
def report (site : Site) (link : LinkState) : Json :=
  .object ([("daemon",
      Json.object [("version", .string site.version), ("git_hash", .string site.revision)]),
      ("supplicant", link.json)] ++
    (site.dhcp.map fun s => ("dhcp4", s.json)).toList ++ [("apps", site.apps.json)])

/-- The report of a scan result. -/
def scanResultJson (r : ScanResult) : Json :=
  .object [("bssid", .string r.bssid.render),
    ("frequency", .nat r.frequency.toNat), ("rssi", .number (.int r.rssi)),
    ("flags", .array (r.flags.names.map .string)), ("ssid", .string r.ssid)]

/-! ### Pages -/

/-- The response to a failure of the supplicant. -/
def supplicantFailure (e : SupplicantError) : Response := .failure 502 e.message

/-- The page of the state. -/
def status (site : Site) : Response :=
  match site.service.status with
  | .ok link => .ok (site.report link)
  | .error e => supplicantFailure e

/-- The page of the last scan. Whether a new one could be asked for does not matter. -/
def scan (site : Site) : Dialogue Response :=
  site.service.scan.bind fun _ => .done (match site.service.scanResults with
    | .ok results =>
      .ok (.object [("scanresults", .array (results.map scanResultJson))])
    | .error e => supplicantFailure e)

/-- The name and the passphrase in a body. -/
def readTexts (body : String) : Except (ReadError Empty) (String × String) :=
  let (t, clean) := Tree.read body.toList
  match t.pair "ssid" "psk" Except.ok Except.ok with
  | .error e => .error e
  | .ok texts => if clean then .ok texts else .error .syntaxFault

/-- The profile that a request asks for, or the response that says why there is none. -/
def requestedProfile (request : Request) : Except Response Profile :=
  if !request.contentType.any MediaType.isJson then .error ⟨415, none⟩
  else match readTexts request.body with
    | .error .syntaxFault => .error ⟨400, none⟩
    | .error _ => .error ⟨422, none⟩
    | .ok (ssid, psk) =>
      match Profile.ofTexts ssid psk with
      | .error e => .error (.failure 400 e.message)
      | .ok profile => .ok profile

/-- The response to what came of joining a network. -/
def joined : Except SupplicantError Nat → Response
  | .ok id => .ok (.object [("network_id", .nat id)])
  | .error e => supplicantFailure e

/-- Stores a profile and joins its network. -/
def configure (site : Site) (profile : Profile) : Dialogue (Response × Site) :=
  match Store.save site.store profile with
  | .error e => .done (.failure 500 e.message, site)
  | .ok store => (site.service.configure profile).bind fun outcome =>
    .done (joined outcome, { site with store })

/-- The page that takes a profile. -/
def configurePage (site : Site) (request : Request) : Dialogue (Response × Site) :=
  match requestedProfile request with
  | .error r => .done (r, site)
  | .ok profile => site.configure profile

/-! ### Requests -/

/-- The response without its body, if only the head was asked for. -/
def headOnly (request : Request) (r : Response) : Response :=
  if request.method = "HEAD" then { r with body := none } else r

/-- Answers a request. -/
def handle (site : Site) (request : Request) : Dialogue (Response × Site) :=
  let path := String.ofList (pathOf request.target.toList)
  let reads := request.method = "GET" || request.method = "HEAD"
  if path = "/status" then
    .done (if reads then headOnly request site.status else ⟨405, none⟩, site)
  else if path = "/scan" then
    if reads then site.scan.bind fun r => .done (headOnly request r, site)
    else .done (⟨405, none⟩, site)
  else if path = "/configure" then
    if request.method = "POST" then site.configurePage request else .done (⟨405, none⟩, site)
  else .done (⟨404, none⟩, site)

end Site

end WifiStation.Http
