import WifiStation.Cli.Plan

/-!
# WifiStation.Cli.Run

A plan followed to its end in given surroundings.

`Surroundings` meet every need of a plan, the same need in the same way each time. `Plan.run` also
keeps what was asked of the daemon and what was sent to it.
-/

namespace WifiStation.Cli

open WifiStation.Http

/-- What a plan finds outside. -/
structure Surroundings where
  /-- What stands at a path. -/
  place : String → Place
  /-- What every request is answered with, if anyone is there. -/
  answer : Option (Nat × String) := none
  /-- Why a socket cannot be connected. -/
  refusal : String → Option String
  /-- Why a daemon with some settings ends. -/
  verdict : Settings → Option DaemonError

/-- The surroundings of a directory that holds some files, and sockets at some names where someone
listens. The machine has no interface that a daemon could use. -/
def Surroundings.inDirectory (files : List (String × List UInt8)) (sockets : List String)
    (answer : Option (Nat × String)) : Surroundings where
  place := Place.inDirectory files
  answer
  refusal path :=
    if Place.localName path ∈ sockets then none
    else match Place.inDirectory files path with
      | .file _ | .directory => some "Connection refused (os error 111)"
      | _ => some PlaceError.notFound.message
  verdict settings := some (.kernel (.linkNotFound settings.supplicant.interface))

/-- What came of a plan. -/
structure Outcome where
  ending : Ending
  /-- The requests that were made, whether or not anyone was there. -/
  requests : List Request := []
  /-- What sockets have received. -/
  delivered : List (List UInt8) := []

/-- Follows a plan. -/
def Plan.run (w : Surroundings) : Plan → Outcome
  | .done ending => { ending }
  | .look path next => (next (w.place path)).run w
  | .fetch _ request next =>
    let o := (next w.answer).run w
    { o with requests := request :: o.requests }
  | .deliver path bytes next =>
    let refusal := w.refusal path
    let o := (next refusal).run w
    if refusal.isSome then o else { o with delivered := bytes :: o.delivered }
  | .serve settings next => (next (w.verdict settings)).run w

end WifiStation.Cli
