import WifiStation.Supplicant.Launch
import WifiStation.Supplicant.Monitor
import WifiStation.Supplicant.Script

/-!
# WifiStation.Supplicant.Rehearsal

A monitor with a supplicant that follows a script.

At first commands are answered by a `Script` and events come from a `Feed`. A start, if it
succeeds, puts sockets with a `Peer` in place of both, and a program that may have ended. A start
that fails leaves them as they are.
-/

namespace WifiStation.Supplicant

open WifiStation

/-- Records that wait to be read, and whether more can come. -/
structure Feed where
  records : List String := []
  isOpen : Bool := true
  deriving Repr

/-- What a wait for the next event ends with. -/
inductive Arrival (α : Type) where
  | pending
  | record (text : String) (rest : α)
  | failed (e : SupplicantError)

/-- A monitor with what it talks to. -/
structure Rehearsal where
  monitor : Monitor
  script : Script
  feed : Feed := {}
  /-- The sockets, once a start has found a peer. -/
  sockets : Option Sockets := none
  /-- How the program has ended, if it has. -/
  ended : Option String := none

namespace Rehearsal

/-- The sockets, if the one for events is open. -/
def openEvents? (r : Rehearsal) : Option Sockets := r.sockets.filter (·.events.isSome)

/-- Answers a command: over the socket for commands if it is open, or else from the script. -/
def answer (r : Rehearsal) (command : String) : Outcome × Rehearsal :=
  match r.sockets.filter (·.control.isSome) with
  | some s => let (outcome, s) := s.request command; (outcome, { r with sockets := some s })
  | none => let (outcome, s) := r.script.answer command; (outcome, { r with script := s })

/-- Talks, if there is a channel. -/
def talk {α : Type} (r : Rehearsal) (d : Dialogue α) : α × Rehearsal := r.monitor.talk answer d r

/-- Talks, and goes on with the monitor that results. -/
def update (r : Rehearsal) (d : Dialogue Monitor) : Rehearsal :=
  let (m, r) := r.talk d
  { r with monitor := m }

/-- A record is put into the feed, if the monitor still reads it. -/
def feedRecord (r : Rehearsal) (record : String) : Rehearsal :=
  if r.openEvents?.isNone && r.monitor.hasEvents then
    { r with feed := { r.feed with records := r.feed.records ++ [record] } }
  else r

/-- No more records are put into the feed. -/
def closeFeed (r : Rehearsal) : Rehearsal := { r with feed := { r.feed with isOpen := false } }

/-- Waits for the program: it may have ended. -/
def awaitEnd (r : Rehearsal) : Arrival Rehearsal :=
  match r.ended with
  | some status => if r.monitor.hasProcess then .failed (.exited status) else .pending
  | none => .pending

/-- Waits for the next record, the end of the feed or that of the program. -/
def next (r : Rehearsal) : Arrival Rehearsal :=
  if !r.monitor.hasEvents then r.awaitEnd
  else match r.openEvents? with
    | some s =>
      match s.next? with
      | some (text, s) => .record text { r with sockets := some s }
      | none => r.awaitEnd
    | none =>
      match r.feed.records with
      | text :: rest => .record text { r with feed := { r.feed with records := rest } }
      | [] => if r.feed.isOpen then r.awaitEnd else .failed .channelClosed

/-- Closes the sockets that the monitor no longer has. -/
def settle (r : Rehearsal) : Rehearsal :=
  { r with sockets := r.sockets.map fun s =>
      let s := if r.monitor.hasEvents then s else s.detach
      if r.monitor.hasControl then s else { s with control := none } }

/-- Starts the program `binary`, which comes to an end if `ended` says so. Its control socket is
there at once if it is served at all. -/
def start (r : Rehearsal) (settings : SupplicantSettings) (launch : Launch) (served : Bool)
    (peer : Peer) (ended : Option String) : Except SupplicantError Unit × Rehearsal :=
  let opens := served && launch.directoryFault.isNone && launch.spawnFault.isNone
  let (replies, peer) := if opens then peer.hear .events attachCommand else ([], peer)
  let wait : SocketWait :=
    if served then .appeared
    else match ended with
      | some status => .exited status
      | none => .timedOut
  match { launch with wait, attachReplies := replies }.result settings with
  | .error e => (.error e, { r with sockets := if served then some { peer } else r.sockets })
  | .ok (control, events) =>
    (.ok (), { r with
      monitor := r.monitor.start
      sockets := some { peer, control := some control, events := some events }
      ended })

end Rehearsal

end WifiStation.Supplicant
