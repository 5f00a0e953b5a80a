import WifiStation.App.Reporter
import WifiStation.Place

/-!
# WifiStation.App.Session

A reporter with the daemon's end of its connection.

* The daemon may take connections, holds the connection from when it is made until it hangs up, and
  keeps what it receives in between.
* What the daemon sends is heard at once; that fails if the reporter has given up the connection.
* What happens to the reporter goes into the backlog, until someone reads it.
-/

namespace WifiStation.App

open WifiStation

/-- Both ends of a connection. -/
structure Session where
  reporter : Reporter
  backlog : Backlog := {}
  /-- Whether the daemon takes connections. -/
  listening : Bool := false
  /-- Whether the daemon holds a connection. -/
  held : Bool := false
  /-- What the daemon has received and not looked at. -/
  received : List UInt8 := []
  deriving Repr

namespace Session

/-- Goes on with the reporter after some events. -/
def follow (s : Session) (next : Reporter × List ReporterEvent) : Session :=
  { s with reporter := next.1, backlog := s.backlog.add next.2 }

/-- The reporter connects. -/
def connect (s : Session) (path : String) : Except ReporterError Unit × Session :=
  let refusal := if s.listening then none else some PlaceError.notFound.message
  let (result, next) := s.reporter.connect path refusal
  (result, { s.follow next with held := s.held || result.isOk })

/-- The reporter gives up the connection. -/
def disconnect (s : Session) : Session := { s with reporter := s.reporter.disconnect }

/-- The reporter sends; it must have connected before. -/
def report? (s : Session) (bytes : List UInt8) : Option (Except ReporterError Unit × Session) :=
  if s.reporter.connected then
    match Reporter.send bytes (!s.held) with
    | .ok bytes => some (.ok (), { s with received := s.received ++ bytes })
    | .error e => some (.error e, s)
  else none

/-- The daemon sends, if it holds a connection; `none` if nobody is at the other end. -/
def push? (s : Session) (bytes : List UInt8) : Option Session :=
  if !s.held then some s
  else if s.reporter.listening then some (s.follow (s.reporter.receive bytes))
  else none

/-- The daemon hangs up. -/
def hangup (s : Session) : Session :=
  if s.held then { s.follow s.reporter.hangup with held := false } else s

/-- Whether the daemon can see that the reporter has given up the connection. -/
def givenUp (s : Session) : Bool := s.held && !s.reporter.listening

end Session

end WifiStation.App
