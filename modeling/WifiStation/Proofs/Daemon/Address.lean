import WifiStation.Daemon.Address
import WifiStation.Proofs.Net.EndpointText

/-!
# WifiStation.Proofs.Daemon.Address

Where the daemon listens, and where a client looks for it.

Both put the text of the address, a colon and the port together (`toList_hostAndPort`), and for an
address of version 4 that is an endpoint. An address of version 6 would have to stand in brackets
for that, which is not how it is written: the daemon refuses it, and so no client finds a daemon
there. A client puts brackets only around the loopback address, where it finds the text of the
unspecified one.
-/

namespace WifiStation

open WifiStation.Net WifiStation.Text

/-- An address of either version. -/
inductive Ip where
  | v4 (a : Ipv4)
  | v6 (a : Ipv6)
  deriving DecidableEq, Repr

namespace Ip

/-- The usual text of an address. -/
def render : Ip → String
  | v4 a => a.render
  | v6 a => a.render

/-- The address with a port, as an endpoint without scope. -/
def endpoint (port : UInt16) : Ip → Endpoint
  | v4 a => .v4 a port
  | v6 a => .v6 a 0 port

/-- The loopback address of version 4. -/
def loopback4 : Ipv4 := .ofBytes 127 0 0 1

/-- The address under which a program on the same machine finds one that listens: the loopback
address of the same version for the unspecified one. -/
def reached : Ip → Ip
  | v4 a => v4 (if a = .zero then loopback4 else a)
  | v6 a => v6 (if a = .zero then .loopback else a)

end Ip

namespace DaemonSettings

/-- The endpoint that the addresses of all pages name, if it is one. -/
def pageEndpoint? (s : DaemonSettings) : Option Endpoint :=
  Endpoint.read? (s.baseUrl.toList.drop "http://".length)

theorem toList_hostAndPort (host : String) (port : UInt16) :
    (hostAndPort host port).toList = host.toList ++ ':' :: Nat.toDigits 10 port.toNat := by
  have digits : (toString port).toList = Nat.toDigits 10 port.toNat :=
    toList_toString_nat port.toNat
  have colon : (toString ":").toList = [':'] := rfl
  have same : toString host = host := rfl
  simp [hostAndPort, digits, colon, same]

theorem pageEndpoint?_eq (s : DaemonSettings) :
    s.pageEndpoint? =
      Endpoint.read? (s.clientHost.toList ++ ':' :: Nat.toDigits 10 s.httpPort.toNat) := by
  have scheme : "http://".toList = ['h', 't', 't', 'p', ':', '/', '/'] := rfl
  rw [pageEndpoint?, baseUrl, String.toList_append, scheme, toList_hostAndPort]
  rfl

/-! ### Version 4 -/

theorem endpoint_v4 {s : DaemonSettings} {a : Ipv4} (text : s.httpAddr = a.render) :
    s.endpoint = .ok (.v4 a s.httpPort) := by
  rw [endpoint, toList_hostAndPort, text, Endpoint.read?_v4]

/-- A client looks for the loopback address in the place of the unspecified one, and else for the
address that is written. -/
theorem clientHost_v4 {s : DaemonSettings} {a : Ipv4} (text : s.httpAddr = a.render) :
    s.clientHost = (if a = .zero then Ip.loopback4 else a).render := by
  have unspecified : a.render = "0.0.0.0" ↔ a = .zero := by
    constructor
    · intro same
      exact Ipv4.render_injective same
    · rintro rfl
      rfl
  have point : '.' ∈ a.render.toList := by simp [Ipv4.toList_render, Ipv4.octetTexts, Ipv4.toBytes]
  have some_text : a.render ≠ "" := by
    intro same
    simp [same] at point
  have no_colons : a.render ≠ "::" := by
    intro same
    rw [same] at point
    exact absurd point (by decide)
  rw [clientHost, text]
  simp only [unspecified, some_text, no_colons, or_false, if_false]
  split
  · rfl
  · rfl

theorem pageEndpoint?_v4 {s : DaemonSettings} {a : Ipv4} (text : s.httpAddr = a.render) :
    s.pageEndpoint? = some (.v4 (if a = .zero then Ip.loopback4 else a) s.httpPort) := by
  rw [pageEndpoint?_eq, clientHost_v4 text, Endpoint.read?_v4]

/-! ### Version 6 -/

theorem endpoint_v6 {s : DaemonSettings} {a : Ipv6} (text : s.httpAddr = a.render) :
    s.endpoint = .error (.startup
      ("invalid HTTP address " ++ quote a.render ++ ": invalid socket address syntax")) := by
  rw [endpoint, toList_hostAndPort, text, Endpoint.read?_of_group (a.beginsGroup_render.append _)]

theorem clientHost_v6 {s : DaemonSettings} {a : Ipv6} (text : s.httpAddr = a.render) :
    s.clientHost = if a = .zero then "[::1]" else a.render := by
  obtain ⟨group, rest, shape, -⟩ := a.beginsGroup_render
  have colon : ':' ∈ a.render.toList := by simp [shape]
  have some_text : a.render ≠ "" := by
    intro same
    simp [same] at colon
  have not_dotted : a.render ≠ "0.0.0.0" := by
    intro same
    rw [same] at colon
    exact absurd colon (by decide)
  simp only [clientHost, text, some_text, not_dotted, or_self, if_false, Ipv6.render_eq_colons_iff]

theorem pageEndpoint?_v6 {s : DaemonSettings} {a : Ipv6} (text : s.httpAddr = a.render) :
    s.pageEndpoint? = if a = .zero then some (.v6 .loopback 0 s.httpPort) else none := by
  rw [pageEndpoint?_eq, clientHost_v6 text]
  split
  · exact Endpoint.read?_loopback s.httpPort
  · exact Endpoint.read?_of_group (a.beginsGroup_render.append _)

/-! ### Both -/

/-- If the setting is the text of an address, the daemon listens there and a client looks for it at
the address under which it is reached, both with the port of the settings, exactly if the address is
of version 4. One of version 6 is refused by the daemon, and what a client makes of it is an endpoint
only for the unspecified one. -/
theorem agree_iff_version_four (s : DaemonSettings) (a : Ip) (text : s.httpAddr = a.render) :
    (s.endpoint = .ok (a.endpoint s.httpPort) ∧
        s.pageEndpoint? = some (a.reached.endpoint s.httpPort) ↔ ∃ b, a = .v4 b) ∧
      ∀ b, a = .v6 b →
        s.endpoint = .error (.startup
          ("invalid HTTP address " ++ quote b.render ++ ": invalid socket address syntax")) ∧
        s.pageEndpoint? = if b = .zero then some (.v6 .loopback 0 s.httpPort) else none := by
  cases a with
  | v4 a =>
      refine ⟨⟨fun _ => ⟨a, rfl⟩, fun _ => ⟨endpoint_v4 text, pageEndpoint?_v4 text⟩⟩, ?_⟩
      intro b other
      cases other
  | v6 a =>
      refine ⟨⟨fun both => ?_, fun version => ?_⟩, ?_⟩
      · rw [endpoint_v6 text] at both
        cases both.1
      · obtain ⟨b, other⟩ := version
        cases other
      · rintro b ⟨⟩
        exact ⟨endpoint_v6 text, pageEndpoint?_v6 text⟩

/-- A daemon that is to listen on every address of version 4 is found at the loopback address; one
that is to listen at an address of version 6 is refused. -/
theorem agree_iff_version_four_everywhere :
    let s : DaemonSettings := { httpAddr := "0.0.0.0", httpPort := 80 }
    let s' : DaemonSettings := { httpAddr := "::1", httpPort := 80 }
    s.httpAddr = (Ip.v4 .zero).render ∧
      s.endpoint = .ok (.v4 .zero 80) ∧ s.pageEndpoint? = some (.v4 Ip.loopback4 80) ∧
    s'.httpAddr = (Ip.v6 .loopback).render ∧
      s'.endpoint = .error (.startup
        ("invalid HTTP address " ++ quote "::1" ++ ": invalid socket address syntax")) ∧
      s'.pageEndpoint? = none := by
  intro s s'
  have text : s.httpAddr = (Ip.v4 .zero).render := by decide +kernel
  have text' : s'.httpAddr = (Ip.v6 .loopback).render := by decide +kernel
  obtain ⟨agree, -⟩ := agree_iff_version_four s (.v4 .zero) text
  obtain ⟨-, refused⟩ := agree_iff_version_four s' (.v6 .loopback) text'
  obtain ⟨listens, found⟩ := agree.mpr ⟨_, rfl⟩
  obtain ⟨fault, lost⟩ := refused _ rfl
  exact ⟨text, listens, found, text', fault, lost⟩

/-- A client looks for a daemon that listens on every address of version 6 at the loopback address,
but the daemon refuses to listen there. -/
theorem unspecified_six_refused :
    let s : DaemonSettings := { httpAddr := (Ip.v6 .zero).render, httpPort := 8080 }
    1 ≤ s.httpPort ∧ s.httpAddr = "::" ∧
      s.pageEndpoint? = some ((Ip.v6 .zero).reached.endpoint s.httpPort) ∧
      s.endpoint ≠ .ok ((Ip.v6 .zero).endpoint s.httpPort) := by
  intro s
  refine ⟨by decide, rfl, pageEndpoint?_v6 (s := s) (a := .zero) rfl, ?_⟩
  rw [endpoint_v6 (s := s) (a := .zero) rfl]
  nofun

end DaemonSettings

end WifiStation
