import WifiStation.Proofs.Dhcp.ClientStep

/-!
# WifiStation.Proofs.Dhcp.Interface

The addresses on a machine's interfaces, as a client leaves them, and why they always show the
client's lease.

`Interfaces` is what the actions of a client are performed on. A lease lives through several phases:
it is there while the client is configured, it stays while the client asks for it again, and it goes
when the server refuses, when nobody answers, and when the client is stopped. `Shows` says that the
interfaces hold the current lease and nothing else. A client that starts does so from idle, where it
has no lease; that is the second half of the invariant, and what lets it move to another interface.
-/

namespace WifiStation.Dhcp

open WifiStation.Net

/-! ### Interfaces -/

/-- The address and the prefix length on each interface that has one. -/
structure Interfaces where
  at? : UInt32 → Option (Ipv4 × Nat)

namespace Interfaces

/-- No interface has an address. -/
def bare : Interfaces := ⟨fun _ => none⟩

/-- Puts an address on an interface, in place of the one before, or takes it off. -/
def assign (t : Interfaces) (ifindex : UInt32) (entry : Option (Ipv4 × Nat)) : Interfaces :=
  ⟨fun i => if i = ifindex then entry else t.at? i⟩

/-- Performs an action. -/
def perform (t : Interfaces) : Action → Interfaces
  | .send _ => t
  | .configure ifindex addr prefixLength _ => t.assign ifindex (some (addr, prefixLength))
  | .clearAddress ifindex => t.assign ifindex none

/-- Performs actions in order. -/
def replay (t : Interfaces) (actions : List Action) : Interfaces := actions.foldl perform t

/-- One interface has the address of a lease, if there is one; no other interface has any. -/
def showing (ifindex : UInt32) (lease : Option Lease) : Interfaces :=
  bare.assign ifindex (lease.map fun l => (l.addr, l.subnetMask.prefixLength))

theorem replay_append (t : Interfaces) (xs ys : List Action) :
    t.replay (xs ++ ys) = (t.replay xs).replay ys :=
  List.foldl_append

/-- The last assignment of an interface counts. -/
@[simp] theorem assign_assign (t : Interfaces) (ifindex : UInt32) (e e' : Option (Ipv4 × Nat)) :
    (t.assign ifindex e).assign ifindex e' = t.assign ifindex e' := by
  simp only [assign, mk.injEq]
  funext i
  split <;> rfl

@[simp] theorem assign_bare_none (ifindex : UInt32) : bare.assign ifindex none = bare := by
  simp [assign, bare]

@[simp] theorem showing_none (ifindex : UInt32) : showing ifindex none = bare :=
  assign_bare_none ifindex

/-- Whatever an interface has shown, an assignment to it replaces. -/
theorem assign_showing (ifindex : UInt32) (lease : Option Lease) (e : Option (Ipv4 × Nat)) :
    (showing ifindex lease).assign ifindex e = bare.assign ifindex e :=
  assign_assign bare ifindex _ e

end Interfaces

namespace Client

/-! ### The invariant -/

/-- The interfaces hold the client's lease and nothing else, and an idle client has no lease. -/
structure Shows (c : Client) (t : Interfaces) : Prop where
  holds : t = .showing c.ifindex c.lease
  idle : c.phase = .idle → c.lease = none

theorem shows_new (maxAttempts retransmitMs : Nat) :
    (new maxAttempts retransmitMs).Shows .bare :=
  ⟨(Interfaces.showing_none 0).symm, fun _ => rfl⟩

/-- Giving up the lease leaves every interface bare. -/
theorem replay_dropLease (c : Client) :
    (Interfaces.showing c.ifindex c.lease).replay c.dropLease.2 = .bare := by
  rw [dropLease]
  cases c.lease with
  | none => exact Interfaces.showing_none c.ifindex
  | some lease =>
      calc (Interfaces.showing c.ifindex (some lease)).assign c.ifindex none
          = Interfaces.bare.assign c.ifindex none := Interfaces.assign_showing _ _ _
        _ = .bare := Interfaces.assign_bare_none c.ifindex

/-- Every input keeps the interfaces and the lease in step. -/
theorem Change.shows {c : Client} {input : Input} {r : Client × List Action}
    (h : Change c input r) {t : Interfaces} (hc : c.Shows t) : r.1.Shows (t.replay r.2) := by
  obtain ⟨rfl, idle⟩ := hc
  cases h with
  | started ifindex mac now fresh rest =>
      -- the interfaces are bare, so it does not matter which of them the client looks after
      have bare : c.lease = none := idle rest
      refine ⟨?_, fun hp => nomatch hp⟩
      change Interfaces.showing c.ifindex c.lease = .showing ifindex c.lease
      rw [bare, Interfaces.showing_none, Interfaces.showing_none]
  | running => exact ⟨rfl, idle⟩
  | stopped =>
      refine ⟨?_, fun _ => rfl⟩
      exact Interfaces.assign_showing c.ifindex c.lease none
  | resting => exact ⟨rfl, idle⟩
  | failed => exact ⟨rfl, idle⟩
  | offered => exact ⟨rfl, fun hp => nomatch hp⟩
  | leased p now fresh hears phase kind =>
      refine ⟨?_, fun hp => nomatch hp⟩
      exact Interfaces.assign_showing c.ifindex c.lease _
  | refused =>
      refine ⟨?_, fun hp => nomatch hp⟩
      rw [Interfaces.replay_append, replay_dropLease]
      exact (Interfaces.showing_none c.ifindex).symm
  | ignored => exact ⟨rfl, idle⟩
  | renewed => exact ⟨rfl, fun hp => nomatch hp⟩
  | resent =>
      refine ⟨?_, idle⟩
      cases c.outstanding <;> rfl
  | gaveUp now fresh due phase spent =>
      refine ⟨?_, fun _ => rfl⟩
      exact (replay_dropLease { c with failed := true, deadline := none }).trans
        (Interfaces.showing_none c.ifindex).symm
  | waiting => exact ⟨rfl, idle⟩

/-- Whatever happens to a client, the interfaces show its lease. -/
theorem run_shows {c : Client} (h : c.Shows .bare) (inputs : List Input) :
    (c.run inputs).1.Shows (Interfaces.bare.replay (c.run inputs).2) := by
  refine runFrom_induction (motive := fun (c : Client) (asked : List Action) =>
    c.Shows (Interfaces.bare.replay asked)) ?_ h inputs
  intro c asked input hc
  rw [Interfaces.replay_append]
  exact (c.step_change input).shows hc

/-- Replaying all that a client has asked for so far puts the address and prefix length of its
current lease on its interface, and nothing on any other; without a lease no interface has an
address. Stopping the client leaves every interface bare, with exactly one removal, or with none if
the client is idle already. -/
theorem interfaces_show_lease (maxAttempts retransmitMs : Nat) (inputs : List Input) :
    let r := (new maxAttempts retransmitMs).run inputs
    let t := Interfaces.bare.replay r.2
    (∀ i, t.at? i = match r.1.lease with
      | some l =>
        if i = r.1.ifindex then some (l.addr, l.subnetMask.prefixLength) else none
      | none => none) ∧
    r.1.stop.1.lease = none ∧
    (∀ i, (t.replay r.1.stop.2).at? i = none) ∧
    r.1.stop.2 = if r.1.phase = .idle then [] else [.clearAddress r.1.ifindex] := by
  intro r t
  have shows : r.1.Shows t := run_shows (shows_new maxAttempts retransmitMs) inputs
  have stopped : r.1.stop.1.Shows (t.replay r.1.stop.2) := (r.1.step_change .stop).shows shows
  have gone : r.1.stop.1.lease = none := by
    rw [stop]
    split
    · exact shows.idle ‹_›
    · rfl
  refine ⟨fun i => ?_, gone, fun i => ?_, ?_⟩
  · rw [shows.holds]
    cases r.1.lease with
    | none => rw [Interfaces.showing_none]; rfl
    | some l => rfl
  · rw [stopped.holds, gone, Interfaces.showing_none]
    rfl
  · rw [stop]
    split <;> rfl

end Client

end WifiStation.Dhcp
