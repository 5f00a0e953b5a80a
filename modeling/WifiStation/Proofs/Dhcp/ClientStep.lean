import WifiStation.Dhcp.Client
import WifiStation.Proofs.Runs

/-!
# WifiStation.Proofs.Dhcp.ClientStep

What one input can do to a client.

`Client.step` puts the inputs of a client under one name, and `Client.Change` lists what can come of
them, each with the condition under which it comes. `step_change` is the only place where the code
of the client is opened: statements about runs of clients are read off the changes.
-/

namespace WifiStation.Dhcp

open WifiStation.Net

/-- The packet that an action sends. -/
def Action.packet? : Action → Option Packet
  | .send p => some p
  | _ => none

/-- Whether an action gives the interface an address. -/
def Action.isConfigure : Action → Bool
  | .configure .. => true
  | _ => false

namespace Client

/-! ### Inputs and changes -/

/-- What can happen to a client. -/
inductive Input where
  | start (ifindex : UInt32) (mac : Mac) (now : Nat) (fresh : UInt32)
  | stop
  /-- Its owner could not perform an action. -/
  | failure
  | packet (p : Packet) (now : Nat) (fresh : UInt32)
  /-- It is time to look whether something is due. -/
  | timeout (now : Nat) (fresh : UInt32)
  deriving DecidableEq, Repr

/-- Takes one input. -/
def step (c : Client) : Input → Client × List Action
  | .start ifindex mac now fresh => c.start ifindex mac now fresh
  | .stop => c.stop
  | .failure => (c.reportFailure, [])
  | .packet p now fresh => c.handlePacket p now fresh
  | .timeout now fresh => c.handleTimeout now fresh

/-- A packet is a reply in the client's current transaction. -/
def Hears (c : Client) (p : Packet) : Prop :=
  p.direction = .reply ∧ p.xid = c.xid ∧ p.chaddr = c.mac

/-- Something is due at a time. -/
def Due (c : Client) (now : Nat) : Prop := c.deadline.any (· ≤ now) = true

/-- Phases in which the client waits for an answer. -/
def Negotiating (c : Client) : Prop := c.phase = .discovering ∨ c.phase = .requesting

/-- A reply means something to the client where it stands. -/
def Expects (c : Client) (p : Packet) : Prop :=
  c.phase = .discovering ∧ p.options.kind = some .offer ∧ p.namedServer.isSome ∨
    c.phase = .requesting ∧ (p.options.kind = some .ack ∨ p.options.kind = some .nak)

/-- What can come of an input: the next state and the actions. -/
inductive Change (c : Client) : Input → Client × List Action → Prop
  | started (ifindex : UInt32) (mac : Mac) (now : Nat) (fresh : UInt32) (idle : c.phase = .idle) :
      Change c (.start ifindex mac now fresh) ({ c with ifindex, mac }.discover now fresh)
  | running (ifindex : UInt32) (mac : Mac) (now : Nat) (fresh : UInt32) (busy : c.phase ≠ .idle) :
      Change c (.start ifindex mac now fresh) (c, [])
  | stopped (busy : c.phase ≠ .idle) :
      Change c .stop
        ({ c with phase := .idle, lease := none, outstanding := none, deadline := none,
                  failed := false }, [.clearAddress c.ifindex])
  | resting (idle : c.phase = .idle) : Change c .stop (c, [])
  | failed : Change c .failure (c.reportFailure, [])
  /-- It asks for the address that it is offered. -/
  | offered (p : Packet) (now : Nat) (fresh : UInt32) (server : Ipv4) (hears : c.Hears p)
      (phase : c.phase = .discovering) (kind : p.options.kind = some .offer)
      (named : p.namedServer = some server) :
      Change c (.packet p now fresh) (c.request p.yiaddr server now fresh)
  /-- It takes the lease that it is granted. -/
  | leased (p : Packet) (now : Nat) (fresh : UInt32) (hears : c.Hears p)
      (phase : c.phase = .requesting) (kind : p.options.kind = some .ack) :
      Change c (.packet p now fresh) (c.configure p now)
  /-- It is refused and starts again. -/
  | refused (p : Packet) (now : Nat) (fresh : UInt32) (hears : c.Hears p)
      (phase : c.phase = .requesting) (kind : p.options.kind = some .nak) :
      Change c (.packet p now fresh)
        ((c.dropLease.1.discover now fresh).1,
          c.dropLease.2 ++ (c.dropLease.1.discover now fresh).2)
  | ignored (p : Packet) (now : Nat) (fresh : UInt32) (deaf : ¬ (c.Hears p ∧ c.Expects p)) :
      Change c (.packet p now fresh) (c, [])
  /-- It asks for the address that it has again. -/
  | renewed (now : Nat) (fresh : UInt32) (lease : Lease) (due : c.Due now)
      (phase : c.phase = .configured) (has : c.lease = some lease) :
      Change c (.timeout now fresh) (c.request lease.addr lease.serverId now fresh)
  | resent (now : Nat) (fresh : UInt32) (due : c.Due now) (phase : c.Negotiating)
      (left : c.attempts < c.maxAttempts) :
      Change c (.timeout now fresh)
        ({ c with attempts := c.attempts + 1, deadline := some (now + c.retransmitMs) },
          (c.outstanding.map Action.send).toList)
  | gaveUp (now : Nat) (fresh : UInt32) (due : c.Due now) (phase : c.Negotiating)
      (spent : c.maxAttempts ≤ c.attempts) :
      Change c (.timeout now fresh) { c with failed := true, deadline := none }.dropLease
  | waiting (now : Nat) (fresh : UInt32)
      (calm : c.Due now → c.phase = .idle ∨ c.phase = .configured ∧ c.lease = none) :
      Change c (.timeout now fresh) (c, [])

theorem handlePacket_change (c : Client) (p : Packet) (now : Nat) (fresh : UInt32) :
    Change c (.packet p now fresh) (c.handlePacket p now fresh) := by
  rw [handlePacket]
  split
  · rename_i hears
    split
    · rename_i hp hk
      split
      · rename_i server hs
        exact .offered p now fresh server hears hp hk hs
      · rename_i hs
        refine .ignored p now fresh ?_
        simp [Expects, hp, hs]
    · rename_i hp hk
      exact .leased p now fresh hears hp hk
    · rename_i hp hk
      exact .refused p now fresh hears hp hk
    · rename_i hoffer hack hnak
      refine .ignored p now fresh ?_
      rintro ⟨-, ⟨hp, hk, -⟩ | ⟨hp, hk | hk⟩⟩
      · exact hoffer hp hk
      · exact hack hp hk
      · exact hnak hp hk
  · rename_i hears
    exact .ignored p now fresh fun h => hears h.1

theorem retry_change (c : Client) (now : Nat) (fresh : UInt32) (due : c.Due now)
    (phase : c.Negotiating) : Change c (.timeout now fresh) (c.retry now) := by
  rw [retry]
  split
  · rename_i spent
    exact .gaveUp now fresh due phase spent
  · rename_i left
    exact .resent now fresh due phase (Nat.lt_of_not_le left)

theorem handleTimeout_change (c : Client) (now : Nat) (fresh : UInt32) :
    Change c (.timeout now fresh) (c.handleTimeout now fresh) := by
  rw [handleTimeout]
  split
  · rename_i due
    cases hp : c.phase with
    | idle => exact .waiting now fresh fun _ => .inl hp
    | discovering => exact c.retry_change now fresh due (.inl hp)
    | requesting => exact c.retry_change now fresh due (.inr hp)
    | configured =>
        cases hl : c.lease with
        | none => exact .waiting now fresh fun _ => .inr ⟨hp, hl⟩
        | some lease => exact .renewed now fresh lease due hp hl
  · rename_i early
    exact .waiting now fresh fun due => absurd due early

/-- Every input has one of the changes. -/
theorem step_change (c : Client) (input : Input) : Change c input (c.step input) := by
  cases input with
  | start ifindex mac now fresh =>
      rw [step, start]
      split
      · rename_i idle
        exact .started ifindex mac now fresh idle
      · rename_i busy
        exact .running ifindex mac now fresh busy
  | stop =>
      rw [step, stop]
      split
      · rename_i idle
        exact .resting idle
      · rename_i busy
        exact .stopped busy
  | failure => exact .failed
  | packet p now fresh => exact c.handlePacket_change p now fresh
  | timeout now fresh => exact c.handleTimeout_change now fresh

/-! ### Giving up a lease -/

theorem send_not_mem_dropLease (c : Client) (p : Packet) : Action.send p ∉ c.dropLease.2 := by
  rw [dropLease]
  cases c.lease <;> simp

theorem any_isConfigure_dropLease (c : Client) :
    c.dropLease.2.any Action.isConfigure = false := by
  rw [dropLease]
  cases c.lease <;> rfl

/-! ### Leases come from ACKs -/

/-- A client gets a lease from an ACK in its transaction and configures it at once; every other
input keeps the lease or gives it up, and configures nothing. -/
theorem Change.lease {c : Client} {input : Input} {r : Client × List Action}
    (h : Change c input r) :
    (∃ p now fresh, input = .packet p now fresh ∧ c.Hears p ∧ c.phase = .requesting ∧
      p.options.kind = some .ack ∧ r.1.lease = some (leaseOf p) ∧
      r.2.any Action.isConfigure = true) ∨
    (r.1.lease = c.lease ∨ r.1.lease = none) ∧ r.2.any Action.isConfigure = false := by
  cases h with
  | started => exact .inr ⟨.inl rfl, rfl⟩
  | running => exact .inr ⟨.inl rfl, rfl⟩
  | stopped => exact .inr ⟨.inr rfl, rfl⟩
  | resting => exact .inr ⟨.inl rfl, rfl⟩
  | failed => exact .inr ⟨.inl rfl, rfl⟩
  | offered => exact .inr ⟨.inl rfl, rfl⟩
  | leased p now fresh hears phase kind =>
      exact .inl ⟨p, now, fresh, rfl, hears, phase, kind, rfl, rfl⟩
  | refused =>
      refine .inr ⟨.inr rfl, ?_⟩
      rw [List.any_append, any_isConfigure_dropLease]
      rfl
  | ignored => exact .inr ⟨.inl rfl, rfl⟩
  | renewed => exact .inr ⟨.inl rfl, rfl⟩
  | resent =>
      refine .inr ⟨.inl rfl, ?_⟩
      cases c.outstanding <;> rfl
  | gaveUp => exact .inr ⟨.inr rfl, any_isConfigure_dropLease _⟩
  | waiting => exact .inr ⟨.inl rfl, rfl⟩

/-- What a client configures is the address that a packet gives, with the length of the mask that
the packet says. -/
theorem Change.configured_by {c : Client} {p : Packet} {now : Nat} {fresh : UInt32}
    {r : Client × List Action} (h : Change c (.packet p now fresh) r) {ifindex : UInt32}
    {addr : Ipv4} {prefixLength : Nat} {gateway : Option Ipv4}
    (acts : .configure ifindex addr prefixLength gateway ∈ r.2) :
    addr = p.yiaddr ∧ prefixLength = (p.options.subnetMask.getD fallbackMask).prefixLength := by
  cases h with
  | offered => simp [request, beginPhase] at acts
  | leased =>
      injection List.mem_singleton.mp acts with _ atAddr ofLength
      exact ⟨atAddr, ofLength⟩
  | refused =>
      have configures : (c.dropLease.2 ++ (c.dropLease.1.discover now fresh).2).any
          Action.isConfigure = true := List.any_eq_true.mpr ⟨_, acts, rfl⟩
      rw [List.any_append, any_isConfigure_dropLease] at configures
      cases configures
  | ignored => cases acts

/-! ### The hardware address -/

/-- A client that is not idle has the hardware address it was started with. -/
theorem Change.mac {c : Client} {input : Input} {r : Client × List Action}
    (h : Change c input r) {mac : Mac} (hc : c.phase = .idle ∨ c.mac = mac)
    (starts : ∀ ifindex m now fresh, input = .start ifindex m now fresh → m = mac) :
    r.1.phase = .idle ∨ r.1.mac = mac := by
  have same : c.phase ≠ .idle → c.mac = mac := fun busy => hc.resolve_left busy
  cases h with
  | started ifindex m now fresh idle => exact .inr (starts ifindex m now fresh rfl)
  | running => exact hc
  | stopped => exact .inl rfl
  | resting => exact hc
  | failed => exact hc
  | offered p now fresh server hears phase => exact .inr (same (by simp [phase]))
  | leased p now fresh hears phase => exact .inr (same (by simp [phase]))
  | refused p now fresh hears phase => exact .inr (same (by simp [phase]))
  | ignored => exact hc
  | renewed now fresh lease due phase => exact .inr (same (by simp [phase]))
  | resent => exact hc
  | gaveUp => exact hc
  | waiting => exact hc

/-! ### Runs -/

/-- Takes inputs one after the other and collects the actions. -/
def run (c : Client) (inputs : List Input) : Client × List Action := runFrom step c inputs

end Client

end WifiStation.Dhcp
