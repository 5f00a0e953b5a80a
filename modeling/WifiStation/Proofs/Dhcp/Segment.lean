import WifiStation.Proofs.Dhcp.ClientStep
import WifiStation.Proofs.Dhcp.Exclusive

/-!
# WifiStation.Proofs.Dhcp.Segment

Clients and one server on a network that promises nothing about delivery, and why no two clients
live on one address.

On a `Segment` everything that was ever sent stays in the air: any of it may arrive at any later
time, any number of times, in any order, or never, and every answer may arrive at every client. One
clock, which only moves forward, is everybody's.

The invariant (`Segment.Sound`) has three layers:

* the server's indexes agree;
* every ACK that was ever sent is backed by the table: as long as its lease time is not over, the
  client it went to is bound to its address (`Answer.Sound`); and
* every client's lease is that of such an ACK for its own hardware address, and no client ever
  sends anything that gives an address up, since it only knows this one server.

So a client that relies on its lease no longer than the ACK behind it says is bound to the leased
address, and bindings of different clients have different addresses (`no_address_shared`).
-/

namespace WifiStation.Dhcp

open WifiStation.Net

namespace Client

/-! ### Dealing with one server -/

/-- The client deals with one server only: neither its packet nor its lease names another. -/
structure Loyal (c : Client) (serverId : Ipv4) : Prop where
  outstanding : ∀ p, c.outstanding = some p → ¬ p.GivesUp serverId
  lease : ∀ l, c.lease = some l → l.serverId = serverId

/-- A client without a packet and without a lease names nobody. -/
theorem Loyal.of_none {c : Client} (outstanding : c.outstanding = none) (lease : c.lease = none)
    (serverId : Ipv4) : c.Loyal serverId where
  outstanding := fun p hp => by
    rw [outstanding] at hp
    cases hp
  lease := fun l hl => by
    rw [lease] at hl
    cases hl

theorem not_givesUp_discover (xid : UInt32) (mac : Mac) (serverId : Ipv4) :
    ¬ (Packet.ofClient .discover xid mac).GivesUp serverId := by
  simp [Packet.GivesUp, Packet.ofClient]

theorem not_givesUp_request (c : Client) (addr serverId : Ipv4) :
    ¬ (c.requestPacket addr serverId).GivesUp serverId := by
  simp [Packet.GivesUp, Packet.ofClient, requestPacket]

theorem discover_loyal {c : Client} {serverId : Ipv4}
    (lease : ∀ l, c.lease = some l → l.serverId = serverId) (now : Nat) (fresh : UInt32) :
    (c.discover now fresh).1.Loyal serverId ∧
      ∀ p, Action.send p ∈ (c.discover now fresh).2 → ¬ p.GivesUp serverId := by
  have stay := not_givesUp_discover fresh c.mac serverId
  refine ⟨⟨?_, lease⟩, ?_⟩
  · intro p hp
    cases hp
    exact stay
  · intro p hp
    cases List.mem_singleton.mp hp
    exact stay

theorem request_loyal {c : Client} {serverId : Ipv4}
    (lease : ∀ l, c.lease = some l → l.serverId = serverId) (addr : Ipv4) (now : Nat)
    (fresh : UInt32) :
    (c.request addr serverId now fresh).1.Loyal serverId ∧
      ∀ p, Action.send p ∈ (c.request addr serverId now fresh).2 → ¬ p.GivesUp serverId := by
  have stay := not_givesUp_request { c with xid := fresh } addr serverId
  refine ⟨⟨?_, lease⟩, ?_⟩
  · intro p hp
    cases hp
    exact stay
  · intro p hp
    cases List.mem_singleton.mp hp
    exact stay

/-- A client that hears from one server only keeps dealing with it, and sends nothing that would give
an address up. -/
theorem Change.loyal {c : Client} {input : Input} {r : Client × List Action}
    (h : Change c input r) {serverId : Ipv4} (hc : c.Loyal serverId)
    (replies : ∀ p now fresh, input = .packet p now fresh →
      p.options.serverId = some serverId) :
    r.1.Loyal serverId ∧ ∀ p, Action.send p ∈ r.2 → ¬ p.GivesUp serverId := by
  have unmoved : c.Loyal serverId ∧ ∀ p, Action.send p ∈ [] → ¬ p.GivesUp serverId :=
    ⟨hc, fun p hp => absurd hp List.not_mem_nil⟩
  cases h with
  | started ifindex mac now fresh idle =>
      exact discover_loyal (c := { c with ifindex, mac }) hc.lease now fresh
  | running => exact unmoved
  | stopped =>
      refine ⟨.of_none rfl rfl serverId, ?_⟩
      intro p hp
      cases List.mem_singleton.mp hp
  | resting => exact unmoved
  | failed => exact ⟨⟨hc.outstanding, hc.lease⟩, unmoved.2⟩
  | offered p now fresh server hears phase kind named =>
      -- the server that an OFFER names is the one it came from
      have hs : server = serverId := by
        rw [Packet.namedServer, replies p now fresh rfl] at named
        exact (Option.some.inj named).symm
      subst hs
      exact request_loyal hc.lease p.yiaddr now fresh
  | leased p now fresh hears phase kind =>
      refine ⟨⟨?_, ?_⟩, ?_⟩
      · intro q hq
        cases hq
      · intro l hl
        cases hl
        simp [leaseOf, Packet.namedServer, replies p now fresh rfl]
      · intro q hq
        cases List.mem_singleton.mp hq
  | refused p now fresh hears phase kind =>
      have lost : ∀ l, c.dropLease.1.lease = some l → l.serverId = serverId := by
        intro l hl
        cases hl
      obtain ⟨hloyal, hsend⟩ := discover_loyal lost now fresh
      refine ⟨hloyal, ?_⟩
      intro q hq
      rcases List.mem_append.mp hq with hq | hq
      · exact absurd hq (send_not_mem_dropLease c q)
      · exact hsend q hq
  | ignored => exact unmoved
  | renewed now fresh lease due phase has =>
      have hs : lease.serverId = serverId := hc.lease lease has
      subst hs
      exact request_loyal hc.lease lease.addr now fresh
  | resent now fresh due phase left =>
      refine ⟨⟨hc.outstanding, hc.lease⟩, ?_⟩
      intro p hp
      cases ho : c.outstanding with
      | none => simp [ho] at hp
      | some q =>
          have hpq : p = q := by simpa [ho] using hp
          rw [hpq]
          exact hc.outstanding q ho
  | gaveUp now fresh due phase spent =>
      refine ⟨⟨hc.outstanding, ?_⟩, ?_⟩
      · intro l hl
        cases hl
      · intro p hp
        exact absurd hp (send_not_mem_dropLease _ p)
  | waiting => exact unmoved

end Client

/-! ### Segments -/

/-- A client at its interface. -/
structure Station where
  /-- The interface's hardware address. -/
  mac : Mac
  client : Client
  /-- When the server sent the ACK behind the client's lease. -/
  grantedAt : Nat := 0

/-- A station takes an input. If the input makes the client configure an address, it was sent by
the server at `sentAt`. -/
def Station.take (st : Station) (input : Client.Input) (sentAt : Nat) : Station :=
  let r := st.client.step input
  { st with
    client := r.1
    grantedAt := if r.2.any Action.isConfigure then sentAt else st.grantedAt }

/-- An answer of the server and when it was sent. -/
structure Answer where
  packet : Packet
  sentAt : Nat

/-- Stations and a server with one clock. What was sent may arrive at any later time. -/
structure Segment (ι : Type u) where
  now : Nat := 0
  server : Server
  stations : ι → Station
  /-- All that the clients have sent. -/
  asked : List Packet := []
  /-- All that the server has answered. -/
  answered : List Answer := []

namespace Segment

variable {ι : Type u} [DecidableEq ι]

/-- What can happen on a segment. -/
inductive Event (ι : Type u) where
  /-- Time passes. -/
  | wait (ms : Nat)
  | start (i : ι) (ifindex fresh : UInt32)
  | stop (i : ι)
  | failure (i : ι)
  | timeout (i : ι) (fresh : UInt32)
  /-- The server receives a packet that was sent before, given by its place. -/
  | ask (k : Nat)
  /-- A client receives an answer that was sent before, given by its place. -/
  | answer (i : ι) (k : Nat) (fresh : UInt32)

/-- A segment with idle clients that never waited longer than they will. -/
def fresh (pool : Pool) (macs : ι → Mac) (maxAttempts retransmitMs : ι → Nat) : Segment ι :=
  { server := .ofPool pool
    stations := fun i => { mac := macs i, client := .new (maxAttempts i) (retransmitMs i) } }

/-- A station takes an input, and what its client sends is in the air. -/
def act (x : Segment ι) (i : ι) (input : Client.Input) (sentAt : Nat) : Segment ι :=
  { x with
    stations := fun j => if j = i then (x.stations i).take input sentAt else x.stations j
    asked := x.asked ++ ((x.stations i).client.step input).2.filterMap Action.packet? }

/-- The server handles a packet, and its answer is in the air. -/
def serve (x : Segment ι) (p : Packet) : Segment ι :=
  let r := x.server.handle p x.now
  { x with
    server := r.1
    answered := x.answered ++ (r.2.map fun q => ⟨q, x.now⟩).toList }

/-- One event. -/
def step (x : Segment ι) : Event ι → Segment ι
  | .wait ms => { x with now := x.now + ms }
  | .start i ifindex fresh => x.act i (.start ifindex (x.stations i).mac x.now fresh) x.now
  | .stop i => x.act i .stop x.now
  | .failure i => x.act i .failure x.now
  | .timeout i fresh => x.act i (.timeout x.now fresh) x.now
  | .ask k =>
    match x.asked[k]? with
    | some p => x.serve p
    | none => x
  | .answer i k fresh =>
    match x.answered[k]? with
    | some r => x.act i (.packet r.packet x.now fresh) r.sentAt
    | none => x

/-- Any number of events. -/
def run (x : Segment ι) (events : List (Event ι)) : Segment ι := events.foldl step x

end Segment

/-! ### The invariant -/

/-- An answer says who it is from, and an ACK is backed by the table until its time is over. -/
structure Answer.Sound (r : Answer) (server : Server) (now : Nat) : Prop where
  serverId : r.packet.options.serverId = some server.pool.serverId
  past : r.sentAt ≤ now
  leaseSecs : r.packet.options.kind = some .ack →
    r.packet.options.leaseSecs = some server.pool.advertisedSecs
  holds : r.packet.options.kind = some .ack → now < r.sentAt + server.pool.leaseMs →
    server.Holds r.packet.chaddr r.packet.yiaddr (r.sentAt + server.pool.leaseMs)

/-- A station has a hardware address of its own, deals with one server, and has its lease from an
ACK for this hardware address. -/
structure Station.Sound (st : Station) (serverId : Ipv4) (own : Mac) (answered : List Answer) :
    Prop where
  mac : st.mac = own
  named : st.client.phase = .idle ∨ st.client.mac = own
  loyal : st.client.Loyal serverId
  lease : ∀ l, st.client.lease = some l → ∃ r ∈ answered, r.sentAt = st.grantedAt ∧
    r.packet.options.kind = some .ack ∧ r.packet.chaddr = own ∧ l = Client.leaseOf r.packet

/-- An input keeps a station sound if it is for its hardware address and a packet in it is an
answer of the server, and what the client then sends gives nothing up. -/
theorem Station.Sound.take {st : Station} {serverId : Ipv4} {mac : Mac} {answered : List Answer}
    (h : st.Sound serverId mac answered) {input : Client.Input} {sentAt : Nat}
    (starts : ∀ ifindex m now fresh, input = .start ifindex m now fresh → m = mac)
    (replies : ∀ p now fresh, input = .packet p now fresh → ∃ r ∈ answered, r.packet = p ∧
      r.sentAt = sentAt ∧ p.options.serverId = some serverId) :
    (st.take input sentAt).Sound serverId mac answered ∧
      ∀ p ∈ (st.client.step input).2.filterMap Action.packet?, ¬ p.GivesUp serverId := by
  have change := st.client.step_change input
  obtain ⟨hloyal, hsend⟩ := change.loyal h.loyal fun p now fresh hi => by
    obtain ⟨r, -, -, -, hs⟩ := replies p now fresh hi
    exact hs
  refine ⟨⟨h.mac, change.mac h.named starts, hloyal, ?_⟩, ?_⟩
  · intro l hl
    rcases change.lease with ⟨p, now, fresh, hi, hears, phase, kind, hlease, hconf⟩ |
      ⟨hkeep | hlost, hconf⟩
    · -- a new lease: the ACK is one of the answers, and it was for this hardware address
      obtain ⟨r, hr, rfl, hsent, -⟩ := replies p now fresh hi
      have hmac : st.client.mac = mac := h.named.resolve_left (by simp [phase])
      refine ⟨r, hr, ?_, kind, hears.2.2.trans hmac, ?_⟩
      · rw [hsent, Station.take, if_pos hconf]
      · exact (Option.some.inj (hlease.symm.trans hl)).symm
    · -- the old lease: nothing was configured, so its time stays too
      obtain ⟨r, hr, hsent, rest⟩ := h.lease l (hkeep.symm.trans hl)
      refine ⟨r, hr, ?_, rest⟩
      rw [hsent, Station.take, if_neg (by simp [hconf])]
    · cases hlost.symm.trans hl
  · intro p hp
    obtain ⟨a, ha, hap⟩ := List.mem_filterMap.mp hp
    cases a with
    | send q =>
        cases hap
        exact hsend p ha
    | configure => cases hap
    | clearAddress => cases hap

/-- The invariant of a segment. -/
structure Segment.Sound {ι : Type u} (x : Segment ι) (macs : ι → Mac) : Prop where
  consistent : x.server.table.Consistent
  asked : ∀ p ∈ x.asked, ¬ p.GivesUp x.server.pool.serverId
  answered : ∀ r ∈ x.answered, r.Sound x.server x.now
  stations : ∀ i, (x.stations i).Sound x.server.pool.serverId (macs i) x.answered

/-- Time takes nothing from an answer. -/
theorem Answer.Sound.wait {r : Answer} {server : Server} {now : Nat} (h : r.Sound server now)
    (ms : Nat) : r.Sound server (now + ms) where
  serverId := h.serverId
  past := Nat.le_trans h.past (Nat.le_add_right now ms)
  leaseSecs := h.leaseSecs
  holds := fun kind live => h.holds kind (by omega)

/-- Packets that give nothing up take nothing from an answer. -/
theorem Answer.Sound.handle {r : Answer} {server : Server} {now : Nat} (h : r.Sound server now)
    (hs : server.table.Consistent) {p : Packet} (stay : ¬ p.GivesUp server.pool.serverId) :
    r.Sound (server.handle p now).1 now := by
  have hp := server.handle_pool p now
  have past := h.past
  constructor
  · rw [hp]
    exact h.serverId
  · exact past
  · rw [hp]
    exact h.leaseSecs
  · rw [hp]
    intro kind live
    exact (server.handle_outcome p now).holds hs (h.holds kind live) live (by omega) fun _ => stay

/-- What the server answers is sound when it is sent. -/
theorem Answer.sound_of_handle {server : Server} {p q : Packet} {now : Nat}
    (hq : (server.handle p now).2 = some q) :
    Answer.Sound ⟨q, now⟩ (server.handle p now).1 now := by
  have out := server.handle_outcome p now
  rw [hq] at out
  refine ⟨out.serverId, Nat.le_refl now, ?_, ?_⟩
  · intro kind
    obtain ⟨-, b, granted⟩ := out.granted (.inr kind)
    exact granted.leaseSecs
  · intro kind _
    obtain ⟨-, b, granted⟩ := out.granted (.inr kind)
    have holds := out.holds_of_ack kind
    rwa [← granted.chaddr] at holds

namespace Segment

variable {ι : Type u} {x : Segment ι} {macs : ι → Mac}

theorem sound_fresh (pool : Pool) (macs : ι → Mac) (maxAttempts retransmitMs : ι → Nat) :
    (fresh pool macs maxAttempts retransmitMs).Sound macs := by
  refine ⟨LeaseTable.Consistent.empty, fun p hp => absurd hp List.not_mem_nil,
    fun r hr => absurd hr List.not_mem_nil, ?_⟩
  intro i
  refine ⟨rfl, .inl rfl, .of_none rfl rfl _, ?_⟩
  intro l hl
  cases hl

/-- A client that relies on its lease no longer than the ACK behind it says is bound to the leased
address. -/
theorem Sound.bound (h : x.Sound macs) {i : ι} {l : Lease}
    (hl : (x.stations i).client.lease = some l)
    (live : x.now < (x.stations i).grantedAt + l.leaseSecs.toNat * 1000) :
    ∃ b, x.server.table.get? (macs i) = some b ∧ b.addr = l.addr := by
  obtain ⟨r, hr, hsent, kind, hmac, rfl⟩ := (h.stations i).lease l hl
  have sound := h.answered r hr
  have secs : (Client.leaseOf r.packet).leaseSecs = x.server.pool.advertisedSecs := by
    rw [Client.leaseOf, sound.leaseSecs kind, Option.getD_some]
  -- what the client was told is no longer than what the table keeps
  have cap := x.server.pool.advertisedSecs_le
  rw [secs, ← hsent] at live
  obtain ⟨b, hb, ha, -⟩ := sound.holds kind (by omega)
  rw [hmac] at hb
  exact ⟨b, hb, ha⟩

theorem Sound.serve (h : x.Sound macs) {p : Packet}
    (stay : ¬ p.GivesUp x.server.pool.serverId) : (x.serve p).Sound macs := by
  have hp := x.server.handle_pool p x.now
  refine ⟨Server.handle_consistent h.consistent p x.now, ?_, ?_, ?_⟩
  · simp only [Segment.serve, hp]
    exact h.asked
  · -- the answers so far keep their backing, and the new one has it from the start
    intro r hr
    rcases List.mem_append.mp hr with hr | hr
    · exact (h.answered r hr).handle h.consistent stay
    · obtain ⟨q, hq, rfl⟩ := Option.map_eq_some_iff.mp (Option.mem_toList.mp hr)
      exact Answer.sound_of_handle hq
  · intro i
    have hi := h.stations i
    simp only [Segment.serve, hp]
    refine ⟨hi.mac, hi.named, hi.loyal, ?_⟩
    intro l hl
    obtain ⟨r, hr, rest⟩ := hi.lease l hl
    exact ⟨r, List.mem_append_left _ hr, rest⟩

variable [DecidableEq ι]

theorem Sound.act (h : x.Sound macs) {i : ι} {input : Client.Input} {sentAt : Nat}
    (starts : ∀ ifindex m now fresh, input = .start ifindex m now fresh → m = macs i)
    (replies : ∀ p now fresh, input = .packet p now fresh →
      ∃ r ∈ x.answered, r.packet = p ∧ r.sentAt = sentAt) :
    (x.act i input sentAt).Sound macs := by
  obtain ⟨hst, hsend⟩ := (h.stations i).take starts fun p now fresh hi => by
    obtain ⟨r, hr, rfl, hs⟩ := replies p now fresh hi
    exact ⟨r, hr, rfl, hs, (h.answered r hr).serverId⟩
  refine ⟨h.consistent, ?_, h.answered, ?_⟩
  · intro p hp
    rcases List.mem_append.mp hp with hp | hp
    · exact h.asked p hp
    · exact hsend p hp
  · intro j
    by_cases hj : j = i
    · subst hj
      simpa [Segment.act] using hst
    · simpa [Segment.act, hj] using h.stations j

theorem Sound.step (h : x.Sound macs) (e : Event ι) : (x.step e).Sound macs := by
  -- inputs without a packet leave nothing to show of one
  have noStart : ∀ {i : ι} {input : Client.Input},
      (∀ p now fresh, input ≠ .packet p now fresh) →
      (∀ ifindex m now fresh, input = .start ifindex m now fresh → m = macs i) →
      (x.act i input x.now).Sound macs := fun hne starts =>
    h.act starts fun p now fresh hi => absurd hi (hne p now fresh)
  cases e with
  | wait ms => exact ⟨h.consistent, h.asked, fun r hr => (h.answered r hr).wait ms, h.stations⟩
  | start i ifindex fresh =>
      refine noStart (fun _ _ _ => nofun) ?_
      rintro _ _ _ _ ⟨⟩
      exact (h.stations i).mac
  | stop i => exact noStart (fun _ _ _ => nofun) (fun _ _ _ _ => nofun)
  | failure i => exact noStart (fun _ _ _ => nofun) (fun _ _ _ _ => nofun)
  | timeout i fresh => exact noStart (fun _ _ _ => nofun) (fun _ _ _ _ => nofun)
  | ask k =>
      rw [Segment.step]
      split
      · rename_i p hp
        exact h.serve (h.asked p (List.mem_of_getElem? hp))
      · exact h
  | answer i k fresh =>
      rw [Segment.step]
      split
      · rename_i r hr
        refine h.act (fun _ _ _ _ => nofun) ?_
        rintro _ _ _ ⟨⟩
        exact ⟨r, List.mem_of_getElem? hr, rfl, rfl⟩
      · exact h

/-- Every reachable segment is sound. -/
theorem Sound.run (h : x.Sound macs) (events : List (Event ι)) : (x.run events).Sound macs := by
  induction events generalizing x with
  | nil => exact h
  | cons e rest ih => exact ih (h.step e)

/-- **No two clients live on one address.** Any number of clients with different hardware
addresses and one server run in any interleaving over a network that may lose, delay, duplicate and
reorder everything, with any transaction ids. Two clients that both hold a lease, counted from
when the server sent the ACK behind it, have different addresses, and the server's table binds each
to exactly its address. -/
theorem no_address_shared (pool : Pool) (macs : ι → Mac) (distinct : Function.Injective macs)
    (maxAttempts retransmitMs : ι → Nat) (events : List (Event ι)) :
    let x := (fresh pool macs maxAttempts retransmitMs).run events
    ∀ i j l l', i ≠ j →
      (x.stations i).client.lease = some l → (x.stations j).client.lease = some l' →
      x.now < (x.stations i).grantedAt + l.leaseSecs.toNat * 1000 →
      x.now < (x.stations j).grantedAt + l'.leaseSecs.toNat * 1000 →
      l.addr ≠ l'.addr ∧
      (x.server.table.get? (macs i)).map Binding.addr = some l.addr ∧
      (x.server.table.get? (macs j)).map Binding.addr = some l'.addr := by
  intro x i j l l' hij hl hl' live live'
  have h : x.Sound macs := (sound_fresh pool macs maxAttempts retransmitMs).run events
  obtain ⟨b, hb, ha⟩ := h.bound hl live
  obtain ⟨b', hb', ha'⟩ := h.bound hl' live'
  refine ⟨?_, ?_, ?_⟩
  · intro heq
    have hm : macs i = macs j := h.consistent.unique hb hb' (by rw [ha, ha', heq])
    exact hij (distinct hm)
  · rw [hb, Option.map_some, ha]
  · rw [hb', Option.map_some, ha']

/-- Two clients that pick the same transaction ids: the second one hears all that the first is
told, the first one's ACK comes late and twice, and both rely on their leases a minute later. -/
theorem no_address_shared_between_two :
    let macs : Bool → Mac := fun i => ⟨2, 0, 0, 0, 0, if i then 11 else 10⟩
    let events : List (Event Bool) :=
      [.start false 3 7, .ask 0, .answer false 0 9, .ask 1, .start true 4 7, .answer true 0 8,
        .ask 2, .answer true 2 9, .answer true 1 10, .ask 3, .wait 500, .answer false 1 11,
        .answer true 3 11, .answer false 1 12, .wait 60000]
    let x := (fresh Server.hourPool macs (fun _ => 4) (fun _ => 3000)).run events
    let lease : Ipv4 → Lease := fun addr =>
      ⟨addr, .ofBytes 255 255 255 0, some (.ofBytes 10 0 0 1), [], 3600, .ofBytes 10 0 0 1⟩
    let first := lease (.ofBytes 10 0 0 2)
    let second := lease (.ofBytes 10 0 0 3)
    (x.stations false).client.lease = some first ∧
      (x.stations true).client.lease = some second ∧
      (x.stations false).grantedAt = 0 ∧ (x.stations true).grantedAt = 0 ∧ x.now = 60500 ∧
      first.addr ≠ second.addr ∧
      (x.server.table.get? (macs false)).map Binding.addr = some first.addr ∧
      (x.server.table.get? (macs true)).map Binding.addr = some second.addr := by
  intro macs events x lease first second
  have distinct : Function.Injective macs := by
    intro i j
    cases i <;> cases j <;> decide
  have apart := no_address_shared Server.hourPool macs distinct (fun _ => 4) (fun _ => 3000)
    events false true first second (by decide)
  have hfirst : (x.stations false).client.lease = some first := by decide
  have hsecond : (x.stations true).client.lease = some second := by decide
  refine ⟨hfirst, hsecond, by decide, by decide, by decide, ?_⟩
  exact apart (by decide) (by decide) (by decide) (by decide)

end Segment

end WifiStation.Dhcp
