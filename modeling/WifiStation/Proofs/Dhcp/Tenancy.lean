import WifiStation.Proofs.Dhcp.ClientStep
import WifiStation.Proofs.Dhcp.Codec
import WifiStation.Proofs.Dhcp.Exclusive

/-!
# WifiStation.Proofs.Dhcp.Tenancy

An address that is offered is the address that is leased, and it can be kept for ever.

Client and server speak over the wire here: what one of them sends is encoded, and the other hears a
datagram. Nothing is lost by that, since all they ever say to each other fits into a datagram
(`hear_encode`).

* The server's half is about its table. An OFFER comes with a binding that lasts a minute at least
  (`Outcome.of_discover`), no other client touches it (`run_keeps`), and a client that asks for the
  address it is bound to gets an ACK and a full lease (`Outcome.of_own_request`).
* The client's half is that it asks for what it was offered, at the server that offered it, and that
  it listens to the ACK, which is in its transaction.
* A `Tenancy` is both together once the address is leased. One renewal keeps it (`renew_leased`), so
  any number of renewals does (`run_leased`).
-/

namespace WifiStation.Dhcp

open WifiStation.Net

/-! ### On the wire -/

theorem receive_encode {p : Packet} (fits : p.options.Fits) : receive p.encode = .ok p := by
  have short : p.encode.length ≤ maxDatagram :=
    Nat.le_trans (Packet.length_encode_le fits) (by decide)
  rw [receive, List.take_of_length_le short, Packet.decode_encode fits]

theorem Packet.fits_ofClient (kind : Kind) (xid : UInt32) (mac : Mac) :
    (Packet.ofClient kind xid mac).options.Fits :=
  ⟨Nat.zero_le _, Nat.zero_le _, by simp [Packet.ofClient, Packet.wantedParameters]⟩

theorem Client.fits_requestPacket (c : Client) (addr serverId : Ipv4) :
    (c.requestPacket addr serverId).options.Fits :=
  ⟨Nat.zero_le _, Nat.zero_le _, by
    simp [Client.requestPacket, Packet.ofClient, Packet.wantedParameters]⟩

theorem Server.fits_grant (s : Server) (p : Packet) (kind : Kind) (addr : Ipv4) :
    (s.grant p kind addr).options.Fits :=
  ⟨by simp [Server.grant], Nat.zero_le _, Nat.zero_le _⟩

/-- The lease of an address as the server of a pool tells it. -/
def Pool.lease (pool : Pool) (addr : Ipv4) : Lease :=
  { addr
    subnetMask := pool.subnetMask
    gateway := some pool.gateway
    nameservers := []
    leaseSecs := pool.advertisedSecs
    serverId := pool.serverId }

/-- A lease of two seconds or more is to be renewed when half of it is left. -/
theorem Pool.renewalMs_lease_le {pool : Pool} (long : 2 ≤ pool.advertisedSecs.toNat)
    (addr : Ipv4) : 2 * Client.renewalMs (pool.lease addr) ≤ pool.leaseMs := by
  have told := pool.advertisedSecs_le
  have half : Client.renewalMs (pool.lease addr) = max (pool.advertisedSecs.toNat / 2) 1 * 1000 :=
    rfl
  rw [half, Nat.max_eq_left (by omega)]
  omega

namespace Server

/-- Hears a datagram and answers with one. -/
def hear (s : Server) (datagram : List UInt8) (now : Nat) : Server × Option (List UInt8) :=
  match receive datagram with
  | .ok p => ((s.handle p now).1, (s.handle p now).2.map Packet.encode)
  | .error _ => (s, none)

theorem hear_encode {p : Packet} (fits : p.options.Fits) (s : Server) (now : Nat) :
    s.hear p.encode now = ((s.handle p now).1, (s.handle p now).2.map Packet.encode) := by
  rw [hear, receive_encode fits]

/-! ### The server keeps its word -/

/-- A client that asks for the address it is bound to gets an ACK and is bound for a full lease. -/
theorem Outcome.of_own_request {s s' : Server} {p : Packet} {now : Nat} {r : Option Packet}
    (h : Outcome s p now s' r) (hs : s.table.Consistent) {b : Binding}
    (own : s.table.get? p.chaddr = some b) (live : now < b.expiresAt)
    (dir : p.direction = .request) (kind : p.options.kind = some .request)
    (stay : ¬ p.GivesUp s.pool.serverId) (want : p.wantedAddr = some b.addr) :
    r = some (s.grant p .ack b.addr) ∧
      s'.table.get? p.chaddr = some ⟨b.addr, now + s.pool.leaseMs⟩ := by
  have swept := sweep_keeps hs own live
  cases h with
  | ignored reply =>
      rw [dir] at reply
      cases reply
  | unasked dir strange =>
      rw [kind] at strange
      simp at strange
  | exhausted dir look =>
      rw [kind] at look
      cases look
  | refused dir ask here denied =>
      have mine := denied b.addr want
      simp [mayGrant, swept] at mine
  | released up => exact absurd up stay
  | renewed b' k expiresAt dir here own' term =>
      obtain rfl : b = b' := Option.some.inj (swept.symm.trans own')
      rcases term with ⟨look, -⟩ | ⟨-, rfl, -, rfl⟩
      · rw [kind] at look
        cases look
      · exact ⟨rfl, LeaseTable.get?_bind_self _ _ _ _⟩
  | assigned addr k expiresAt dir here new =>
      rw [new] at swept
      cases swept

/-- Other clients leave a binding as it is, however much they send before it ends. -/
theorem run_keeps {s : Server} (hs : s.table.Consistent) {m : Mac} {b : Binding}
    (hb : s.table.get? m = some b) (packets : List (Packet × Nat))
    (others : ∀ x ∈ packets, x.1.chaddr ≠ m) (early : ∀ x ∈ packets, x.2 < b.expiresAt) :
    (s.run packets).1.table.get? m = some b := by
  induction packets generalizing s with
  | nil => exact hb
  | cons x rest ih =>
      obtain ⟨p, now⟩ := x
      obtain ⟨other, others⟩ := List.forall_mem_cons.mp others
      obtain ⟨live, early⟩ := List.forall_mem_cons.mp early
      have out := handle_outcome s p now
      exact ih (out.consistent hs) (out.keeps_others hs hb live other) others early

end Server

namespace Client

/-- Hears a datagram. -/
def hear (c : Client) (datagram : List UInt8) (now : Nat) (fresh : UInt32) :
    Client × List Action :=
  match receive datagram with
  | .ok p => c.handlePacket p now fresh
  | .error _ => (c, [])

theorem hear_encode {p : Packet} (fits : p.options.Fits) (c : Client) (now : Nat)
    (fresh : UInt32) : c.hear p.encode now fresh = c.handlePacket p now fresh := by
  rw [hear, receive_encode fits]

/-! ### The client asks for what it is offered -/

/-- A client that looks for servers sends a DISCOVER of its own. -/
def Seeks (c : Client) : Prop :=
  c.phase = .discovering → c.outstanding = some (Packet.ofClient .discover c.xid c.mac)

theorem Change.seeks {c : Client} {input : Input} {r : Client × List Action}
    (h : Change c input r) (hc : c.Seeks) : r.1.Seeks := by
  cases h with
  | started | refused => exact fun _ => rfl
  | stopped | offered | leased | renewed => exact fun looks => nomatch looks
  | running | resting | failed | ignored | resent | gaveUp | waiting => exact hc

theorem run_seeks {c : Client} (hc : c.Seeks) (inputs : List Input) : (c.run inputs).1.Seeks :=
  runFrom_induction (motive := fun (c : Client) _ => c.Seeks)
    (fun c _ input h => (c.step_change input).seeks h) hc inputs

theorem seeks_new (maxAttempts retransmitMs : Nat) : (new maxAttempts retransmitMs).Seeks :=
  fun looks => nomatch looks

theorem handlePacket_offer (c : Client) (s : Server) (addr : Ipv4) (now : Nat) (fresh : UInt32)
    (phase : c.phase = .discovering) :
    c.handlePacket (s.grant (.ofClient .discover c.xid c.mac) .offer addr) now fresh =
      c.request addr s.pool.serverId now fresh := by
  rw [handlePacket, if_pos ⟨rfl, rfl, rfl⟩, phase]
  rfl

/-- The client configured with a lease, heard of at a time in a transaction. -/
def leased (c : Client) (lease : Lease) (xid : UInt32) (heard : Nat) : Client :=
  { c with
    phase := .configured
    xid
    outstanding := none
    attempts := 0
    deadline := some (heard + renewalMs lease)
    failed := false
    lease := some lease }

/-- The REQUEST for an address of a pool, in a transaction. -/
def poolRequest (c : Client) (pool : Pool) (addr : Ipv4) (xid : UInt32) : Packet :=
  { c with xid }.requestPacket addr pool.serverId

/-- How a client configures the lease of an address. -/
def poolConfigure (c : Client) (pool : Pool) (addr : Ipv4) : Action :=
  .configure c.ifindex addr pool.subnetMask.prefixLength (some pool.gateway)

/-- The ACK to the REQUEST of a client leaves it configured with the lease of its address. -/
theorem hear_ack (c : Client) (pool : Pool) (addr : Ipv4) (xid : UInt32) (asked heard : Nat)
    (fresh : UInt32) :
    (c.request addr pool.serverId asked xid).1.hear
        ((Server.ofPool pool).grant (c.poolRequest pool addr xid) .ack addr).encode heard fresh =
      (c.leased (pool.lease addr) xid heard, [c.poolConfigure pool addr]) := by
  rw [hear_encode (Server.fits_grant _ _ _ _), handlePacket, if_pos ⟨rfl, rfl, rfl⟩]
  rfl

/-- When a lease is due, the client asks for its address again. -/
theorem handleTimeout_leased (c : Client) (pool : Pool) (addr : Ipv4) (xid fresh : UInt32)
    {heard now : Nat} (due : heard + renewalMs (pool.lease addr) ≤ now) :
    (c.leased (pool.lease addr) xid heard).handleTimeout now fresh =
      (c.leased (pool.lease addr) xid heard).request addr pool.serverId now fresh := by
  have late : (c.leased (pool.lease addr) xid heard).deadline.any (· ≤ now) = true :=
    decide_eq_true due
  rw [handleTimeout, if_pos late]
  rfl

end Client

/-! ### Tenancies -/

/-- A server and a client that has an address from it. -/
structure Tenancy where
  server : Server
  client : Client

/-- The times and the traffic of one renewal. -/
structure Renewal where
  /-- When the client looks at its timer. -/
  due : Nat
  /-- The transaction it picks. -/
  xid : UInt32
  /-- What others send before the REQUEST gets to the server. -/
  others : List (Packet × Nat)
  /-- When the REQUEST gets to the server. -/
  asked : Nat
  /-- When the answer gets to the client. -/
  heard : Nat
  /-- The transaction that the client would pick next. -/
  next : UInt32

/-- The server of a pool binds a client to an address up to a time. -/
structure Server.Binds (s : Server) (pool : Pool) (mac : Mac) (addr : Ipv4) (ends : Nat) :
    Prop where
  pool : s.pool = pool
  consistent : s.table.Consistent
  bound : s.table.get? mac = some ⟨addr, ends⟩

/-- A REQUEST gets to the server before the client's binding ends, and others come no later. -/
structure Renewal.InTime (r : Renewal) (mac : Mac) (ends : Nat) : Prop where
  others : ∀ y ∈ r.others, y.1.chaddr ≠ mac
  early : ∀ y ∈ r.others, y.2 ≤ r.asked
  asked : r.asked < ends

/-- A DISCOVER that is answered leaves its client bound to the offered address. -/
theorem Server.hear_discover {s : Server} (hs : s.table.Consistent) {xid : UInt32} {mac : Mac}
    {now : Nat} {datagram : List UInt8} {offer : Packet}
    (answered : (s.hear (Packet.ofClient .discover xid mac).encode now).2 = some datagram)
    (read : receive datagram = .ok offer) :
    ∃ b : Binding, datagram = offer.encode ∧
      offer = s.grant (.ofClient .discover xid mac) .offer b.addr ∧
      now + offerHoldMs ≤ b.expiresAt ∧
      (s.hear (Packet.ofClient .discover xid mac).encode now).1.Binds s.pool mac b.addr
        b.expiresAt := by
  have wire := hear_encode (Packet.fits_ofClient .discover xid mac) s now
  rw [wire] at answered ⊢
  obtain ⟨r, answer, rfl⟩ := Option.map_eq_some_iff.mp answered
  have out := s.handle_outcome (.ofClient .discover xid mac) now
  have consistent := out.consistent hs
  have same := out.pool_eq
  generalize s.handle (.ofClient .discover xid mac) now = done at *
  rw [show done.2 = some r from answer] at out
  rcases out.of_discover rfl rfl with ⟨unanswered, -⟩ | ⟨b, offered, bound, held, -⟩
  · cases unanswered
  obtain rfl := Option.some.inj offered
  obtain rfl := Except.ok.inj ((receive_encode (s.fits_grant _ _ _)).symm.trans read)
  exact ⟨b, rfl, rfl, held, same, consistent, bound⟩

/-- The server's answer to a bound client, behind the traffic of others. -/
theorem Server.Binds.hear {s : Server} {pool : Pool} {c : Client} {addr : Ipv4} {ends : Nat}
    (h : s.Binds pool c.mac addr ends) {others : List (Packet × Nat)} {asked : Nat}
    (apart : ∀ y ∈ others, y.1.chaddr ≠ c.mac) (early : ∀ y ∈ others, y.2 ≤ asked)
    (live : asked < ends) (xid : UInt32) :
    let answered := (s.run others).1.hear (c.poolRequest pool addr xid).encode asked
    answered.1.Binds pool c.mac addr (asked + pool.leaseMs) ∧
      answered.2 = some ((ofPool pool).grant (c.poolRequest pool addr xid) .ack addr).encode := by
  intro answered
  obtain ⟨rfl, consistent, bound⟩ := h
  have same : (s.run others).1.pool = s.pool := s.run_pool others
  have consistent' : (s.run others).1.table.Consistent := run_consistent consistent others
  have bound' := run_keeps consistent bound others apart
    fun y hy => Nat.lt_of_le_of_lt (early y hy) live
  have stay : ¬ (c.poolRequest s.pool addr xid).GivesUp (s.run others).1.pool.serverId := by
    rw [same]
    simp [Packet.GivesUp, Client.poolRequest, Client.requestPacket, Packet.ofClient]
  have out := handle_outcome (s.run others).1 (c.poolRequest s.pool addr xid) asked
  obtain ⟨granted, bound''⟩ := out.of_own_request consistent' bound' live rfl rfl stay rfl
  have wire : answered = _ :=
    hear_encode (p := c.poolRequest s.pool addr xid) (Client.fits_requestPacket _ _ _) _ _
  rw [wire]
  refine ⟨⟨out.pool_eq.trans same, out.consistent consistent', ?_⟩, ?_⟩
  · rw [same] at bound''
    exact bound''
  · rw [granted, ← same]
    rfl

namespace Tenancy

/-- The client does what is due; what it sends is carried to the server, and the answer back. -/
def renew (x : Tenancy) (r : Renewal) : Tenancy × List Action :=
  let asking := x.client.handleTimeout r.due r.xid
  let server := (x.server.run r.others).1
  match asking.2.filterMap Action.packet? with
  | [request] =>
    let answered := server.hear request.encode r.asked
    match answered.2 with
    | some datagram =>
      let told := asking.1.hear datagram r.heard r.next
      (⟨answered.1, told.1⟩, asking.2 ++ told.2)
    | none => (⟨answered.1, asking.1⟩, asking.2)
  | _ => (⟨server, asking.1⟩, asking.2)

/-- A renewal in time: one REQUEST, one ACK, the same lease. -/
theorem renew_leased {s : Server} {pool : Pool} {c : Client} {addr : Ipv4} {ends heard : Nat}
    (h : s.Binds pool c.mac addr ends) (xid : UInt32) {r : Renewal}
    (due : heard + Client.renewalMs (pool.lease addr) ≤ r.due) (inTime : r.InTime c.mac ends) :
    ∃ s' : Server, s'.Binds pool c.mac addr (r.asked + pool.leaseMs) ∧
      renew ⟨s, c.leased (pool.lease addr) xid heard⟩ r =
        (⟨s', c.leased (pool.lease addr) r.xid r.heard⟩,
          [.send (c.poolRequest pool addr r.xid), c.poolConfigure pool addr]) := by
  obtain ⟨binds, answer⟩ := h.hear inTime.others inTime.early inTime.asked r.xid
  refine ⟨_, binds, ?_⟩
  -- the client asks as it did before, so the lease that it still has does not show
  have asking := c.handleTimeout_leased pool addr xid r.xid due
  have sent : ((c.leased (pool.lease addr) xid heard).request addr pool.serverId r.due
      r.xid).2.filterMap Action.packet? = [c.poolRequest pool addr r.xid] := rfl
  have told : ((c.leased (pool.lease addr) xid heard).request addr pool.serverId r.due
      r.xid).1.hear ((Server.ofPool pool).grant (c.poolRequest pool addr r.xid) .ack addr).encode
        r.heard r.next =
      (c.leased (pool.lease addr) r.xid r.heard, [c.poolConfigure pool addr]) :=
    (c.leased (pool.lease addr) xid heard).hear_ack pool addr r.xid r.due r.heard r.next
  simp only [renew, asking, sent, answer, told]
  rfl

/-- Renewals that come in time one after the other, each before the binding of the last one ends. -/
def InTime (pool : Pool) (addr : Ipv4) (mac : Mac) : Nat → Nat → List Renewal → Prop
  | _, _, [] => True
  | heard, ends, r :: rest =>
    heard + Client.renewalMs (pool.lease addr) ≤ r.due ∧ r.InTime mac ends ∧
      InTime pool addr mac r.heard (r.asked + pool.leaseMs) rest

/-- Renewals in time keep the lease, however many they are. -/
theorem run_leased {s : Server} {pool : Pool} {c : Client} {addr : Ipv4} {ends heard : Nat}
    (h : s.Binds pool c.mac addr ends) (xid : UInt32) (renewals : List Renewal)
    (inTime : InTime pool addr c.mac heard ends renewals) :
    ∃ (s' : Server) (xid' : UInt32) (heard' : Nat),
      runFrom renew ⟨s, c.leased (pool.lease addr) xid heard⟩ renewals =
        (⟨s', c.leased (pool.lease addr) xid' heard'⟩,
          renewals.flatMap fun r =>
            [.send (c.poolRequest pool addr r.xid), c.poolConfigure pool addr]) := by
  induction renewals generalizing s xid heard ends with
  | nil => exact ⟨s, xid, heard, rfl⟩
  | cons r rest ih =>
      obtain ⟨due, now, later⟩ := inTime
      obtain ⟨s₁, binds, step⟩ := renew_leased h xid due now
      obtain ⟨s', xid', heard', run⟩ := ih binds r.xid later
      refine ⟨s', xid', heard', ?_⟩
      rw [runFrom, step, run]
      rfl

/-- **Offers and leases are honoured.** A client looks for servers, its DISCOVER reaches the server
of a pool and is answered with an OFFER; the REQUEST that it then sends reaches the server within a
minute, and whatever other clients have sent in between. Then the server answers with an ACK of the
offered address, and the ACK leaves the client configured with the lease of this address as the pool
has it, by one configuration and nothing else. From then on any number of renewals, each asked for
when it is due and before the binding ends, give the same address again and clear nothing; a lease
that is told as two seconds or more is due with half of it left. Every packet goes over the wire. -/
theorem offer_honoured (pool : Pool) (before others : List (Packet × Nat))
    (maxAttempts retransmitMs : Nat) (inputs : List Client.Input) (discover offer : Packet)
    (datagram : List UInt8) (offered told asked heard : Nat) (xid next : UInt32)
    (seeks : ((Client.new maxAttempts retransmitMs).run inputs).1.phase = .discovering)
    (sends : ((Client.new maxAttempts retransmitMs).run inputs).1.outstanding = some discover)
    (answered :
      (((Server.ofPool pool).run before).1.hear discover.encode offered).2 = some datagram)
    (read : receive datagram = .ok offer)
    (apart : ∀ y ∈ others,
      y.1.chaddr ≠ ((Client.new maxAttempts retransmitMs).run inputs).1.mac ∧ y.2 ≤ asked)
    (soon : asked < offered + offerHoldMs) :
    let s := ((Server.ofPool pool).run before).1
    let c := ((Client.new maxAttempts retransmitMs).run inputs).1
    let asking := c.hear datagram told xid
    offer.options.kind = some .offer ∧
    ∃ request, asking.2 = [.send request] ∧
      let granting := ((s.hear discover.encode offered).1.run others).1.hear request.encode asked
      ∃ reply ack, granting.2 = some reply ∧ receive reply = .ok ack ∧
        ack.options.kind = some .ack ∧ ack.yiaddr = offer.yiaddr ∧
        let leased := asking.1.hear reply heard next
        leased.1.phase = .configured ∧
        leased.1.lease = some (pool.lease offer.yiaddr) ∧
        leased.2 = [.configure c.ifindex offer.yiaddr pool.subnetMask.prefixLength
          (some pool.gateway)] ∧
        leased.1.deadline = some (heard + Client.renewalMs (pool.lease offer.yiaddr)) ∧
        (2 ≤ pool.advertisedSecs.toNat →
          2 * Client.renewalMs (pool.lease offer.yiaddr) ≤ pool.leaseMs) ∧
        ∀ renewals, InTime pool offer.yiaddr c.mac heard (asked + pool.leaseMs) renewals →
          let kept := runFrom renew ⟨granting.1, leased.1⟩ renewals
          kept.1.client.phase = .configured ∧ kept.1.client.lease = leased.1.lease ∧
          kept.2 = renewals.flatMap fun r =>
            [.send (c.poolRequest pool offer.yiaddr r.xid), c.poolConfigure pool offer.yiaddr] := by
  intro s c asking
  have own : discover = Packet.ofClient .discover c.xid c.mac := by
    have mine := Client.run_seeks (Client.seeks_new maxAttempts retransmitMs) inputs seeks
    exact Option.some.inj (sends.symm.trans mine)
  subst own
  have pool_eq : s.pool = pool := Server.run_pool (Server.ofPool pool) before
  obtain ⟨b, rfl, rfl, held, binds⟩ :=
    Server.hear_discover (Server.reachable_consistent pool before) answered read
  change Server.Binds _ s.pool _ _ _ at binds
  rw [pool_eq] at binds
  -- the client asks for the address, and gets the ACK
  have asks : asking = c.request b.addr pool.serverId told xid := by
    rw [← pool_eq]
    exact (c.hear_encode (s.fits_grant _ _ _) told xid).trans
      (c.handlePacket_offer s b.addr told xid seeks)
  obtain ⟨granted, reply⟩ := binds.hear (fun y hy => (apart y hy).1) (fun y hy => (apart y hy).2)
    (Nat.lt_of_lt_of_le soon held) xid
  have leased := c.hear_ack pool b.addr xid told heard next
  rw [← asks] at leased
  refine ⟨rfl, c.poolRequest pool b.addr xid, by rw [asks]; rfl, ?_⟩
  intro granting
  refine ⟨_, _, reply, receive_encode (Server.fits_grant _ _ _ _), rfl, rfl, ?_⟩
  rw [leased]
  refine ⟨rfl, rfl, rfl, rfl, fun long => Pool.renewalMs_lease_le long b.addr, ?_⟩
  intro renewals inTime kept
  obtain ⟨s', xid', heard', run⟩ := run_leased granted xid renewals inTime
  have kept_eq : kept = _ := run
  rw [kept_eq]
  exact ⟨rfl, rfl, rfl⟩

/-- The REQUEST comes in the last millisecond of the offer, and the first renewal in the last of the
lease, with the pool exhausted for everybody else. -/
theorem offer_honoured_last_moment :
    let mac : Mac := ⟨2, 0, 0, 0, 0, 10⟩
    let others : List (Packet × Nat) := [(.ofClient .discover 9 ⟨2, 0, 0, 0, 0, 12⟩, 60000)]
    let s := ((Server.ofPool Server.hourPool).run
      [(.ofClient .discover 8 ⟨2, 0, 0, 0, 0, 11⟩, 0)]).1
    let c := ((Client.new 4 3000).run [.start 3 mac 0 7]).1
    let addr := Ipv4.ofBytes 10 0 0 3
    let offer := s.grant (.ofClient .discover 7 mac) .offer addr
    let offered := s.hear (Packet.ofClient .discover 7 mac).encode 500
    let renewals : List Renewal :=
      [⟨1860600, 20, others, 3660498, 3660600, 21⟩, ⟨5460600, 30, [], 5460700, 5460800, 31⟩]
    offered.2 = some offer.encode ∧ 60499 < 500 + offerHoldMs ∧
    let asking := c.hear offer.encode 600 10
    ∃ request reply, asking.2 = [.send request] ∧
      let granting := (offered.1.run others).1.hear request.encode 60499
      granting.2 = some reply ∧
      let leased := asking.1.hear reply 60600 11
      leased.1.lease = some (Server.hourPool.lease addr) ∧
      let kept := runFrom renew ⟨granting.1, leased.1⟩ renewals
      kept.1.client.lease = some (Server.hourPool.lease addr) ∧ .clearAddress 3 ∉ kept.2 := by
  intro mac others s c addr offer offered renewals
  have answer : (s.handle (.ofClient .discover 7 mac) 500).2 = some offer := by decide
  have answered : offered.2 = some offer.encode := by
    have wire : offered = _ := Server.hear_encode (Packet.fits_ofClient .discover 7 mac) s 500
    rw [wire, answer]
    rfl
  have apart : ∀ y ∈ others, y.1.chaddr ≠ c.mac ∧ y.2 ≤ 60499 := by decide
  obtain ⟨-, request, asks, reply, ack, replied, -, -, -, -, leased, -, -, -, keeps⟩ :=
    offer_honoured Server.hourPool [(.ofClient .discover 8 ⟨2, 0, 0, 0, 0, 11⟩, 0)] others 4 3000
      [.start 3 mac 0 7] (.ofClient .discover 7 mac) offer offer.encode 500 600 60499 60600 10 11
      (by decide) (by decide) answered (receive_encode (s.fits_grant _ _ _)) apart (by decide)
  refine ⟨answered, by decide, request, reply, asks, replied, leased, ?_⟩
  have inTime : InTime Server.hourPool addr c.mac 60600 (60499 + Server.hourPool.leaseMs)
      renewals :=
    ⟨by decide, ⟨by decide, by decide, by decide⟩, by decide,
      ⟨by decide, by decide, by decide⟩, trivial⟩
  obtain ⟨-, same, actions⟩ := keeps renewals inTime
  refine ⟨same.trans leased, ?_⟩
  intro cleared
  have never := actions ▸ cleared
  simp [renewals, Client.poolConfigure] at never

end Tenancy

end WifiStation.Dhcp
