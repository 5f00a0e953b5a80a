import WifiStation.Proofs.Dhcp.Server

/-!
# WifiStation.Proofs.Dhcp.Exclusive

An acknowledged lease belongs to its client alone until its time is over.

The invariant is `Server.Holds`: the table binds a client to an address at least until a deadline.
Before the deadline only the client itself can end it, by giving the address up
(`Outcome.holds`), and nothing that another client sends touches the binding at all
(`Outcome.keeps_others`). Because addresses are bound to one client at most, an answer that gives
the address goes to its holder (`Outcome.grant_iff`). All three need time to move forward, and the
second main ingredient is that a new ACK lasts at least as long as any earlier one.
-/

namespace WifiStation.Dhcp

open WifiStation.Net

/-- A lease is never said to last longer than it does. -/
theorem Pool.advertisedSecs_le (pool : Pool) :
    pool.advertisedSecs.toNat * 1000 ≤ pool.leaseMs := by
  have hcap : min pool.leaseSecs (2 ^ 32 - 1) < 2 ^ 32 := by omega
  rw [advertisedSecs, UInt32.toNat_ofNat', Nat.mod_eq_of_lt hcap, leaseMs]
  omega

namespace Server

/-- The table binds a client to an address at least until a deadline. -/
def Holds (s : Server) (client : Mac) (addr : Ipv4) (deadline : Nat) : Prop :=
  ∃ b, s.table.get? client = some b ∧ b.addr = addr ∧ deadline ≤ b.expiresAt

/-! ### One packet -/

/-- Bindings whose time is not over survive the end of those whose time is. -/
theorem sweep_keeps {s : Server} (hs : s.table.Consistent) {client : Mac} {b : Binding} {now : Nat}
    (hb : s.table.get? client = some b) (live : now < b.expiresAt) :
    (s.sweep now).table.get? client = some b :=
  (LeaseTable.get?_expire_eq_some_iff hs.toTimed now client b).mpr ⟨hb, live⟩

theorem get?_bindTo_of_ne (s : Server) {client m : Mac} (hne : client ≠ m) (addr : Ipv4)
    (expiresAt : Nat) : (s.bindTo client addr expiresAt).table.get? m = s.table.get? m := by
  rw [bindTo, LeaseTable.get?_bind, if_neg (Ne.symm hne)]

theorem get?_free_of_ne (s : Server) {client m : Mac} (hne : client ≠ m) :
    (s.free client).table.get? m = s.table.get? m := by
  rw [free, LeaseTable.get?_release, if_neg (Ne.symm hne)]

/-- A binding that is not over is untouched by what other clients send. -/
theorem Outcome.keeps_others {s s' : Server} {p : Packet} {now : Nat} {r : Option Packet}
    (h : Outcome s p now s' r) (hs : s.table.Consistent) {m : Mac} {b : Binding}
    (hb : s.table.get? m = some b) (live : now < b.expiresAt) (other : p.chaddr ≠ m) :
    s'.table.get? m = some b := by
  have hsweep := sweep_keeps hs hb live
  cases h with
  | ignored => exact hb
  | unasked => exact hsweep
  | exhausted => exact hsweep
  | refused => exact hsweep
  | released => rw [get?_free_of_ne _ other, hsweep]
  | renewed => rw [get?_bindTo_of_ne _ other, hsweep]
  | assigned => rw [get?_bindTo_of_ne _ other, hsweep]

/-- Before a deadline that no new lease would fall short of, a client loses its address only by
giving it up. -/
theorem Outcome.holds {s s' : Server} {p : Packet} {now : Nat} {r : Option Packet}
    (h : Outcome s p now s' r) (hs : s.table.Consistent) {m : Mac} {addr : Ipv4} {deadline : Nat}
    (hh : s.Holds m addr deadline) (live : now < deadline)
    (cap : deadline ≤ now + s.pool.leaseMs)
    (kept : p.chaddr = m → ¬ p.GivesUp s.pool.serverId) : s'.Holds m addr deadline := by
  obtain ⟨b, hb, ha, hd⟩ := hh
  by_cases hm : p.chaddr = m
  · subst hm
    have hsweep := sweep_keeps hs hb (Nat.lt_of_lt_of_le live hd)
    cases h with
    | ignored => exact ⟨b, hb, ha, hd⟩
    | unasked => exact ⟨b, hsweep, ha, hd⟩
    | exhausted => exact ⟨b, hsweep, ha, hd⟩
    | refused => exact ⟨b, hsweep, ha, hd⟩
    | released up => exact absurd up (kept rfl)
    | renewed b' kind expiresAt dir stay own term =>
        -- the address stays, and the new expiry is the later one or that of a full lease
        obtain rfl : b = b' := Option.some.inj (hsweep.symm.trans own)
        refine ⟨⟨b.addr, expiresAt⟩, LeaseTable.get?_bind_self _ _ _ _, ha, ?_⟩
        rcases term with ⟨-, -, rfl⟩ | ⟨-, -, -, rfl⟩
        · exact Nat.le_trans hd (Nat.le_max_left _ _)
        · exact cap
    | assigned a kind expiresAt dir stay new =>
        -- the client is not new
        rw [new] at hsweep
        cases hsweep
  · exact ⟨b, h.keeps_others hs hb (Nat.lt_of_lt_of_le live hd) hm, ha, hd⟩

/-- Answers that give a held address are the ones that go to its holder. -/
theorem Outcome.grant_iff {s s' : Server} {p r : Packet} {now : Nat}
    (h : Outcome s p now s' (some r)) (hs : s.table.Consistent) (hg : r.Grants) {m : Mac}
    {addr : Ipv4} {deadline : Nat} (hh : s.Holds m addr deadline) (live : now < deadline)
    (cap : deadline ≤ now + s.pool.leaseMs) : r.yiaddr = addr ↔ r.chaddr = m := by
  -- after the answer, the table binds both the client asked for and `m`
  obtain ⟨stay, b, granted⟩ := h.granted hg
  obtain ⟨b', hb', ha', -⟩ := h.holds hs hh live cap fun _ => stay
  rw [granted.yiaddr, granted.chaddr, ← ha']
  constructor
  · intro ha
    exact (h.consistent hs).unique granted.bound hb' ha
  · rintro rfl
    rw [Option.some.inj (granted.bound.symm.trans hb')]

/-- After an ACK the client holds the address for a full lease. -/
theorem Outcome.holds_of_ack {s s' : Server} {p ack : Packet} {now : Nat}
    (h : Outcome s p now s' (some ack)) (hk : ack.options.kind = some .ack) :
    s'.Holds p.chaddr ack.yiaddr (now + s'.pool.leaseMs) := by
  obtain ⟨-, b, granted⟩ := h.granted (.inr hk)
  exact ⟨b, granted.bound, granted.yiaddr.symm, Nat.le_of_eq (granted.full hk).symm⟩

/-! ### Runs -/

/-- What one packet keeps, a run keeps: a client that gives nothing up holds its address through
all packets before the deadline. -/
theorem run_holds {s : Server} (hs : s.table.Consistent) {m : Mac} {addr : Ipv4} {deadline : Nat}
    (hh : s.Holds m addr deadline) (packets : List (Packet × Nat))
    (live : ∀ x ∈ packets, x.2 < deadline)
    (cap : ∀ x ∈ packets, deadline ≤ x.2 + s.pool.leaseMs)
    (kept : ∀ x ∈ packets, x.1.chaddr = m → ¬ x.1.GivesUp s.pool.serverId) :
    (s.run packets).1.Holds m addr deadline := by
  induction packets generalizing s with
  | nil => exact hh
  | cons x rest ih =>
      obtain ⟨p, now⟩ := x
      obtain ⟨live₀, live⟩ := List.forall_mem_cons.mp live
      obtain ⟨cap₀, cap⟩ := List.forall_mem_cons.mp cap
      obtain ⟨kept₀, kept⟩ := List.forall_mem_cons.mp kept
      have out := handle_outcome s p now
      have hp : (s.handle p now).1.pool = s.pool := handle_pool s p now
      refine ih (out.consistent hs) (out.holds hs hh live₀ cap₀ kept₀) live ?_ ?_
      · rwa [hp]
      · rwa [hp]

/-- From an ACK on, and until its lease time is over, a client that gives nothing up holds the
address. -/
theorem holds_since_ack (pool : Pool) (before after : List (Packet × Nat)) {p ack : Packet} {t : Nat}
    (acked : (((ofPool pool).run before).1.handle p t).2 = some ack)
    (kind : ack.options.kind = some .ack) (since : ∀ x ∈ after, t ≤ x.2)
    (live : ∀ x ∈ after, x.2 < t + pool.leaseMs)
    (kept : ∀ x ∈ after, x.1.chaddr = p.chaddr → ¬ x.1.GivesUp pool.serverId) :
    ((ofPool pool).run (before ++ (p, t) :: after)).1.Holds p.chaddr ack.yiaddr
      (t + pool.leaseMs) := by
  have out := handle_outcome ((ofPool pool).run before).1 p t
  rw [acked] at out
  have hc := out.consistent (reachable_consistent pool before)
  have hp : (((ofPool pool).run before).1.handle p t).1.pool = pool :=
    (handle_pool _ p t).trans (run_pool (ofPool pool) before)
  have hack := out.holds_of_ack kind
  rw [hp] at hack
  rw [run_append]
  refine run_holds hc hack after live ?_ ?_
  · -- an ACK of any later packet lasts at least as long
    intro x hx
    rw [hp]
    exact Nat.add_le_add_right (since x hx) _
  · rwa [hp]

/-- **Exclusive leases.** After an ACK of an address to a client, and until the lease time is over
or the client gives the address up: every OFFER and ACK of this address goes to the client, every
OFFER and ACK to the client is of this address, and what other clients send leaves its binding as
it is. The lease time said in the ACK is no longer than that. -/
theorem exclusive_lease (pool : Pool) (before after : List (Packet × Nat)) (p q ack : Packet)
    (t now : Nat) (chron : Chronological (before ++ (p, t) :: (after ++ [(q, now)])))
    (acked : (((ofPool pool).run before).1.handle p t).2 = some ack)
    (kind : ack.options.kind = some .ack)
    (kept : ∀ x ∈ after, x.1.chaddr = p.chaddr → ¬ x.1.GivesUp pool.serverId)
    (live : now < t + pool.leaseMs) :
    let s := ((ofPool pool).run (before ++ (p, t) :: after)).1
    (∀ r, (s.handle q now).2 = some r → r.Grants →
      (r.yiaddr = ack.yiaddr ↔ r.chaddr = p.chaddr)) ∧
    (∃ b, s.table.get? p.chaddr = some b ∧ b.addr = ack.yiaddr ∧ t + pool.leaseMs ≤ b.expiresAt ∧
      (q.chaddr ≠ p.chaddr → (s.handle q now).1.table.get? p.chaddr = some b)) ∧
    ∃ secs, ack.options.leaseSecs = some secs ∧ secs.toNat * 1000 ≤ pool.leaseMs := by
  intro s
  -- the times of all packets since the ACK lie between it and now
  obtain ⟨-, hsince, -⟩ := List.pairwise_append.mp chron
  obtain ⟨hfrom, hsince⟩ := List.pairwise_cons.mp hsince
  have hto : ∀ x ∈ after, x.2 ≤ now := fun x hx =>
    (List.pairwise_append.mp hsince).2.2 x hx (q, now) (List.mem_singleton.mpr rfl)
  have hnow : t ≤ now := hfrom (q, now) (List.mem_append_right _ (List.mem_singleton.mpr rfl))
  have hh : s.Holds p.chaddr ack.yiaddr (t + pool.leaseMs) :=
    holds_since_ack pool before after acked kind
      (fun x hx => hfrom x (List.mem_append_left _ hx))
      (fun x hx => Nat.lt_of_le_of_lt (hto x hx) live) kept
  have hs : s.table.Consistent := reachable_consistent pool _
  have hp : s.pool = pool := run_pool _ _
  have out := handle_outcome s q now
  refine ⟨?_, ?_, ?_⟩
  · intro r hr hg
    rw [hr] at out
    refine out.grant_iff hs hg hh live ?_
    rw [hp]
    exact Nat.add_le_add_right hnow _
  · obtain ⟨b, hb, ha, hd⟩ := hh
    exact ⟨b, hb, ha, hd, out.keeps_others hs hb (Nat.lt_of_lt_of_le live hd)⟩
  · -- the ACK itself says the lease time
    have ack_out := handle_outcome ((ofPool pool).run before).1 p t
    rw [acked] at ack_out
    obtain ⟨-, b, granted⟩ := ack_out.granted (.inr kind)
    refine ⟨pool.advertisedSecs, ?_, pool.advertisedSecs_le⟩
    rw [granted.leaseSecs, handle_pool, run_pool]
    rfl

/-- A client that asks for an address it has not been offered. -/
def directRequest (xid : UInt32) (mac : Mac) (addr : Ipv4) : Packet :=
  { Packet.ofClient .request xid mac with ciaddr := addr }

/-- The last millisecond of a lease: the other client, which was refused the address while it was
leased, is offered the second one. -/
theorem exclusive_lease_last_moment :
    let first : Mac := ⟨2, 0, 0, 0, 0, 10⟩
    let second : Mac := ⟨2, 0, 0, 0, 0, 11⟩
    let addr := Ipv4.ofBytes 10 0 0 2
    let s := ((ofPool hourPool).run ([(Packet.ofClient .discover 1 first, 0)] ++
      (directRequest 2 first addr, 5) :: [(directRequest 3 second addr, 7)])).1
    (s.handle (Packet.ofClient .discover 4 second) 3600004).2 =
        some (s.grant (Packet.ofClient .discover 4 second) .offer (.ofBytes 10 0 0 3)) ∧
      ∀ r, (s.handle (Packet.ofClient .discover 4 second) 3600004).2 = some r → r.Grants →
        (r.yiaddr = addr ↔ r.chaddr = first) := by
  intro first second addr s
  refine ⟨by decide, ?_⟩
  exact (exclusive_lease hourPool [(Packet.ofClient .discover 1 first, 0)]
    [(directRequest 3 second addr, 7)] (directRequest 2 first addr)
    (Packet.ofClient .discover 4 second)
    ((ofPool hourPool).grant (directRequest 2 first addr) .ack addr) 5 3600004
    (by decide) (by decide) rfl (by decide) (by decide)).1

end Server

end WifiStation.Dhcp
