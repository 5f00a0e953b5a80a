import WifiStation.Dhcp.Server
import WifiStation.Proofs.Dhcp.LeaseTable

/-!
# WifiStation.Proofs.Dhcp.Server

What one packet can do to a server, and what every run of a server preserves.

A packet has one of seven outcomes (`Server.Outcome`), and `handle_outcome` is the only place where
the code of the server is opened: everything below is read off the outcomes. Two of them bind an
address. In one it is the client's own and in the other nobody holds it, which is exactly what
`LeaseTable.Consistent.bind` asks for, so the indexes of the table agree along every run
(`run_consistent`). For a pool that ends within the address space, every bound address lies in the
pool and there are no more bindings than addresses (`reachable_table`).
-/

namespace WifiStation.Dhcp

open WifiStation.Net

namespace Packet

/-- A client gives its address up with RELEASE, DECLINE, or a REQUEST that names another server. -/
def GivesUp (p : Packet) (serverId : Ipv4) : Prop :=
  p.direction = .request ∧
    (p.options.kind = some .release ∨ p.options.kind = some .decline ∨
      p.options.kind = some .request ∧ p.options.serverId.any (· ≠ serverId) = true)

instance (p : Packet) (serverId : Ipv4) : Decidable (p.GivesUp serverId) :=
  inferInstanceAs (Decidable (_ ∧ _))

/-- An OFFER or an ACK: an answer that gives an address. -/
def Grants (p : Packet) : Prop := p.options.kind = some .offer ∨ p.options.kind = some .ack

instance (p : Packet) : Decidable p.Grants := inferInstanceAs (Decidable (_ ∨ _))

end Packet

/-- Packets with the times they are handled at, in order of time. -/
def Chronological (packets : List (Packet × Nat)) : Prop := packets.Pairwise fun x y => x.2 ≤ y.2

instance (packets : List (Packet × Nat)) : Decidable (Chronological packets) :=
  inferInstanceAs (Decidable (List.Pairwise _ _))

namespace Server

/-! ### The outcomes of a packet -/

/-- The server once the bindings whose time is over have ended. -/
def sweep (s : Server) (now : Nat) : Server := { s with table := (s.table.expire now).1 }

/-- The server once a client has been bound to an address. -/
def bindTo (s : Server) (client : Mac) (addr : Ipv4) (expiresAt : Nat) : Server :=
  { s with table := s.table.bind client addr expiresAt }

/-- The server once the binding of a client has ended. -/
def free (s : Server) (client : Mac) : Server := { s with table := (s.table.release client).1 }

/-- What can come of a packet: the next state and the answer. -/
inductive Outcome (s : Server) (p : Packet) (now : Nat) : Server → Option Packet → Prop
  /-- It is no request and changes nothing, not even what is over. -/
  | ignored (dir : p.direction = .reply) : Outcome s p now s none
  /-- It is of a kind that no server answers. -/
  | unasked (dir : p.direction = .request)
      (kind : p.options.kind ∉ [some .discover, some .request, some .release, some .decline]) :
      Outcome s p now (s.sweep now) none
  /-- A new client looks for a server that has no free address. -/
  | exhausted (dir : p.direction = .request) (kind : p.options.kind = some .discover)
      (new : (s.sweep now).table.get? p.chaddr = none)
      (full : (s.sweep now).table.firstFree s.pool = none) :
      Outcome s p now (s.sweep now) none
  /-- A client asks for what it may not have. -/
  | refused (dir : p.direction = .request) (kind : p.options.kind = some .request)
      (stay : ¬ p.GivesUp s.pool.serverId)
      (denied : ∀ addr, p.wantedAddr = some addr →
        (s.sweep now).mayGrant p.chaddr addr = false) :
      Outcome s p now (s.sweep now) (some (s.refuse p))
  /-- A client gives its address up. -/
  | released (up : p.GivesUp s.pool.serverId) :
      Outcome s p now ((s.sweep now).free p.chaddr) none
  /-- A client gets the address it has, for an OFFER or an ACK. -/
  | renewed (b : Binding) (kind : Kind) (expiresAt : Nat) (dir : p.direction = .request)
      (stay : ¬ p.GivesUp s.pool.serverId)
      (own : (s.sweep now).table.get? p.chaddr = some b)
      (term : p.options.kind = some .discover ∧ kind = .offer ∧
          expiresAt = max b.expiresAt (now + offerHoldMs) ∨
        p.options.kind = some .request ∧ kind = .ack ∧ p.wantedAddr = some b.addr ∧
          expiresAt = now + s.pool.leaseMs) :
      Outcome s p now ((s.sweep now).bindTo p.chaddr b.addr expiresAt)
        (some (s.grant p kind b.addr))
  /-- A new client gets an address of the pool that nobody holds. -/
  | assigned (addr : Ipv4) (kind : Kind) (expiresAt : Nat) (dir : p.direction = .request)
      (stay : ¬ p.GivesUp s.pool.serverId)
      (new : (s.sweep now).table.get? p.chaddr = none)
      (unheld : (s.sweep now).table.holder addr = none)
      (term : p.options.kind = some .discover ∧ kind = .offer ∧
          (s.sweep now).table.firstFree s.pool = some addr ∧ expiresAt = now + offerHoldMs ∨
        p.options.kind = some .request ∧ kind = .ack ∧ p.wantedAddr = some addr ∧
          s.pool.contains addr = true ∧ expiresAt = now + s.pool.leaseMs) :
      Outcome s p now ((s.sweep now).bindTo p.chaddr addr expiresAt)
        (some (s.grant p kind addr))

theorem offer_outcome {s : Server} {p : Packet} {now : Nat} (dir : p.direction = .request)
    (kind : p.options.kind = some .discover) :
    Outcome s p now ((s.sweep now).offer p now).1 ((s.sweep now).offer p now).2 := by
  have stay : ¬ p.GivesUp s.pool.serverId := by simp [Packet.GivesUp, kind]
  rw [offer, proposal]
  cases hb : (s.sweep now).table.get? p.chaddr with
  | some b => exact .renewed b .offer _ dir stay hb (.inl ⟨kind, rfl, rfl⟩)
  | none =>
      cases hf : (s.sweep now).table.firstFree (s.sweep now).pool with
      | none => exact .exhausted dir kind hb hf
      | some addr =>
          have hfree := (LeaseTable.of_firstFree hf).2
          exact .assigned addr .offer _ dir stay hb hfree (.inl ⟨kind, rfl, hf, rfl⟩)

theorem acknowledge_outcome {s : Server} {p : Packet} {now : Nat} (dir : p.direction = .request)
    (kind : p.options.kind = some .request) :
    Outcome s p now ((s.sweep now).acknowledge p now).1 ((s.sweep now).acknowledge p now).2 := by
  rw [acknowledge]
  split
  · rename_i hother
    exact .released ⟨dir, .inr (.inr ⟨kind, hother⟩)⟩
  · rename_i hhere
    have stay : ¬ p.GivesUp s.pool.serverId := by
      rintro ⟨-, hk | hk | ⟨-, hother⟩⟩
      · rw [kind] at hk
        cases hk
      · rw [kind] at hk
        cases hk
      · exact hhere hother
    cases hw : p.wantedAddr.filter ((s.sweep now).mayGrant p.chaddr) with
    | none =>
        refine .refused dir kind stay ?_
        intro addr ha
        have := Option.filter_eq_none_iff.mp hw addr ha
        simpa using this
    | some addr =>
        -- the address is the client's own, or the client is new and the address is free
        obtain ⟨hwant, hmay⟩ := Option.filter_eq_some_iff.mp hw
        rw [mayGrant] at hmay
        cases hb : (s.sweep now).table.get? p.chaddr with
        | some b =>
            rw [hb] at hmay
            have ha : addr = b.addr := by simpa using hmay
            subst ha
            exact .renewed b .ack _ dir stay hb (.inr ⟨kind, rfl, hwant, rfl⟩)
        | none =>
            rw [hb] at hmay
            obtain ⟨hc, hfree⟩ := Bool.and_eq_true_iff.mp hmay
            exact .assigned addr .ack _ dir stay hb (Option.isNone_iff_eq_none.mp hfree)
              (.inr ⟨kind, rfl, hwant, hc, rfl⟩)

/-- Every packet has one of the outcomes. -/
theorem handle_outcome (s : Server) (p : Packet) (now : Nat) :
    Outcome s p now (s.handle p now).1 (s.handle p now).2 := by
  rw [handle]
  cases hd : p.direction with
  | reply => exact .ignored hd
  | request =>
      cases hk : p.options.kind with
      | none => exact .unasked hd (by simp [hk])
      | some k =>
          cases k with
          | discover => exact offer_outcome hd hk
          | request => exact acknowledge_outcome hd hk
          | release => exact .released ⟨hd, .inl hk⟩
          | decline => exact .released ⟨hd, .inr (.inl hk)⟩
          | offer => exact .unasked hd (by simp [hk])
          | ack => exact .unasked hd (by simp [hk])
          | nak => exact .unasked hd (by simp [hk])
          | inform => exact .unasked hd (by simp [hk])

/-! ### What an answer says -/

@[simp] theorem refuse_kind (s : Server) (p : Packet) :
    (s.refuse p).options.kind = some .nak := rfl

theorem not_grants_refuse (s : Server) (p : Packet) : ¬ (s.refuse p).Grants := by
  simp [Packet.Grants]

/-- What an answer that gives an address says is what the table then has: it goes to the client
that asked, names the address that this client is bound to, and an ACK comes with a full lease. -/
structure Granted (s : Server) (p : Packet) (now : Nat) (r : Packet) (b : Binding) : Prop where
  bound : s.table.get? p.chaddr = some b
  yiaddr : r.yiaddr = b.addr
  chaddr : r.chaddr = p.chaddr
  leaseSecs : r.options.leaseSecs = some s.pool.advertisedSecs
  full : r.options.kind = some .ack → b.expiresAt = now + s.pool.leaseMs

theorem Outcome.granted {s s' : Server} {p r : Packet} {now : Nat}
    (h : Outcome s p now s' (some r)) (hg : r.Grants) :
    ¬ p.GivesUp s.pool.serverId ∧ ∃ b, s'.Granted p now r b := by
  cases h with
  | refused => exact absurd hg (not_grants_refuse s p)
  | renewed b kind expiresAt dir stay own term =>
      refine ⟨stay, ⟨b.addr, expiresAt⟩, LeaseTable.get?_bind_self _ _ _ _, rfl, rfl, rfl, ?_⟩
      intro hk
      rcases term with ⟨-, rfl, -⟩ | ⟨-, -, -, he⟩
      · cases hk
      · exact he
  | assigned addr kind expiresAt dir stay new unheld term =>
      refine ⟨stay, ⟨addr, expiresAt⟩, LeaseTable.get?_bind_self _ _ _ _, rfl, rfl, rfl, ?_⟩
      intro hk
      rcases term with ⟨-, rfl, -⟩ | ⟨-, -, -, -, he⟩
      · cases hk
      · exact he

/-- An answer that gives an address says the mask of the pool with it. -/
theorem Outcome.subnetMask {s s' : Server} {p r : Packet} {now : Nat}
    (h : Outcome s p now s' (some r)) (hg : r.Grants) :
    r.options.subnetMask = some s.pool.subnetMask := by
  cases h with
  | refused => exact absurd hg (not_grants_refuse s p)
  | renewed => rfl
  | assigned => rfl

/-- A DISCOVER of a new client is not answered if no address of the pool is free. Every other one is
answered with an OFFER, of the address that the client has or else of the first free one, and the
client is then bound to it for a minute at least. -/
theorem Outcome.of_discover {s s' : Server} {p : Packet} {now : Nat} {r : Option Packet}
    (h : Outcome s p now s' r) (dir : p.direction = .request)
    (kind : p.options.kind = some .discover) :
    (r = none ∧ (s.sweep now).table.get? p.chaddr = none ∧
      (s.sweep now).table.firstFree s.pool = none) ∨
    ∃ b, r = some (s.grant p .offer b.addr) ∧ s'.table.get? p.chaddr = some b ∧
      now + offerHoldMs ≤ b.expiresAt ∧
      ((∃ own, (s.sweep now).table.get? p.chaddr = some own ∧ b.addr = own.addr) ∨
        (s.sweep now).table.get? p.chaddr = none ∧
          (s.sweep now).table.firstFree s.pool = some b.addr) := by
  cases h with
  | ignored reply =>
      rw [dir] at reply
      cases reply
  | unasked _ strange => simp [kind] at strange
  | exhausted _ _ new full => exact .inl ⟨rfl, new, full⟩
  | refused _ ask =>
      rw [kind] at ask
      cases ask
  | released up =>
      rcases up.2 with ask | ask | ⟨ask, -⟩ <;> (rw [kind] at ask; cases ask)
  | renewed b k expiresAt _ stay own term =>
      rcases term with ⟨-, rfl, rfl⟩ | ⟨ask, -⟩
      · exact .inr ⟨⟨b.addr, max b.expiresAt (now + offerHoldMs)⟩, rfl,
          LeaseTable.get?_bind_self _ _ _ _, Nat.le_max_right _ _, .inl ⟨b, own, rfl⟩⟩
      · rw [kind] at ask
        cases ask
  | assigned addr k expiresAt _ stay new unheld term =>
      rcases term with ⟨-, rfl, first, rfl⟩ | ⟨ask, -⟩
      · exact .inr ⟨⟨addr, now + offerHoldMs⟩, rfl, LeaseTable.get?_bind_self _ _ _ _,
          Nat.le_refl _, .inr ⟨new, first⟩⟩
      · rw [kind] at ask
        cases ask

/-- A client that has no address and asks for a free one of the pool gets it. -/
theorem Outcome.of_free_request {s s' : Server} {p : Packet} {now : Nat} {r : Option Packet}
    (h : Outcome s p now s' r) (dir : p.direction = .request)
    (kind : p.options.kind = some .request) (stay : ¬ p.GivesUp s.pool.serverId) {addr : Ipv4}
    (want : p.wantedAddr = some addr) (pooled : s.pool.contains addr = true)
    (new : (s.sweep now).table.get? p.chaddr = none)
    (unheld : (s.sweep now).table.holder addr = none) : r = some (s.grant p .ack addr) := by
  cases h with
  | ignored reply =>
      rw [dir] at reply
      cases reply
  | unasked _ strange => simp [kind] at strange
  | exhausted _ look =>
      rw [kind] at look
      cases look
  | refused _ _ _ denied =>
      have free : (s.sweep now).mayGrant p.chaddr addr = true := by
        rw [mayGrant, new]
        exact Bool.and_eq_true_iff.mpr ⟨pooled, by rw [unheld]; rfl⟩
      rw [denied addr want] at free
      cases free
  | released up => exact absurd up stay
  | renewed b _ _ _ _ own =>
      rw [new] at own
      cases own
  | assigned a _ _ _ _ _ _ term =>
      rcases term with ⟨look, -⟩ | ⟨-, rfl, want', -⟩
      · rw [kind] at look
        cases look
      · rw [Option.some.inj (want.symm.trans want')]

/-! ### Runs -/

theorem run_append (s : Server) (xs ys : List (Packet × Nat)) :
    (s.run (xs ++ ys)).1 = ((s.run xs).1.run ys).1 := by
  induction xs generalizing s with
  | nil => rfl
  | cons x xs ih =>
      obtain ⟨p, now⟩ := x
      exact ih (s.handle p now).1

/-- Lift a property that every packet preserves to whole runs. -/
theorem run_induction {motive : Server → Prop} (s : Server) (packets : List (Packet × Nat))
    (hs : motive s) (step : ∀ s p now, motive s → motive (s.handle p now).1) :
    motive (s.run packets).1 := by
  induction packets generalizing s with
  | nil => exact hs
  | cons x rest ih =>
      obtain ⟨p, now⟩ := x
      exact ih (s.handle p now).1 (step s p now hs)

theorem Outcome.pool_eq {s s' : Server} {p : Packet} {now : Nat} {r : Option Packet}
    (h : Outcome s p now s' r) : s'.pool = s.pool := by
  cases h <;> rfl

theorem handle_pool (s : Server) (p : Packet) (now : Nat) : (s.handle p now).1.pool = s.pool :=
  (handle_outcome s p now).pool_eq

theorem run_pool (s : Server) (packets : List (Packet × Nat)) : (s.run packets).1.pool = s.pool :=
  run_induction (motive := fun s' => s'.pool = s.pool) s packets rfl
    fun s' p now h => (handle_pool s' p now).trans h

/-- Every answer names the server. -/
theorem Outcome.serverId {s s' : Server} {p r : Packet} {now : Nat}
    (h : Outcome s p now s' (some r)) : r.options.serverId = some s'.pool.serverId := by
  cases h <;> rfl

/-! ### The indexes agree -/

/-- A packet keeps the indexes in agreement: what it binds is the client's own or held by nobody. -/
theorem Outcome.consistent {s s' : Server} {p : Packet} {now : Nat} {r : Option Packet}
    (h : Outcome s p now s' r) (hs : s.table.Consistent) : s'.table.Consistent := by
  have hsweep : (s.sweep now).table.Consistent := hs.expire now
  cases h with
  | ignored => exact hs
  | unasked => exact hsweep
  | exhausted => exact hsweep
  | refused => exact hsweep
  | released => exact hsweep.release p.chaddr
  | renewed b kind expiresAt dir stay own term =>
      -- whoever holds the client's own address is the client
      refine hsweep.bind expiresAt ?_
      intro m hm
      obtain ⟨b', hb', ha⟩ := (hsweep.holder_iff b.addr m).mp hm
      exact hsweep.unique hb' own ha
  | assigned addr kind expiresAt dir stay new unheld term =>
      refine hsweep.bind expiresAt ?_
      intro m hm
      rw [unheld] at hm
      cases hm

theorem handle_consistent {s : Server} (hs : s.table.Consistent) (p : Packet) (now : Nat) :
    (s.handle p now).1.table.Consistent :=
  (handle_outcome s p now).consistent hs

theorem run_consistent {s : Server} (hs : s.table.Consistent) (packets : List (Packet × Nat)) :
    (s.run packets).1.table.Consistent :=
  run_induction (motive := fun s => s.table.Consistent) s packets hs
    fun _ p now h => handle_consistent h p now

theorem reachable_consistent (pool : Pool) (packets : List (Packet × Nat)) :
    ((ofPool pool).run packets).1.table.Consistent :=
  run_consistent LeaseTable.Consistent.empty packets

/-! ### Bindings lie in the pool -/

/-- Every bound address lies in the pool. -/
def Within (s : Server) : Prop :=
  ∀ client b, s.table.get? client = some b → s.pool.contains b.addr = true

theorem Within.sweep {s : Server} (hs : s.table.Consistent) (h : s.Within) (now : Nat) :
    (s.sweep now).Within := by
  intro client b hb
  exact h client b ((LeaseTable.get?_expire_eq_some_iff hs.toTimed now client b).mp hb).1

theorem Within.free {s : Server} (h : s.Within) (client : Mac) : (s.free client).Within := by
  intro m b hb
  rw [Server.free, LeaseTable.get?_release] at hb
  split at hb
  · cases hb
  · exact h m b hb

theorem Within.bindTo {s : Server} (h : s.Within) {client : Mac} {addr : Ipv4} {expiresAt : Nat}
    (ha : s.pool.contains addr = true) : (s.bindTo client addr expiresAt).Within := by
  intro m b hb
  rw [Server.bindTo, LeaseTable.get?_bind] at hb
  split at hb
  · cases hb
    exact ha
  · exact h m b hb

/-- A packet binds addresses of the pool only, if the pool ends within the address space. -/
theorem Outcome.within {s s' : Server} {p : Packet} {now : Nat} {r : Option Packet}
    (h : Outcome s p now s' r) (fits : s.pool.start.toNat + s.pool.len ≤ 2 ^ 32)
    (hs : s.table.Consistent) (hw : s.Within) : s'.Within := by
  have hsweep : (s.sweep now).Within := hw.sweep hs now
  cases h with
  | ignored => exact hw
  | unasked => exact hsweep
  | exhausted => exact hsweep
  | refused => exact hsweep
  | released => exact hsweep.free p.chaddr
  | renewed b kind expiresAt dir stay own term => exact hsweep.bindTo (hsweep p.chaddr b own)
  | assigned addr kind expiresAt dir stay new unheld term =>
      -- an offered address comes from the list of the pool, a requested one has been looked up
      refine hsweep.bindTo ?_
      rcases term with ⟨-, -, hf, -⟩ | ⟨-, -, -, hc, -⟩
      · exact (Pool.mem_addresses_iff fits addr).mp (LeaseTable.of_firstFree hf).1
      · exact hc

theorem reachable_within {pool : Pool} (fits : pool.start.toNat + pool.len ≤ 2 ^ 32)
    (packets : List (Packet × Nat)) : ((ofPool pool).run packets).1.Within := by
  have key := run_induction
    (motive := fun s => s.pool = pool ∧ s.table.Consistent ∧ s.Within) (ofPool pool) packets
    ⟨rfl, LeaseTable.Consistent.empty, fun client b hb => by cases hb⟩ ?_
  · exact key.2.2
  · rintro s p now ⟨hp, hs, hw⟩
    have out := handle_outcome s p now
    exact ⟨out.pool_eq.trans hp, out.consistent hs, out.within (by rw [hp]; exact fits) hs hw⟩

/-- Every address that a server gives lies in its pool. -/
theorem grant_within {pool : Pool} (fits : pool.start.toNat + pool.len ≤ 2 ^ 32)
    (before : List (Packet × Nat)) {p r : Packet} {now : Nat}
    (answer : (((ofPool pool).run before).1.handle p now).2 = some r) (hg : r.Grants) :
    pool.contains r.yiaddr = true := by
  have out := handle_outcome ((ofPool pool).run before).1 p now
  rw [answer] at out
  obtain ⟨-, b, granted⟩ := out.granted hg
  -- the address is bound once the packet has been handled
  have within := reachable_within fits (before ++ [(p, now)])
  rw [run_append] at within
  have := within p.chaddr b granted.bound
  rwa [run_pool, run_pool, ← granted.yiaddr] at this

/-- The table of every reachable server: its indexes describe one set of bindings, no address is
bound twice, every bound address lies in the pool, and the pool bounds their number. Times may come
in any order. -/
theorem reachable_table (pool : Pool) (fits : pool.start.toNat + pool.len ≤ 2 ^ 32)
    (packets : List (Packet × Nat)) :
    let t := ((ofPool pool).run packets).1.table
    (∀ client addr, t.byAddr.get? addr = some client ↔
      ∃ b, t.byClient.get? client = some b ∧ b.addr = addr) ∧
    (∀ client time, (time, client) ∈ t.expiry ↔
      ∃ b, t.byClient.get? client = some b ∧ b.expiresAt = time) ∧
    t.expiry.Nodup ∧
    (∀ m m' b b', t.byClient.get? m = some b → t.byClient.get? m' = some b' →
      b.addr = b'.addr → m = m') ∧
    (∀ client b, t.byClient.get? client = some b → pool.contains b.addr = true) ∧
    t.size ≤ pool.len := by
  intro t
  have hc : t.Consistent := reachable_consistent pool packets
  have hw : ∀ client b, t.get? client = some b → pool.contains b.addr = true := by
    have := reachable_within fits packets
    rwa [Within, run_pool] at this
  refine ⟨fun client addr => hc.holder_iff addr client, fun client time => hc.mem_expiry time client,
    hc.ascending.nodup, fun m m' b b' hb hb' ha => hc.unique hb hb' ha, hw, ?_⟩
  -- the bound addresses are pairwise different and all in the pool's list
  rw [← Pool.length_addresses pool]
  refine Keyed.size_le_length t.byClient Binding.addr pool.addresses ?_ ?_
  · intro client b hb
    exact (Pool.mem_addresses_iff fits b.addr).mpr (hw client b hb)
  · intro m m' b b' hb hb' ha
    exact hc.unique hb hb' ha

/-- A pool of two addresses with leases of an hour. -/
def hourPool : Pool :=
  { serverId := .ofBytes 10 0 0 1, start := .ofBytes 10 0 0 2, len := 2,
    subnetMask := .ofBytes 255 255 255 0, gateway := .ofBytes 10 0 0 1, leaseSecs := 3600 }

/-- A third client finds the pool exhausted, also when the clock has been set back. -/
theorem reachable_table_full :
    let t := ((ofPool hourPool).run [(Packet.ofClient .discover 1 ⟨2, 0, 0, 0, 0, 10⟩, 90),
      (Packet.ofClient .discover 2 ⟨2, 0, 0, 0, 0, 11⟩, 40),
      (Packet.ofClient .discover 3 ⟨2, 0, 0, 0, 0, 12⟩, 0)]).1.table
    hourPool.start.toNat + hourPool.len ≤ 2 ^ 32 ∧ t.size = hourPool.len ∧
      ∀ client b, t.byClient.get? client = some b → hourPool.contains b.addr = true := by
  refine ⟨by decide, by decide, ?_⟩
  exact (reachable_table hourPool (by decide) _).2.2.2.2.1

end Server

end WifiStation.Dhcp
