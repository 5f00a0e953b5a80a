import WifiStation.Proofs.Dhcp.Server

/-!
# WifiStation.Proofs.Dhcp.Exhaustion

When a server has no address left, and which one it gives while it has.

A binding counts as long as it ends after the time one looks (`LeaseTable.live`), which is what the
table keeps when it ends the others (`mem_live_iff_expire`). The addresses of these bindings are all
different and all in the pool, so there are as many bindings as the pool has addresses exactly if
the search for a free one fails (`firstFree_eq_none_iff`). Nothing can leak away from a pool whose
use is counted so. The search goes up the pool, so what it finds is the smallest (`firstFree_le`).
-/

namespace WifiStation.Dhcp

open WifiStation.Net

namespace LeaseTable

/-! ### The bindings that count -/

/-- The bindings that end after a time. -/
def live (t : LeaseTable) (now : Nat) : List (Mac × Binding) :=
  t.byClient.entries.filter fun e => now < e.2.expiresAt

theorem mem_live_iff (t : LeaseTable) (now : Nat) (client : Mac) (b : Binding) :
    (client, b) ∈ t.live now ↔ t.get? client = some b ∧ now < b.expiresAt := by
  rw [live, List.mem_filter, ← Keyed.get?_eq_some_iff, decide_eq_true_eq]
  rfl

/-- They are what is left of the table when the others have ended. -/
theorem mem_live_iff_expire {t : LeaseTable} (h : t.Timed) (now : Nat) (client : Mac)
    (b : Binding) : (client, b) ∈ t.live now ↔ (t.expire now).1.get? client = some b := by
  rw [mem_live_iff, get?_expire_eq_some_iff h]

theorem size_expire {t : LeaseTable} (h : t.Timed) (now : Nat) :
    (t.expire now).1.size = (t.live now).length := by
  -- both lists have every entry once
  have left := List.Nodup.of_map Prod.fst (t.expire now).1.byClient.nodup
  have right := (List.Nodup.of_map Prod.fst t.byClient.nodup).filter
    (fun e : Mac × Binding => decide (now < e.2.expiresAt))
  refine ((List.perm_ext_iff_of_nodup left right).mpr ?_).length_eq
  rintro ⟨client, b⟩
  rw [← Keyed.get?_eq_some_iff]
  exact (mem_live_iff_expire h now client b).symm

/-! ### The search for a free address -/

/-- The search fails exactly if there are as many bindings as addresses. -/
theorem firstFree_eq_none_iff {t : LeaseTable} {pool : Pool} (h : t.Consistent)
    (fits : pool.start.toNat + pool.len ≤ 2 ^ 32)
    (within : ∀ client b, t.get? client = some b → pool.contains b.addr = true) :
    t.firstFree pool = none ↔ t.size = pool.len := by
  have distinct : pool.addresses.Nodup :=
    (Pool.ascending_addresses fits).imp fun lt same => Nat.ne_of_lt lt (congrArg Ipv4.toNat same)
  have mem : ∀ client b, t.get? client = some b → b.addr ∈ pool.addresses := fun client b hb =>
    (Pool.mem_addresses_iff fits b.addr).mpr (within client b hb)
  have count := Keyed.size_eq_length_iff t.byClient Binding.addr pool.addresses mem
    (fun m m' b b' hb hb' ha => h.unique hb hb' ha) distinct
  rw [Pool.length_addresses] at count
  rw [firstFree_eq_find?, List.find?_eq_none, size, count]
  refine forall₂_congr fun a _ => ?_
  constructor
  · intro held
    obtain ⟨m, hm⟩ := Option.ne_none_iff_exists'.mp (by simpa using held)
    obtain ⟨b, hb, ha⟩ := (h.holder_iff a m).mp hm
    exact ⟨m, b, hb, ha⟩
  · rintro ⟨m, b, hb, ha⟩
    rw [(h.holder_iff a m).mpr ⟨b, hb, ha⟩]
    simp

/-- The search finds the smallest free address. -/
theorem firstFree_le {t : LeaseTable} {pool : Pool} {addr a : Ipv4}
    (fits : pool.start.toNat + pool.len ≤ 2 ^ 32) (found : t.firstFree pool = some addr)
    (ha : pool.contains a = true) (free : t.holder a = none) : addr.toNat ≤ a.toNat := by
  rw [firstFree_eq_find?, List.find?_eq_some_iff_append] at found
  obtain ⟨-, passed, rest, split, used⟩ := found
  have ascending := Pool.ascending_addresses fits
  rw [← Pool.mem_addresses_iff fits] at ha
  rw [split] at ha ascending
  rcases List.mem_append.mp ha with ha | ha
  · -- what the search has passed is held by somebody
    have := used a ha
    simp [free] at this
  · obtain ⟨later, -⟩ := List.pairwise_cons.mp (List.pairwise_append.mp ascending).2.1
    rcases List.mem_cons.mp ha with rfl | ha
    · exact Nat.le_refl _
    · exact Nat.le_of_lt (later a ha)

end LeaseTable

namespace Server

/-! ### DISCOVER -/

/-- An address of the pool to which no binding belongs that ends after a time. -/
def FreeAt (s : Server) (now : Nat) (addr : Ipv4) : Prop :=
  s.pool.contains addr = true ∧ ∀ e ∈ s.table.live now, e.2.addr ≠ addr

variable {s : Server} {now : Nat}

theorem get?_sweep_eq_none_iff (hs : s.table.Consistent) (m : Mac) :
    (s.sweep now).table.get? m = none ↔ ∀ b, (m, b) ∉ s.table.live now := by
  rw [Option.eq_none_iff_forall_ne_some]
  exact forall_congr' fun b => (LeaseTable.mem_live_iff_expire hs.toTimed now m b).not.symm

theorem freeAt_iff (hs : s.table.Consistent) (addr : Ipv4) :
    s.FreeAt now addr ↔ s.pool.contains addr = true ∧ (s.sweep now).table.holder addr = none := by
  have hsweep : (s.sweep now).table.Consistent := hs.expire now
  rw [FreeAt, hsweep.holder_eq_none_iff]
  refine and_congr_right fun _ => ?_
  constructor
  · intro free m b hb
    exact free (m, b) ((LeaseTable.mem_live_iff_expire hs.toTimed now m b).mpr hb)
  · rintro free ⟨m, b⟩ he
    exact free m b ((LeaseTable.mem_live_iff_expire hs.toTimed now m b).mp he)

/-- The search for an address fails exactly if as many bindings count as the pool has addresses. -/
theorem exhausted_iff (hs : s.table.Consistent) (hw : s.Within)
    (fits : s.pool.start.toNat + s.pool.len ≤ 2 ^ 32) :
    (s.sweep now).table.firstFree s.pool = none ↔ (s.table.live now).length = s.pool.len := by
  have hsweep : (s.sweep now).table.Consistent := hs.expire now
  rw [LeaseTable.firstFree_eq_none_iff hsweep fits (hw.sweep hs now),
    ← LeaseTable.size_expire hs.toTimed now]
  rfl

/-- Of the bindings that count, those of other clients are all if the client has none. -/
theorem filter_live_of_new {m : Mac} (new : ∀ own, (m, own) ∉ s.table.live now) :
    (s.table.live now).filter (·.1 ≠ m) = s.table.live now := by
  rw [List.filter_eq_self]
  rintro ⟨other, b⟩ he
  by_cases same : other = m
  · rw [same] at he
    exact absurd he (new b)
  · simpa using same

variable {p : Packet}

/-- When no answer comes. A client that has a binding is never turned away, so the bindings that
fill the pool are all of others. -/
theorem discover_unanswered_iff (hs : s.table.Consistent) (hw : s.Within)
    (fits : s.pool.start.toNat + s.pool.len ≤ 2 ^ 32) (dir : p.direction = .request)
    (kind : p.options.kind = some .discover) :
    (s.handle p now).2 = none ↔ (∀ own, (p.chaddr, own) ∉ s.table.live now) ∧
      ((s.table.live now).filter (·.1 ≠ p.chaddr)).length = s.pool.len := by
  have out := (handle_outcome s p now).of_discover dir kind
  constructor
  · intro unanswered
    rcases out with ⟨-, new, full⟩ | ⟨b, answered, -⟩
    · rw [get?_sweep_eq_none_iff hs] at new
      exact ⟨new, by rw [filter_live_of_new new, ← exhausted_iff hs hw fits, full]⟩
    · rw [unanswered] at answered
      cases answered
  · rintro ⟨new, full⟩
    rw [filter_live_of_new new, ← exhausted_iff hs hw fits] at full
    rcases out with ⟨unanswered, -⟩ | ⟨b, -, -, -, ⟨own, mine, -⟩ | ⟨-, found⟩⟩
    · exact unanswered
    · rw [(get?_sweep_eq_none_iff hs p.chaddr).mpr new] at mine
      cases mine
    · rw [full] at found
      cases found

/-- Which address an answer offers, and for how long. -/
theorem discover_offer (hs : s.table.Consistent)
    (fits : s.pool.start.toNat + s.pool.len ≤ 2 ^ 32) (dir : p.direction = .request)
    (kind : p.options.kind = some .discover) {r : Packet}
    (answer : (s.handle p now).2 = some r) :
    ∃ b, r = s.grant p .offer b.addr ∧
      ((∃ own, (p.chaddr, own) ∈ s.table.live now ∧ b.addr = own.addr) ∨
        (∀ own, (p.chaddr, own) ∉ s.table.live now) ∧ s.FreeAt now b.addr ∧
          ∀ a, s.FreeAt now a → b.addr.toNat ≤ a.toNat) ∧
      (s.handle p now).1.table.get? p.chaddr = some b ∧ now + offerHoldMs ≤ b.expiresAt := by
  rcases (handle_outcome s p now).of_discover dir kind with
    ⟨unanswered, -⟩ | ⟨b, offered, bound, held, own | ⟨new, found⟩⟩
  · rw [answer] at unanswered
    cases unanswered
  · obtain ⟨own, mine, same⟩ := own
    refine ⟨b, Option.some.inj (answer.symm.trans offered), .inl ⟨own, ?_, same⟩, bound, held⟩
    exact (LeaseTable.mem_live_iff_expire hs.toTimed now _ own).mpr mine
  · refine ⟨b, Option.some.inj (answer.symm.trans offered), .inr ⟨?_, ?_, ?_⟩, bound, held⟩
    · exact (get?_sweep_eq_none_iff hs p.chaddr).mp new
    · obtain ⟨listed, unheld⟩ := LeaseTable.of_firstFree found
      exact (freeAt_iff hs b.addr).mpr ⟨(Pool.mem_addresses_iff fits b.addr).mp listed, unheld⟩
    · intro a free
      obtain ⟨inside, unheld⟩ := (freeAt_iff hs a).mp free
      exact LeaseTable.firstFree_le fits found inside unheld

/-- **Exhaustion is exact.** A DISCOVER is left without an answer exactly if the client has no
binding that counts and other clients have as many as the pool has addresses. Otherwise it is
answered with an OFFER: of the client's own address if it has one, else of the smallest address of
the pool that is free. The client is then bound to that address for a minute at least. -/
theorem discover_exact (pool : Pool) (fits : pool.start.toNat + pool.len ≤ 2 ^ 32)
    (packets : List (Packet × Nat)) (p : Packet) (now : Nat) (dir : p.direction = .request)
    (kind : p.options.kind = some .discover) :
    let s := ((ofPool pool).run packets).1
    let live := s.table.live now
    ((s.handle p now).2 = none ↔
      (∀ own, (p.chaddr, own) ∉ live) ∧ (live.filter (·.1 ≠ p.chaddr)).length = pool.len) ∧
    ∀ r, (s.handle p now).2 = some r → ∃ b, r = s.grant p .offer b.addr ∧
      ((∃ own, (p.chaddr, own) ∈ live ∧ b.addr = own.addr) ∨
        (∀ own, (p.chaddr, own) ∉ live) ∧ s.FreeAt now b.addr ∧
          ∀ a, s.FreeAt now a → b.addr.toNat ≤ a.toNat) ∧
      (s.handle p now).1.table.get? p.chaddr = some b ∧ now + 60000 ≤ b.expiresAt := by
  intro s live
  have hs : s.table.Consistent := reachable_consistent pool packets
  have hw : s.Within := reachable_within fits packets
  have hp : s.pool = pool := run_pool (ofPool pool) packets
  have hfits : s.pool.start.toNat + s.pool.len ≤ 2 ^ 32 := by rwa [hp]
  have unanswered : (s.handle p now).2 = none ↔ _ :=
    discover_unanswered_iff hs hw hfits dir kind
  rw [hp] at unanswered
  exact ⟨unanswered, fun r answer => discover_offer hs hfits dir kind answer⟩

/-- A pool of two, both offered: a third client gets no answer as long as both offers stand. A
millisecond later the first of them is over, and its address is offered to the third. -/
theorem discover_exact_last_moment :
    let packets := [(Packet.ofClient .discover 1 ⟨2, 0, 0, 0, 0, 10⟩, 0),
      (Packet.ofClient .discover 2 ⟨2, 0, 0, 0, 0, 11⟩, 1)]
    let p := Packet.ofClient .discover 3 ⟨2, 0, 0, 0, 0, 12⟩
    let s := ((ofPool hourPool).run packets).1
    (s.handle p 59999).2 = none ∧
      (s.handle p 60000).2 = some (s.grant p .offer (.ofBytes 10 0 0 2)) ∧
      ∃ b, b.addr = .ofBytes 10 0 0 2 ∧ (s.handle p 60000).1.table.get? p.chaddr = some b ∧
        60000 + 60000 ≤ b.expiresAt := by
  intro packets p s
  have fits : hourPool.start.toNat + hourPool.len ≤ 2 ^ 32 := by decide
  have before := discover_exact hourPool fits packets p 59999 rfl rfl
  have after := discover_exact hourPool fits packets p 60000 rfl rfl
  have answer : (s.handle p 60000).2 = some (s.grant p .offer (.ofBytes 10 0 0 2)) := by decide
  refine ⟨before.1.mpr ?_, answer, ?_⟩
  · have full : s.table.live 59999 = [(⟨2, 0, 0, 0, 0, 11⟩, ⟨.ofBytes 10 0 0 3, 60001⟩),
        (⟨2, 0, 0, 0, 0, 10⟩, ⟨.ofBytes 10 0 0 2, 60000⟩)] := by decide
    rw [full]
    exact ⟨by simp [p, Packet.ofClient], by decide⟩
  · obtain ⟨b, offered, -, bound, held⟩ := after.2 _ answer
    exact ⟨b, (congrArg Packet.yiaddr offered).symm, bound, held⟩

end Server

end WifiStation.Dhcp
