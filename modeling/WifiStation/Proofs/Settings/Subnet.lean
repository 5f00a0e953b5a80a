import WifiStation.Proofs.Dhcp.ClientStep
import WifiStation.Proofs.Dhcp.Server
import WifiStation.Proofs.Net.Prefix
import WifiStation.Settings.Fault

/-!
# WifiStation.Proofs.Settings.Subnet

What settings without a fault promise about the pool of a server, and what they do not.

* `PoolSettings.fault?_eq_none_iff` — a pool passes exactly if it is `InSubnet`: it is not empty, it
  ends within the address space, its mask is contiguous, and all its addresses lie in one network
  with the server. The check looks at the two ends of the pool only; that what lies between them
  follows is `Ipv4.front_eq_of_between`.
* `validated_pool_in_subnet` — the addresses that a server then gives, with the mask that it says
  along with them, put a client into a network with the server.
* `own_address_kept_iff` — one thing is not checked. The server's own address may lie in the pool,
  and then the server gives it away like any other.
-/

namespace WifiStation

open WifiStation.Net WifiStation.Dhcp

/-! ### Pools without a fault -/

/-- A pool in one subnet with its server. -/
structure PoolSettings.InSubnet (p : PoolSettings) : Prop where
  nonempty : 0 < p.len.toNat
  contiguous : p.subnetMask.isContiguous = true
  fits : p.start.toNat + p.len.toNat ≤ 2 ^ 32
  shared : ∀ addr, p.toPool.contains addr = true →
    addr.front p.subnetMask.prefixLength = p.serverId.front p.subnetMask.prefixLength

namespace PoolSettings

/-- The last address of a pool that is not empty, where there is one. -/
theorem last?_eq_some_iff {p : PoolSettings} (nonempty : 0 < p.len.toNat) (last : Ipv4) :
    p.last? = some last ↔ last.toNat + 1 = p.start.toNat + p.len.toNat := by
  rw [last?]
  constructor
  · intro h
    split at h
    · rename_i fits
      cases h
      rw [Ipv4.toNat_ofNat, Nat.mod_eq_of_lt fits]
      omega
    · cases h
  · intro h
    have ends : p.start.toNat + (p.len.toNat - 1) = last.toNat := by omega
    simp only [ends, if_pos last.toNat_lt, Ipv4.ofNat_toNat]

/-- What the check looks at: the mask, and the two ends of the pool. -/
theorem fault?_eq_none_iff_ends (p : PoolSettings) :
    p.fault? = none ↔ 0 < p.len.toNat ∧ p.subnetMask.isContiguous = true ∧
      ∃ last : Ipv4, last.toNat + 1 = p.start.toNat + p.len.toNat ∧
        p.subnetMask.sameNetwork p.start last = true ∧
        p.subnetMask.sameNetwork p.start p.serverId = true := by
  have empty : p.len = 0 ↔ p.len.toNat = 0 := UInt32.toNat_inj.symm
  rw [fault?]
  by_cases nonempty : 0 < p.len.toNat
  · rw [if_neg (mt empty.mp (by omega))]
    simp only [← last?_eq_some_iff nonempty, nonempty, true_and]
    cases p.subnetMask.isContiguous with
    | false => simp
    | true => cases p.last? <;> simp
  · rw [if_pos (empty.mpr (by omega))]
    simp [nonempty]

/-- The check of the two ends is a check of the whole pool. -/
theorem fault?_eq_none_iff (p : PoolSettings) : p.fault? = none ↔ p.InSubnet := by
  rw [fault?_eq_none_iff_ends]
  constructor
  · rintro ⟨nonempty, contiguous, last, ends, same, server⟩
    rw [Ipv4.sameNetwork_iff contiguous] at same server
    have fits := last.toNat_lt
    refine ⟨nonempty, contiguous, by omega, ?_⟩
    intro addr ha
    obtain ⟨lower, upper⟩ : p.start.toNat ≤ addr.toNat ∧
        addr.toNat < p.start.toNat + p.len.toNat := (p.toPool.contains_iff addr).mp ha
    exact (Ipv4.front_eq_of_between same lower (by omega)).trans server
  · rintro ⟨nonempty, contiguous, fits, shared⟩
    have between : ∀ addr : Ipv4, p.start.toNat ≤ addr.toNat →
        addr.toNat < p.start.toNat + p.len.toNat → p.toPool.contains addr = true :=
      fun addr lower upper => (p.toPool.contains_iff addr).mpr ⟨lower, upper⟩
    -- both ends are addresses of the pool
    have first := shared p.start (between p.start (Nat.le_refl _) (by omega))
    have ends : (Ipv4.ofNat (p.start.toNat + p.len.toNat - 1)).toNat + 1 =
        p.start.toNat + p.len.toNat := by
      rw [Ipv4.toNat_ofNat, Nat.mod_eq_of_lt (by omega)]
      omega
    have last := shared _ (between _ (by omega) (Nat.lt_of_succ_le (Nat.le_of_eq ends)))
    refine ⟨nonempty, contiguous, _, ends, ?_, ?_⟩
    · rw [Ipv4.sameNetwork_iff contiguous, first, last]
    · rw [Ipv4.sameNetwork_iff contiguous, first]

end PoolSettings

/-- The pool of settings without a fault. -/
theorem Settings.inSubnet {s : Settings} (valid : s.fault? = none) : s.dhcp.server.InSubnet := by
  have dhcp : s.dhcp.fault? = none := ((Settings.fault?_eq_none_iff s).mp valid).2.2.1
  rw [DhcpSettings.fault?] at dhcp
  split at dhcp
  · cases dhcp
  · exact (PoolSettings.fault?_eq_none_iff _).mp dhcp

/-! ### The addresses that a server gives -/

/-- An OFFER or ACK says a mask that puts the address it gives into a network with the server. -/
theorem PoolSettings.InSubnet.of_grant {s : PoolSettings} (h : s.InSubnet)
    {before : List (Packet × Nat)} {p r : Packet} {now : Nat}
    (answer : (((Server.ofPool s.toPool).run before).1.handle p now).2 = some r)
    (grants : r.Grants) :
    r.options.subnetMask = some s.subnetMask ∧
      r.yiaddr.front s.subnetMask.prefixLength = s.serverId.front s.subnetMask.prefixLength := by
  have out := Server.handle_outcome ((Server.ofPool s.toPool).run before).1 p now
  rw [answer] at out
  refine ⟨?_, h.shared r.yiaddr (Server.grant_within h.fits before answer grants)⟩
  rw [out.subnetMask grants, Server.run_pool]
  rfl

/-- **One subnet.** The pool of settings without a fault lists the addresses it contains in strictly
ascending order and does not run over the end of the address space; its mask is the word whose top
bits are set, as many as the prefix is long; all its addresses agree with the server's on the first
bits. So every OFFER and ACK, by the mask it says, and every address that a client configures on
its account are of a network with the server. -/
theorem validated_pool_in_subnet (s : Settings) (valid : s.fault? = none) :
    let pool := s.dhcp.server.toPool
    let len := pool.subnetMask.prefixLength
    (pool.addresses.Pairwise (fun a b => a.toNat < b.toNat) ∧
      (∀ a, a ∈ pool.addresses ↔ pool.contains a = true) ∧
      pool.addresses.map Ipv4.toNat = List.range' pool.start.toNat pool.len) ∧
    (∀ i < 32, pool.subnetMask.toNat.testBit i = decide (32 - len ≤ i)) ∧
    (∀ a, pool.contains a = true → a.front len = pool.serverId.front len) ∧
    ∀ before p r now, (((Server.ofPool pool).run before).1.handle p now).2 = some r → r.Grants →
      (r.options.subnetMask = some pool.subnetMask ∧
        r.yiaddr.front len = pool.serverId.front len) ∧
      ∀ (c : Client) heard fresh ifindex addr n gateway,
        .configure ifindex addr n gateway ∈ (c.handlePacket r heard fresh).2 →
          addr.front n = pool.serverId.front n := by
  intro pool len
  have h := Settings.inSubnet valid
  refine ⟨⟨Pool.ascending_addresses h.fits, Pool.mem_addresses_iff h.fits,
    Pool.map_toNat_addresses h.fits⟩, (Ipv4.isContiguous_iff _).mp h.contiguous, h.shared, ?_⟩
  intro before p r now answer grants
  obtain ⟨said, together⟩ := h.of_grant answer grants
  refine ⟨⟨said, together⟩, ?_⟩
  intro c heard fresh ifindex addr n gateway configures
  obtain ⟨ha, hn⟩ := (c.handlePacket_change r heard fresh).configured_by configures
  rw [ha, hn, said, Option.getD_some]
  exact together

/-- A pool that takes up the last eight addresses there are. -/
theorem validated_pool_in_subnet_at_end :
    let s : Settings := { dhcp := { server :=
      { serverId := .ofBytes 255 255 255 249, start := .ofBytes 255 255 255 248, len := 8 } } }
    let pool := s.dhcp.server.toPool
    let len := pool.subnetMask.prefixLength
    s.fault? = none ∧ pool.start.toNat + pool.len = 2 ^ 32 ∧ len = 29 ∧
      ∀ a, pool.contains a = true → a.front len = pool.serverId.front len := by
  intro s pool len
  have valid : s.fault? = none := by decide
  exact ⟨valid, by decide, by decide, (validated_pool_in_subnet s valid).2.2.1⟩

/-! ### The server's own address -/

open Server in
/-- A pool with the server's own address in it gives it to a client that asks for it. -/
theorem gives_own_address {pool : Pool} (inside : pool.contains pool.serverId = true) :
    ∃ p r now, ((ofPool pool).handle p now).2 = some r ∧ r.Grants ∧ r.yiaddr = pool.serverId := by
  let plain := Packet.ofClient .request 0 .zero
  let p : Packet := { plain with options := { plain.options with
    requestedAddr := some pool.serverId } }
  refine ⟨p, (ofPool pool).grant p .ack pool.serverId, 0, ?_, .inr rfl, rfl⟩
  have stay : ¬ p.GivesUp pool.serverId := by simp [Packet.GivesUp, p, plain, Packet.ofClient]
  exact (handle_outcome (ofPool pool) p 0).of_free_request rfl rfl stay rfl inside rfl rfl

/-- **The server's own address.** Under settings without a fault, no run of the server ever gives
away its own address exactly if the pool does not contain it. -/
theorem own_address_kept_iff (s : Settings) (valid : s.fault? = none) :
    let pool := s.dhcp.server.toPool
    (∀ before p r now, (((Server.ofPool pool).run before).1.handle p now).2 = some r → r.Grants →
      r.yiaddr ≠ pool.serverId) ↔ pool.contains pool.serverId = false := by
  intro pool
  constructor
  · intro kept
    rw [Bool.eq_false_iff]
    intro inside
    obtain ⟨p, r, now, answer, grants, own⟩ := gives_own_address inside
    exact kept [] p r now answer grants own
  · intro outside before p r now answer grants own
    have inside := Server.grant_within (Settings.inSubnet valid).fits before answer grants
    rw [own, outside] at inside
    cases inside

/-- The default pool begins behind the server's own address. -/
theorem own_address_kept_iff_default :
    let pool := ({} : Settings).dhcp.server.toPool
    ({} : Settings).fault? = none ∧
      ∀ before p r now, (((Server.ofPool pool).run before).1.handle p now).2 = some r →
        r.Grants → r.yiaddr ≠ pool.serverId :=
  ⟨by decide, (own_address_kept_iff {} (by decide)).mpr (by decide)⟩

/-- A pool of nothing but the server's own address has no fault, and the first client that looks for
a server is offered that address. -/
theorem own_address_offered :
    let s : Settings := { dhcp := { server := { start := .ofBytes 10 0 0 1, len := 1 } } }
    let pool := s.dhcp.server.toPool
    let p := Packet.ofClient .discover 1 ⟨2, 0, 0, 0, 0, 10⟩
    s.fault? = none ∧
      ∃ r, (((Server.ofPool pool).run []).1.handle p 0).2 = some r ∧ r.Grants ∧
        r.yiaddr = pool.serverId := by
  intro s pool p
  exact ⟨by decide, (Server.ofPool pool).grant p .offer pool.serverId, by decide, .inl rfl, rfl⟩

end WifiStation
