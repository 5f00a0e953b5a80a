import WifiStation.Dhcp.Lease
import WifiStation.Proofs.Keyed
import Mathlib.Data.List.Basic

/-!
# WifiStation.Proofs.Dhcp.LeaseTable

What the operations of a lease table do to the bindings it shows, and when its three indexes agree.

* `get?_release`, `get?_bind`, `get?_releaseAll`, `holder_release`, `holder_bind` — the effect of
  the operations on the binding of every client and the holder of every address. They hold of every
  table, however its indexes look.
* `Timed` — the index of times lists exactly the bindings, in order. Every operation keeps it, so
  `expire` ends exactly the bindings whose time is over (`get?_expire`), and it ends them one after
  the other in order of time (`expire_eq_loop`).
* `Consistent` — the index of addresses describes the same bindings too. `bind` keeps it only for
  an address that nobody else holds (`Consistent.bind`), and it is what makes an address belong to
  at most one client (`Consistent.unique`).
-/

namespace WifiStation.Dhcp

open WifiStation.Net

/-! ### The order of expiries -/

namespace Expiry

theorem before_iff (x y : Expiry) :
    before x y = true ↔ x.1 < y.1 ∨ x.1 = y.1 ∧ x.2.value < y.2.value := by
  simp [before]

theorem before_trans {x y z : Expiry} (hxy : before x y = true) (hyz : before y z = true) :
    before x z = true := by
  rw [before_iff] at hxy hyz ⊢
  omega

theorem not_before_self (x : Expiry) : ¬ before x x = true := by
  rw [before_iff]
  omega

/-- Two expiries are comparable: clients at one time are told apart by their addresses' values. -/
theorem before_of_not_before {x y : Expiry} (hne : x ≠ y) (h : ¬ before x y = true) :
    before y x = true := by
  rw [before_iff] at h ⊢
  by_cases ht : x.1 = y.1
  · have hv : x.2.value ≠ y.2.value := fun hv => hne (Prod.ext ht (Mac.value_injective hv))
    omega
  · omega

/-- Strictly ascending in the order of expiries. -/
def Ascending (l : List Expiry) : Prop := l.Pairwise fun x y => before x y = true

theorem Ascending.nodup {l : List Expiry} (h : Ascending l) : l.Nodup := by
  refine List.Pairwise.imp ?_ h
  intro x y hxy heq
  subst heq
  exact not_before_self x hxy

theorem mem_insert (e x : Expiry) (l : List Expiry) : x ∈ insert e l ↔ x = e ∨ x ∈ l := by
  induction l with
  | nil => simp [insert]
  | cons y ys ih =>
      rw [insert]
      split
      · rename_i hey
        simp [hey]
      · split
        · simp
        · rw [List.mem_cons, ih, List.mem_cons]
          tauto

/-- Inserting keeps the order. -/
theorem ascending_insert (e : Expiry) {l : List Expiry} (h : Ascending l) :
    Ascending (insert e l) := by
  induction l with
  | nil => simp [insert, Ascending]
  | cons y ys ih =>
      obtain ⟨hy, hys⟩ := List.pairwise_cons.mp h
      rw [insert]
      split
      · exact h
      · rename_i hne
        split
        · rename_i hb
          refine List.pairwise_cons.mpr ⟨?_, h⟩
          intro z hz
          rcases List.mem_cons.mp hz with rfl | hz
          · exact hb
          · exact before_trans hb (hy z hz)
        · rename_i hb
          refine List.pairwise_cons.mpr ⟨?_, ih hys⟩
          intro z hz
          rcases (mem_insert e z ys).mp hz with rfl | hz
          · exact before_of_not_before hne hb
          · exact hy z hz

/-- The expiries up to a time are a prefix of an ascending list. -/
theorem mem_takeWhile_iff {l : List Expiry} (h : Ascending l) (now : Nat) (x : Expiry) :
    x ∈ l.takeWhile (·.1 ≤ now) ↔ x ∈ l ∧ x.1 ≤ now := by
  induction l with
  | nil => simp
  | cons y ys ih =>
      obtain ⟨hy, hys⟩ := List.pairwise_cons.mp h
      by_cases hn : y.1 ≤ now
      · rw [List.takeWhile_cons_of_pos (by simpa using hn), List.mem_cons, ih hys, List.mem_cons]
        constructor
        · rintro (rfl | ⟨hx, hxn⟩)
          · exact ⟨.inl rfl, hn⟩
          · exact ⟨.inr hx, hxn⟩
        · rintro ⟨rfl | hx, hxn⟩
          · exact .inl rfl
          · exact .inr ⟨hx, hxn⟩
      · -- the head is too late, and all that follow are no earlier
        rw [List.takeWhile_cons_of_neg (by simpa using hn)]
        refine ⟨fun hx => absurd hx List.not_mem_nil, ?_⟩
        rintro ⟨hx, hxn⟩
        rcases List.mem_cons.mp hx with rfl | hx
        · exact absurd hxn hn
        · have := (before_iff y x).mp (hy x hx)
          omega

end Expiry

namespace LeaseTable

/-! ### The binding of each client -/

@[simp] theorem get?_empty (client : Mac) : empty.get? client = none := rfl

@[simp] theorem holder_empty (addr : Ipv4) : empty.holder addr = none := rfl

theorem release_of_none {t : LeaseTable} {client : Mac} (h : t.get? client = none) :
    t.release client = (t, none) := by
  rw [release, h]

theorem release_of_some {t : LeaseTable} {client : Mac} {b : Binding}
    (h : t.get? client = some b) :
    t.release client =
      ({ byClient := t.byClient.erase client
         byAddr := t.byAddr.erase b.addr
         expiry := t.expiry.filter (· ≠ (b.expiresAt, client)) }, some b.addr) := by
  rw [release, h]

theorem get?_release (t : LeaseTable) (client m : Mac) :
    (t.release client).1.get? m = if m = client then none else t.get? m := by
  cases h : t.get? client with
  | none =>
      rw [release_of_none h]
      split
      · rename_i hm
        rw [hm, h]
      · rfl
  | some b =>
      rw [release_of_some h]
      exact Keyed.get?_erase t.byClient client m

theorem get?_bind (t : LeaseTable) (client : Mac) (addr : Ipv4) (expiresAt : Nat) (m : Mac) :
    (t.bind client addr expiresAt).get? m =
      if m = client then some ⟨addr, expiresAt⟩ else t.get? m := by
  show ((t.release client).1.byClient.insert client ⟨addr, expiresAt⟩).get? m = _
  rw [Keyed.get?_insert]
  split
  · rfl
  · rename_i hm
    have := get?_release t client m
    rwa [if_neg hm] at this

theorem holder_release {t : LeaseTable} {client : Mac} {b : Binding} (h : t.get? client = some b)
    (addr : Ipv4) :
    (t.release client).1.holder addr = if addr = b.addr then none else t.holder addr := by
  rw [release_of_some h]
  exact Keyed.get?_erase t.byAddr b.addr addr

theorem holder_bind (t : LeaseTable) (client : Mac) (addr : Ipv4) (expiresAt : Nat) (a : Ipv4) :
    (t.bind client addr expiresAt).holder a =
      if a = addr then some client else (t.release client).1.holder a :=
  Keyed.get?_insert (t.release client).1.byAddr addr a client

theorem get?_bind_self (t : LeaseTable) (client : Mac) (addr : Ipv4) (expiresAt : Nat) :
    (t.bind client addr expiresAt).get? client = some ⟨addr, expiresAt⟩ := by
  rw [get?_bind, if_pos rfl]

theorem releaseAll_cons (t : LeaseTable) (client : Mac) (rest : List Mac) :
    (t.releaseAll (client :: rest)).1 = ((t.release client).1.releaseAll rest).1 := by
  rw [releaseAll]
  split <;> rfl

theorem get?_releaseAll (t : LeaseTable) (clients : List Mac) (m : Mac) :
    (t.releaseAll clients).1.get? m = if m ∈ clients then none else t.get? m := by
  induction clients generalizing t with
  | nil => simp [releaseAll]
  | cons client rest ih =>
      rw [releaseAll_cons, ih, get?_release]
      by_cases hr : m ∈ rest
      · simp [hr]
      · by_cases hc : m = client <;> simp [hr, hc]

/-- A property that every release keeps is kept by releasing many. -/
theorem releaseAll_induction {motive : LeaseTable → Prop} (t : LeaseTable) (clients : List Mac)
    (ht : motive t) (step : ∀ t client, motive t → motive (t.release client).1) :
    motive (t.releaseAll clients).1 := by
  induction clients generalizing t with
  | nil => exact ht
  | cons client rest ih =>
      rw [releaseAll_cons]
      exact ih _ (step t client ht)

/-! ### The index of times -/

/-- The index of times lists exactly the bindings, in ascending order. -/
structure Timed (t : LeaseTable) : Prop where
  ascending : Expiry.Ascending t.expiry
  mem_expiry : ∀ time client, (time, client) ∈ t.expiry ↔
    ∃ b, t.get? client = some b ∧ b.expiresAt = time

namespace Timed

theorem empty : LeaseTable.empty.Timed where
  ascending := List.Pairwise.nil
  mem_expiry := by
    intro time client
    constructor
    · intro h
      exact absurd h List.not_mem_nil
    · rintro ⟨b, hb, -⟩
      cases hb

theorem release {t : LeaseTable} (h : t.Timed) (client : Mac) : (t.release client).1.Timed := by
  cases hb : t.get? client with
  | none =>
      rw [release_of_none hb]
      exact h
  | some b =>
      have view := get?_release t client
      rw [release_of_some hb] at view ⊢
      refine ⟨h.ascending.filter _, ?_⟩
      intro time m
      rw [List.mem_filter, h.mem_expiry, view]
      by_cases hm : m = client
      · -- the client's only expiry is the one that is taken out
        subst hm
        rw [if_pos rfl, hb]
        simpa using fun hb' => Eq.symm hb'
      · rw [if_neg hm]
        simp [hm]

theorem bind {t : LeaseTable} (h : t.Timed) (client : Mac) (addr : Ipv4) (expiresAt : Nat) :
    (t.bind client addr expiresAt).Timed := by
  have hr := h.release client
  refine ⟨Expiry.ascending_insert _ hr.ascending, ?_⟩
  intro time m
  have hmem : (time, m) ∈ (t.bind client addr expiresAt).expiry ↔
      (time, m) = (expiresAt, client) ∨ (time, m) ∈ (t.release client).1.expiry :=
    Expiry.mem_insert _ _ _
  rw [hmem, hr.mem_expiry, get?_bind, get?_release]
  by_cases hm : m = client
  · simp [hm, eq_comm]
  · simp [hm]

theorem releaseAll {t : LeaseTable} (h : t.Timed) (clients : List Mac) :
    (t.releaseAll clients).1.Timed :=
  releaseAll_induction t clients h fun _ client ht => ht.release client

theorem expire {t : LeaseTable} (h : t.Timed) (now : Nat) : (t.expire now).1.Timed :=
  h.releaseAll _

/-- Due are the clients whose binding ends at or before the time. -/
theorem mem_due {t : LeaseTable} (h : t.Timed) (now : Nat) (client : Mac) :
    client ∈ t.due now ↔ ∃ b, t.get? client = some b ∧ b.expiresAt ≤ now := by
  rw [due, List.mem_map]
  constructor
  · rintro ⟨⟨time, m⟩, hx, rfl⟩
    obtain ⟨hmem, hle⟩ := (Expiry.mem_takeWhile_iff h.ascending now _).mp hx
    obtain ⟨b, hb, rfl⟩ := (h.mem_expiry time m).mp hmem
    exact ⟨b, hb, hle⟩
  · rintro ⟨b, hb, hle⟩
    have hmem := (h.mem_expiry b.expiresAt client).mpr ⟨b, hb, rfl⟩
    exact ⟨_, (Expiry.mem_takeWhile_iff h.ascending now _).mpr ⟨hmem, hle⟩, rfl⟩

end Timed

/-- Expiring ends exactly the bindings whose time is over. -/
theorem get?_expire {t : LeaseTable} (h : t.Timed) (now : Nat) (client : Mac) :
    (t.expire now).1.get? client = (t.get? client).filter (now < ·.expiresAt) := by
  rw [expire, get?_releaseAll]
  cases hb : t.get? client with
  | none => simp
  | some b =>
      have hdue : client ∈ t.due now ↔ b.expiresAt ≤ now := by
        rw [h.mem_due, hb]
        simp
      by_cases hle : b.expiresAt ≤ now
      · rw [if_pos (hdue.mpr hle)]
        simp [Option.filter, hle]
      · rw [if_neg (hdue.not.mpr hle)]
        simp [Option.filter, Nat.lt_of_not_le hle]

theorem get?_expire_eq_some_iff {t : LeaseTable} (h : t.Timed) (now : Nat) (client : Mac)
    (b : Binding) :
    (t.expire now).1.get? client = some b ↔ t.get? client = some b ∧ now < b.expiresAt := by
  rw [get?_expire h, Option.filter_eq_some_iff]
  simp

/-- Releasing the client of the first expiry leaves the expiries behind it. -/
theorem Timed.expiry_release {t : LeaseTable} (h : t.Timed) {first : Expiry} {rest : List Expiry}
    (he : t.expiry = first :: rest) : (t.release first.2).1.expiry = rest := by
  obtain ⟨time, client⟩ := first
  have hmem : (time, client) ∈ t.expiry := by simp [he]
  obtain ⟨b, hb, rfl⟩ := (h.mem_expiry time client).mp hmem
  have hn := h.ascending.nodup
  rw [he, List.nodup_cons] at hn
  rw [release_of_some hb]
  show t.expiry.filter (· ≠ (b.expiresAt, client)) = rest
  rw [he, List.filter_cons_of_neg (by simp), List.filter_eq_self]
  intro x hx
  -- the released expiry stands in the list only once
  have hne : x ≠ (b.expiresAt, client) := by
    intro hxe
    rw [hxe] at hx
    exact hn.1 hx
  simpa using hne

/-- Expiring looks at the first expiry, releases its client if the time is over, and looks again. -/
theorem expire_eq_loop {t : LeaseTable} (h : t.Timed) (now : Nat) :
    t.expire now =
      match t.expiry with
      | [] => (t, [])
      | first :: _ =>
        if now < first.1 then (t, [])
        else
          let released := t.release first.2
          let others := released.1.expire now
          match released.2 with
          | some addr => (others.1, (first.2, addr) :: others.2)
          | none => others := by
  rw [expire, due]
  cases he : t.expiry with
  | nil => rfl
  | cons first rest =>
      by_cases hn : now < first.1
      · rw [List.takeWhile_cons_of_neg (by simpa using hn)]
        simp [hn, releaseAll]
      · rw [List.takeWhile_cons_of_pos (by simpa using hn)]
        simp only [hn, if_false, expire, due, h.expiry_release he]
        rfl

/-! ### Agreement of the three indexes -/

/-- The three indexes describe the same bindings. -/
structure Consistent (t : LeaseTable) : Prop extends Timed t where
  holder_iff : ∀ addr client, t.holder addr = some client ↔
    ∃ b, t.get? client = some b ∧ b.addr = addr

namespace Consistent

/-- An address is bound to at most one client. -/
theorem unique {t : LeaseTable} (h : t.Consistent) {m m' : Mac} {b b' : Binding}
    (hb : t.get? m = some b) (hb' : t.get? m' = some b') (ha : b.addr = b'.addr) : m = m' := by
  have hm := (h.holder_iff b'.addr m).mpr ⟨b, hb, ha⟩
  have hm' := (h.holder_iff b'.addr m').mpr ⟨b', hb', rfl⟩
  rw [hm] at hm'
  exact Option.some.inj hm'

/-- Nobody holds an address exactly when no binding has it. -/
theorem holder_eq_none_iff {t : LeaseTable} (h : t.Consistent) (addr : Ipv4) :
    t.holder addr = none ↔ ∀ m b, t.get? m = some b → b.addr ≠ addr := by
  constructor
  · intro hn m b hb ha
    have := (h.holder_iff addr m).mpr ⟨b, hb, ha⟩
    rw [hn] at this
    cases this
  · intro hall
    cases hh : t.holder addr with
    | none => rfl
    | some m =>
        obtain ⟨b, hb, ha⟩ := (h.holder_iff addr m).mp hh
        exact absurd ha (hall m b hb)

theorem empty : LeaseTable.empty.Consistent where
  toTimed := Timed.empty
  holder_iff := by
    intro addr client
    rw [holder_empty, get?_empty]
    simp

theorem release {t : LeaseTable} (h : t.Consistent) (client : Mac) :
    (t.release client).1.Consistent := by
  refine ⟨h.toTimed.release client, ?_⟩
  intro addr m
  rw [get?_release]
  cases hb : t.get? client with
  | none =>
      rw [release_of_none hb, h.holder_iff]
      by_cases hm : m = client
      · simp [hm, hb]
      · simp [hm]
  | some b =>
      rw [holder_release hb]
      by_cases ha : addr = b.addr
      · -- whoever else had this address would be the released client
        rw [if_pos ha]
        refine ⟨fun hn => absurd hn.symm (Option.some_ne_none m), ?_⟩
        rintro ⟨b', hb', ha'⟩
        split at hb'
        · cases hb'
        · rename_i hm
          exact absurd (h.unique hb' hb (ha'.trans ha)) hm
      · rw [if_neg ha, h.holder_iff]
        by_cases hm : m = client
        · rw [if_pos hm, hm, hb]
          simp [Ne.symm ha]
        · rw [if_neg hm]

/-- Binding keeps the indexes in agreement if nobody else holds the address. -/
theorem bind {t : LeaseTable} (h : t.Consistent) {client : Mac} {addr : Ipv4} (expiresAt : Nat)
    (free : ∀ m, t.holder addr = some m → m = client) :
    (t.bind client addr expiresAt).Consistent := by
  have hr := h.release client
  -- after its own release nobody at all holds the address
  have hnone : (t.release client).1.holder addr = none := by
    rw [hr.holder_eq_none_iff]
    intro m b hb ha
    rw [get?_release] at hb
    split at hb
    · cases hb
    · rename_i hm
      exact hm (free m ((h.holder_iff addr m).mpr ⟨b, hb, ha⟩))
  refine ⟨h.toTimed.bind client addr expiresAt, ?_⟩
  intro addr' m
  rw [holder_bind, get?_bind]
  by_cases ha : addr' = addr
  · subst ha
    rw [if_pos rfl]
    by_cases hm : m = client
    · simp [hm]
    · rw [if_neg hm]
      refine ⟨fun he => absurd (Option.some.inj he).symm hm, ?_⟩
      rintro ⟨b, hb, hba⟩
      exact absurd (free m ((h.holder_iff addr' m).mpr ⟨b, hb, hba⟩)) hm
  · rw [if_neg ha, hr.holder_iff, get?_release]
    by_cases hm : m = client
    · simp [hm, Ne.symm ha]
    · simp [hm]

theorem releaseAll {t : LeaseTable} (h : t.Consistent) (clients : List Mac) :
    (t.releaseAll clients).1.Consistent :=
  releaseAll_induction t clients h fun _ client ht => ht.release client

theorem expire {t : LeaseTable} (h : t.Consistent) (now : Nat) : (t.expire now).1.Consistent :=
  h.releaseAll _

end Consistent

/-! ### The search for a free address -/

/-- The address found is one of the pool's that nobody holds. -/
theorem of_firstFree {t : LeaseTable} {pool : Pool} {addr : Ipv4}
    (h : t.firstFree pool = some addr) : addr ∈ pool.addresses ∧ t.holder addr = none := by
  rw [firstFree_eq_find?] at h
  refine ⟨List.mem_of_find?_eq_some h, ?_⟩
  have := List.find?_some h
  simpa using this

/-- No client is bound to the address found. -/
theorem Consistent.addr_ne_of_firstFree {t : LeaseTable} (h : t.Consistent) {pool : Pool}
    {addr : Ipv4} (found : t.firstFree pool = some addr) {m : Mac} {b : Binding}
    (hb : t.get? m = some b) : b.addr ≠ addr :=
  (h.holder_eq_none_iff addr).mp (of_firstFree found).2 m b hb

end LeaseTable

/-! ### The addresses of a pool -/

namespace Pool

@[simp] theorem length_addresses (pool : Pool) : pool.addresses.length = pool.len := by
  simp [addresses]

theorem contains_iff (pool : Pool) (addr : Ipv4) :
    pool.contains addr = true ↔
      pool.start.toNat ≤ addr.toNat ∧ addr.toNat < pool.start.toNat + pool.len := by
  simp only [contains, Bool.and_eq_true, decide_eq_true_eq]
  omega

/-- A pool that ends within the address space lists exactly the addresses it contains. -/
theorem mem_addresses_iff {pool : Pool} (fits : pool.start.toNat + pool.len ≤ 2 ^ 32)
    (addr : Ipv4) : addr ∈ pool.addresses ↔ pool.contains addr = true := by
  rw [contains_iff]
  simp only [addresses, addressAt, List.mem_map, List.mem_range]
  constructor
  · rintro ⟨i, hi, rfl⟩
    rw [Ipv4.toNat_ofNat, Nat.mod_eq_of_lt (by omega)]
    omega
  · rintro ⟨lower, upper⟩
    refine ⟨addr.toNat - pool.start.toNat, by omega, ?_⟩
    rw [Nat.add_sub_cancel' lower, Ipv4.ofNat_toNat]

/-- A pool that ends within the address space lists consecutive numbers. -/
theorem map_toNat_addresses {pool : Pool} (fits : pool.start.toNat + pool.len ≤ 2 ^ 32) :
    pool.addresses.map Ipv4.toNat = List.range' pool.start.toNat pool.len := by
  rw [List.range'_eq_map_range, addresses, List.map_map]
  refine List.map_congr_left ?_
  intro i hi
  have := List.mem_range.mp hi
  rw [Function.comp_apply, addressAt, Ipv4.toNat_ofNat, Nat.mod_eq_of_lt (by omega)]

theorem ascending_addresses {pool : Pool} (fits : pool.start.toNat + pool.len ≤ 2 ^ 32) :
    pool.addresses.Pairwise fun a b => a.toNat < b.toNat := by
  rw [← List.pairwise_map, map_toNat_addresses fits]
  exact List.pairwise_lt_range' 1

end Pool

end WifiStation.Dhcp
