import WifiStation.Proofs.Dhcp.Server

/-!
# WifiStation.Proofs.Dhcp.Takeover

Lease tables under calls that nobody has checked.

A server binds an address only if no other client has it, so the indexes of its table agree
(`Server.reachable_consistent`). The table itself does not ask. Whatever is called, the expiries
stay those of the bindings (`Timed.run`), and the holder of an address stays a client that is bound
to it (`Faithful.run`). What can get lost is the way back: a client may be bound to an address of
which it is not the holder. The one call that brings this about is a takeover, which binds an
address that another client still has (`Consistent.apply_iff`). It gives one address to two clients,
but the table has room for one holder; and when one of the two is released, the entry goes with it,
so that the address looks free while the other is bound to it (`taken_address_found_free`).
-/

namespace WifiStation.Dhcp

open WifiStation.Net

namespace LeaseTable

/-! ### Calls -/

/-- A call of an operation that changes a table. -/
inductive Call
  | bind (client : Mac) (addr : Ipv4) (expiresAt : Nat)
  | release (client : Mac)
  | expire (now : Nat)
  deriving DecidableEq, Repr

/-- The table after a call. -/
def apply (t : LeaseTable) : Call → LeaseTable
  | .bind client addr expiresAt => t.bind client addr expiresAt
  | .release client => (t.release client).1
  | .expire now => (t.expire now).1

/-- The table after some calls. -/
def run (t : LeaseTable) (calls : List Call) : LeaseTable := calls.foldl apply t

/-! ### What every call keeps -/

/-- Lift what binding and releasing keep to any calls. -/
theorem run_induction {motive : LeaseTable → Prop}
    (bind : ∀ t client addr expiresAt, motive t → motive (t.bind client addr expiresAt))
    (release : ∀ t client, motive t → motive (t.release client).1) {t : LeaseTable}
    (start : motive t) (calls : List Call) : motive (t.run calls) := by
  refine List.foldlRecOn calls apply start ?_
  intro t ht call _
  cases call with
  | bind client addr expiresAt => exact bind t client addr expiresAt ht
  | release client => exact release t client ht
  | expire now => exact releaseAll_induction t _ ht release

theorem Timed.run {t : LeaseTable} (h : t.Timed) (calls : List Call) : (t.run calls).Timed :=
  run_induction (fun _ client addr expiresAt ht => ht.bind client addr expiresAt)
    (fun _ client ht => ht.release client) h calls

/-- The holder of an address is bound to it. -/
def Faithful (t : LeaseTable) : Prop :=
  ∀ addr client, t.holder addr = some client → ∃ b, t.get? client = some b ∧ b.addr = addr

namespace Faithful

theorem empty : LeaseTable.empty.Faithful :=
  fun _ _ held => nomatch held

theorem release {t : LeaseTable} (h : t.Faithful) (client : Mac) :
    (t.release client).1.Faithful := by
  intro addr m held
  cases hb : t.get? client with
  | none =>
      rw [release_of_none hb] at held ⊢
      exact h addr m held
  | some b =>
      rw [holder_release hb] at held
      split at held
      · cases held
      · rename_i other
        obtain ⟨b', hb', same⟩ := h addr m held
        -- who holds another address is another client
        have apart : m ≠ client := by
          rintro rfl
          rw [Option.some.inj (hb.symm.trans hb')] at other
          exact other same.symm
        exact ⟨b', by rw [get?_release, if_neg apart, hb'], same⟩

theorem bind {t : LeaseTable} (h : t.Faithful) (client : Mac) (addr : Ipv4) (expiresAt : Nat) :
    (t.bind client addr expiresAt).Faithful := by
  intro addr' m held
  rw [holder_bind] at held
  split at held
  · rename_i same
    obtain rfl := Option.some.inj held
    exact ⟨_, get?_bind_self t client addr expiresAt, same.symm⟩
  · obtain ⟨b, hb, same⟩ := h.release client addr' m held
    rw [get?_release] at hb
    split at hb
    · cases hb
    · rename_i apart
      exact ⟨b, by rw [get?_bind, if_neg apart, hb], same⟩

theorem run {t : LeaseTable} (h : t.Faithful) (calls : List Call) : (t.run calls).Faithful :=
  run_induction (fun _ client addr expiresAt ht => ht.bind client addr expiresAt)
    (fun _ client ht => ht.release client) h calls

end Faithful

/-! ### Takeovers -/

/-- A call binds a client to an address that another client is bound to. -/
def Takes (t : LeaseTable) : Call → Prop
  | .bind client addr _ => ∃ e ∈ t.byClient.entries, e.1 ≠ client ∧ e.2.addr = addr
  | .release _ | .expire _ => False

instance (t : LeaseTable) (call : Call) : Decidable (t.Takes call) :=
  match call with
  | .bind _ _ _ => inferInstanceAs (Decidable (∃ e ∈ _, _))
  | .release _ | .expire _ => inferInstanceAs (Decidable False)

theorem takes_bind_iff (t : LeaseTable) (client : Mac) (addr : Ipv4) (expiresAt : Nat) :
    t.Takes (.bind client addr expiresAt) ↔
      ∃ m b, t.get? m = some b ∧ m ≠ client ∧ b.addr = addr := by
  constructor
  · rintro ⟨⟨m, b⟩, bound, other, same⟩
    exact ⟨m, b, (Keyed.get?_eq_some_iff _ _ _).mpr bound, other, same⟩
  · rintro ⟨m, b, bound, other, same⟩
    exact ⟨(m, b), (Keyed.get?_eq_some_iff _ _ _).mp bound, other, same⟩

/-- None of some calls is a takeover. -/
def Undisputed (t : LeaseTable) : List Call → Prop
  | [] => True
  | call :: rest => ¬ t.Takes call ∧ (t.apply call).Undisputed rest

instance decidableUndisputed : (t : LeaseTable) → (calls : List Call) →
    Decidable (t.Undisputed calls)
  | _, [] => isTrue trivial
  | t, call :: rest =>
    have := decidableUndisputed (t.apply call) rest
    inferInstanceAs (Decidable (¬ t.Takes call ∧ (t.apply call).Undisputed rest))

/-- A call keeps the agreement of the indexes exactly if it is not a takeover. -/
theorem Consistent.apply_iff {t : LeaseTable} (h : t.Consistent) (call : Call) :
    (t.apply call).Consistent ↔ ¬ t.Takes call := by
  cases call with
  | bind client addr expiresAt =>
      rw [takes_bind_iff]
      constructor
      · -- two clients with one address would have to be one
        rintro agree ⟨m, b, hb, other, same⟩
        have theirs : (t.bind client addr expiresAt).get? m = some b := by
          rw [get?_bind, if_neg other, hb]
        exact other (agree.unique theirs (get?_bind_self t client addr expiresAt) same)
      · intro untaken
        refine h.bind expiresAt ?_
        intro m held
        obtain ⟨b, hb, same⟩ := (h.holder_iff addr m).mp held
        by_contra other
        exact untaken ⟨m, b, hb, other, same⟩
  | release client => exact ⟨fun _ => id, fun _ => h.release client⟩
  | expire now => exact ⟨fun _ => id, fun _ => h.expire now⟩

/-- The indexes agree all along exactly if no call is a takeover. -/
theorem Consistent.run_iff {t : LeaseTable} (h : t.Consistent) (calls : List Call) :
    (∀ pre, pre <+: calls → (t.run pre).Consistent) ↔ t.Undisputed calls := by
  induction calls generalizing t with
  | nil =>
      refine ⟨fun _ => trivial, fun _ pre none => ?_⟩
      rw [List.prefix_nil.mp none]
      exact h
  | cons call rest ih =>
      constructor
      · intro agree
        have next : (t.apply call).Consistent := agree [call] (List.prefix_append [call] rest)
        refine ⟨(h.apply_iff call).mp next, (ih next).mp ?_⟩
        intro pre early
        exact agree (call :: pre) (List.prefix_cons_iff.mpr (.inr ⟨pre, rfl, early⟩))
      · rintro ⟨untaken, undisputed⟩ pre early
        have next := (h.apply_iff call).mpr untaken
        rcases List.prefix_cons_iff.mp early with rfl | ⟨pre, rfl, within⟩
        · exact h
        · exact (ih next).mpr undisputed pre within

/-- An address may go to another client once it has been given back. -/
example : empty.Undisputed [.bind ⟨2, 0, 0, 0, 0, 10⟩ (.ofBytes 10 0 0 2) 1000,
    .release ⟨2, 0, 0, 0, 0, 10⟩, .bind ⟨2, 0, 0, 0, 0, 11⟩ (.ofBytes 10 0 0 2) 2000] := by
  decide

/-- **The three indexes.** Whatever is called on an empty table: the index of times lists exactly
the bindings, and the holder of an address is bound to it. The indexes describe the same bindings
all along exactly if no call is a takeover. In that case every client is the holder of the address
it is bound to, and no address that is found free has a client bound to it. -/
theorem indexes_agree_iff (calls : List Call) :
    let t := empty.run calls
    (t.Timed ∧ t.Faithful) ∧
    ((∀ pre, pre <+: calls → (empty.run pre).Consistent) ↔ empty.Undisputed calls) ∧
    (empty.Undisputed calls → (∀ m b, t.get? m = some b → t.holder b.addr = some m) ∧
      ∀ pool a, t.firstFree pool = some a → ∀ m b, t.get? m = some b → b.addr ≠ a) := by
  intro t
  have agreement := Consistent.empty.run_iff calls
  refine ⟨⟨Timed.empty.run calls, Faithful.empty.run calls⟩, agreement, ?_⟩
  intro undisputed
  have agree : t.Consistent := agreement.mpr undisputed calls List.prefix_rfl
  constructor
  · intro m b bound
    exact (agree.holder_iff b.addr m).mpr ⟨b, bound, rfl⟩
  · intro pool a found m b bound
    exact agree.addr_ne_of_firstFree found bound

/-- Two clients are bound to one address. When the time of the first is over, the search finds this
address free, though the second is bound to it still. -/
theorem taken_address_found_free :
    let first : Mac := ⟨2, 0, 0, 0, 0, 10⟩
    let second : Mac := ⟨2, 0, 0, 0, 0, 11⟩
    let addr := Ipv4.ofBytes 10 0 0 2
    let t := empty.run [.bind first addr 1000, .bind second addr 2000, .expire 1000]
    t.get? second = some ⟨addr, 2000⟩ ∧ t.holder addr = none ∧
      t.firstFree Server.hourPool = some addr ∧ ¬ t.Consistent := by
  intro first second addr t
  have bound : t.get? second = some ⟨addr, 2000⟩ := by decide
  have found : t.firstFree Server.hourPool = some addr := by decide
  exact ⟨bound, by decide, found, fun agree => agree.addr_ne_of_firstFree found bound rfl⟩

end LeaseTable

end WifiStation.Dhcp
