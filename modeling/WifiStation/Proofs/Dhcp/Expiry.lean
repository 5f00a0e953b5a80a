import WifiStation.Proofs.Dhcp.Takeover

/-!
# WifiStation.Proofs.Dhcp.Expiry

Expiring bindings, one turn after the other.

To expire a table at a time is a loop: look at the first expiry, stop if it is still ahead, release
its client, and look again. `Expires` is this loop with the number of its turns. A turn that
releases nobody leaves the table as it is, so a due expiry without a binding is never got past
(`not_expires_of_stray`), and whether the loop ends hangs on the index of times.

In a `Timed` table every expiry has its binding. Each turn then takes the first expiry away with the
binding it belongs to, and the loop ends after as many turns as it has released clients
(`Timed.expires`). The index is in order, so they are released in the order of their times.
-/

namespace WifiStation.Dhcp

open WifiStation.Net

namespace LeaseTable

/-! ### The loop -/

/-- One turn: the table without the client of the first expiry, and what was released; `none` if
no expiry is due. -/
def turn? (t : LeaseTable) (now : Nat) : Option (LeaseTable × Option (Mac × Ipv4)) :=
  match t.expiry with
  | [] => none
  | (time, client) :: _ =>
    if now < time then none
    else some ((t.release client).1, (t.release client).2.map (client, ·))

/-- The loop ends after a number of turns, with a table and with what was released in order. -/
inductive Expires (now : Nat) : Nat → LeaseTable → LeaseTable × List (Mac × Ipv4) → Prop
  | done {t : LeaseTable} (spent : t.turn? now = none) : Expires now 0 t (t, [])
  | turn {t t' : LeaseTable} {released : Option (Mac × Ipv4)} {turns : Nat}
      {r : LeaseTable × List (Mac × Ipv4)} (first : t.turn? now = some (t', released))
      (rest : Expires now turns t' r) : Expires now (turns + 1) t (r.1, released.toList ++ r.2)

theorem turn?_of_ahead {t : LeaseTable} {now : Nat}
    (ahead : ∀ first ∈ t.expiry.head?, now < first.1) : t.turn? now = none := by
  rw [turn?]
  cases he : t.expiry with
  | nil => rfl
  | cons first rest =>
      rw [he] at ahead
      exact if_pos (ahead first rfl)

theorem turn?_of_due {t : LeaseTable} {now : Nat} {first : Expiry} {rest : List Expiry}
    (he : t.expiry = first :: rest) (due : first.1 ≤ now) :
    t.turn? now = some ((t.release first.2).1, (t.release first.2).2.map (first.2, ·)) := by
  rw [turn?, he]
  exact if_neg (Nat.not_lt_of_le due)

/-- If nobody is bound for the first expiry and it is due, the loop never ends. -/
theorem not_expires_of_stray {t : LeaseTable} {now : Nat} {first : Expiry} {rest : List Expiry}
    (he : t.expiry = first :: rest) (due : first.1 ≤ now) (stray : t.get? first.2 = none)
    (turns : Nat) (r : LeaseTable × List (Mac × Ipv4)) : ¬ Expires now turns t r := by
  have again : t.turn? now = some (t, none) := by
    rw [turn?_of_due he due, release_of_none stray]
    rfl
  intro ends
  induction ends with
  | done spent => cases again.symm.trans spent
  | turn first _ ih =>
      -- the table after the turn is the table before it
      cases again.symm.trans first
      exact ih he stray again

/-- In a timed table the loop ends, and a client is released in every turn. -/
theorem Timed.expires {t : LeaseTable} (h : t.Timed) (now : Nat) :
    Expires now (t.expire now).2.length t (t.expire now) := by
  induction he : t.expiry generalizing t with
  | nil =>
      rw [expire_eq_loop h, he]
      exact .done (turn?_of_ahead (by simp [he]))
  | cons first rest ih =>
      obtain ⟨b, bound, -⟩ := (h.mem_expiry first.1 first.2).mp (by simp [he])
      rw [expire_eq_loop h, he]
      by_cases ahead : now < first.1
      · simp only [if_pos ahead]
        exact .done (turn?_of_ahead (by simpa [he] using ahead))
      · have released : (t.release first.2).2 = some b.addr := by rw [release_of_some bound]
        have turn := turn?_of_due he (Nat.le_of_not_lt ahead)
        rw [released] at turn
        simp only [if_neg ahead, released]
        exact .turn turn (ih (h.release first.2) (h.expiry_release he))

/-! ### What is released -/

/-- Different clients do not touch each other's bindings: all that had one are released, in the
order given. -/
theorem releaseAll_snd (t : LeaseTable) {clients : List Mac} (distinct : clients.Nodup) :
    (t.releaseAll clients).2 =
      clients.filterMap fun m => (t.get? m).map fun b => (m, b.addr) := by
  induction clients generalizing t with
  | nil => rfl
  | cons client rest ih =>
      obtain ⟨apart, distinct⟩ := List.nodup_cons.mp distinct
      have others :
          (rest.filterMap fun m => ((t.release client).1.get? m).map fun b => (m, b.addr)) =
            rest.filterMap fun m => (t.get? m).map fun b => (m, b.addr) := by
        refine List.filterMap_congr fun m hm => ?_
        have other : m ≠ client := fun same => apart (same ▸ hm)
        rw [get?_release, if_neg other]
      rw [List.filterMap_cons, ← others, ← ih _ distinct, releaseAll]
      cases hb : t.get? client with
      | none =>
          rw [release_of_none hb]
          rfl
      | some b =>
          rw [release_of_some hb]
          rfl

/-- The expiries that are due at a time. -/
def dueExpiries (t : LeaseTable) (now : Nat) : List Expiry := t.expiry.takeWhile (·.1 ≤ now)

namespace Timed

variable {t : LeaseTable} (h : t.Timed) (now : Nat)

include h

theorem ascending_dueExpiries : Expiry.Ascending (t.dueExpiries now) :=
  h.ascending.sublist (List.takeWhile_sublist _)

/-- An expiry that is due is that of a binding. -/
theorem binding_of_due {e : Expiry} (he : e ∈ t.dueExpiries now) :
    ∃ b, t.get? e.2 = some b ∧ b.expiresAt = e.1 :=
  (h.mem_expiry e.1 e.2).mp ((List.takeWhile_sublist _).subset he)

/-- No client is due twice. -/
theorem nodup_due : (t.due now).Nodup := by
  refine List.Nodup.map_on ?_ (h.ascending_dueExpiries now).nodup
  intro e he e' he' same
  obtain ⟨b, hb, time⟩ := h.binding_of_due now he
  obtain ⟨b', hb', time'⟩ := h.binding_of_due now he'
  rw [← same, hb] at hb'
  cases hb'
  exact Prod.ext (time.symm.trans time') same

/-- Released are the clients of the expiries that are due, in their order, each with the address of
its binding. -/
theorem expire_snd : (t.expire now).2 =
    (t.dueExpiries now).filterMap fun e => (t.get? e.2).map fun b => (e.2, b.addr) := by
  rw [LeaseTable.expire, releaseAll_snd t (h.nodup_due now), due, List.filterMap_map]
  rfl

theorem mem_expire_snd (client : Mac) (addr : Ipv4) :
    (client, addr) ∈ (t.expire now).2 ↔
      ∃ b, t.get? client = some b ∧ b.addr = addr ∧ b.expiresAt ≤ now := by
  rw [LeaseTable.expire, releaseAll_snd t (h.nodup_due now), List.mem_filterMap]
  constructor
  · rintro ⟨m, hm, pair⟩
    obtain ⟨b, hb, same⟩ := Option.map_eq_some_iff.mp pair
    obtain ⟨rfl, rfl⟩ := Prod.mk.inj same
    obtain ⟨b', hb', spent⟩ := (h.mem_due now m).mp hm
    rw [hb] at hb'
    cases hb'
    exact ⟨b, hb, rfl, spent⟩
  · rintro ⟨b, hb, rfl, spent⟩
    exact ⟨client, (h.mem_due now client).mpr ⟨b, hb, spent⟩, by rw [hb]; rfl⟩

/-- A client is released before another if its binding ends first, or at the same time and its
hardware address comes first. -/
theorem pairwise_expire_snd : (t.expire now).2.Pairwise fun x y =>
    ∃ b b', t.get? x.1 = some b ∧ t.get? y.1 = some b' ∧
      Expiry.before (b.expiresAt, x.1) (b'.expiresAt, y.1) = true := by
  rw [h.expire_snd now, List.pairwise_filterMap]
  refine List.Pairwise.imp_of_mem ?_ (h.ascending_dueExpiries now)
  intro e e' he he' ordered x hx y hy
  obtain ⟨b, hb, rfl⟩ := Option.map_eq_some_iff.mp hx
  obtain ⟨b', hb', rfl⟩ := Option.map_eq_some_iff.mp hy
  refine ⟨b, b', hb, hb', ?_⟩
  obtain ⟨_, hb₁, time⟩ := h.binding_of_due now he
  obtain ⟨_, hb₂, time'⟩ := h.binding_of_due now he'
  cases hb.symm.trans hb₁
  cases hb'.symm.trans hb₂
  rw [time, time']
  exact ordered

theorem lt_of_mem_expiry_expire {e : Expiry} (he : e ∈ (t.expire now).1.expiry) : now < e.1 := by
  obtain ⟨b, hb, time⟩ := ((h.expire now).mem_expiry e.1 e.2).mp he
  rw [← time]
  exact ((get?_expire_eq_some_iff h now e.2 b).mp hb).2

end Timed

/-! ### Any calls -/

/-- **Expiring is exact, and it ends.** Whatever was called on a table before, also if an address
was bound for several clients: at any time the loop ends, after a turn for each client it releases.
It releases exactly the clients whose bindings end at or before this time, each once and with the
address it was bound to, in the order of the times and at one time of the hardware addresses. All
other bindings are as they were, and every expiry that is left is still ahead. -/
theorem expire_exact (calls : List Call) (now : Nat) :
    let t := empty.run calls
    let r := t.expire now
    Expires now r.2.length t r ∧
    (∀ client addr, (client, addr) ∈ r.2 ↔
      ∃ b, t.get? client = some b ∧ b.addr = addr ∧ b.expiresAt ≤ now) ∧
    (r.2.map Prod.fst).Nodup ∧
    (r.2.Pairwise fun x y => ∃ b b', t.get? x.1 = some b ∧ t.get? y.1 = some b' ∧
      Expiry.before (b.expiresAt, x.1) (b'.expiresAt, y.1) = true) ∧
    (∀ client, r.1.get? client = (t.get? client).filter (now < ·.expiresAt)) ∧
    ∀ e ∈ r.1.expiry, now < e.1 := by
  intro t r
  have timed : t.Timed := Timed.empty.run calls
  have ordered := timed.pairwise_expire_snd now
  refine ⟨timed.expires now, timed.mem_expire_snd now, ?_, ordered, get?_expire timed now,
    fun _ he => timed.lt_of_mem_expiry_expire now he⟩
  -- who comes before another is not the other
  refine List.Pairwise.map _ ?_ ordered
  rintro x y ⟨b, b', hb, hb', before⟩ same
  rw [← same, hb] at hb'
  cases hb'
  rw [same] at before
  exact Expiry.not_before_self _ before

end LeaseTable

end WifiStation.Dhcp
