import WifiStation.Network

/-!
# WifiStation.Proofs.Publisher

The publisher of the network's state does not miss what its sources tell.

The publisher keeps a mark for each source: the version it has looked at last. `Marks` says what the
marks are worth, and `Follows` what has been published: it is what the sources say, unless a mark is
behind. A source that tells something puts its mark behind (`Follows.setLink`, `Follows.changeDhcp`),
and to publish is to look at both, so no mark is behind after it (`Marks.publish`). Hence a publisher
that finds nothing to do has published what the sources say now (`Follows.settled`).
-/

namespace WifiStation

open WifiStation.App WifiStation.Dhcp

/-! ### Sources -/

namespace Sources

/-- The client's status, as long as it has a source. -/
def status (s : Sources) : Option ClientStatus := (s.dhcp.filter Watch.isOpen).map Watch.value

def setLink (s : Sources) (state : LinkState) : Sources := { s with link := s.link.write state }

def setStatus (s : Sources) (status : ClientStatus) : Sources :=
  { s with dhcp := s.dhcp.map fun w => if w.isOpen then w.write status else w }

def closeDhcp (s : Sources) : Sources := { s with dhcp := s.dhcp.map Watch.close }

end Sources

namespace Publisher

/-- The marks are not ahead of the sources, and one is given up only when its source is gone. -/
structure Marks (p : Publisher) (s : Sources) : Prop where
  running : p.running = true
  link : p.linkSeen ≤ s.link.version
  dhcp : ∀ seen, p.dhcpSeen = some seen → ∃ w, s.dhcp = some w ∧ seen ≤ w.version
  gone : p.dhcpSeen = none → s.status = none

/-- What was published is what the sources say, unless a mark is behind. -/
structure Follows (p : Publisher) (s : Sources) : Prop extends Marks p s where
  current : p.linkSeen = s.link.version →
    (∀ seen w, p.dhcpSeen = some seen → s.dhcp = some w → seen = w.version) →
    p.network.value = networkState s.link.value (p.dhcpStatus s)

variable {p : Publisher} {s : Sources}

theorem Follows.current_of_none (h : p.Follows s) (none : p.dhcpSeen = none)
    (link : p.linkSeen = s.link.version) :
    p.network.value = networkState s.link.value .none := by
  have known := h.current link fun seen w hs => by rw [none] at hs; cases hs
  rw [known, Publisher.dhcpStatus, none]
  rfl

theorem Follows.current_of_some (h : p.Follows s) {w : Watch ClientStatus}
    (dhcp : p.dhcpSeen = some w.version) (hw : s.dhcp = some w)
    (link : p.linkSeen = s.link.version) :
    p.network.value = networkState s.link.value (some w.value) := by
  have known := h.current link fun seen w' hs hw' => by
    obtain rfl := Option.some.inj (hw.symm.trans hw')
    exact Option.some.inj (hs.symm.trans dhcp)
  rw [known, Publisher.dhcpStatus, dhcp, hw]
  rfl

theorem Marks.dhcpStatus (h : p.Marks s) :
    p.dhcpStatus s = s.dhcp.map Watch.value ∨ p.dhcpStatus s = none ∧ s.status = none := by
  rw [Publisher.dhcpStatus]
  cases hs : p.dhcpSeen with
  | none => exact .inr ⟨rfl, h.gone hs⟩
  | some seen => exact .inl rfl

theorem Marks.giveUp (h : p.Marks s) (gone : s.status = none) :
    Marks { p with dhcpSeen := none } s :=
  ⟨h.running, h.link, fun _ hs => (nomatch hs), fun _ => gone⟩

/-- To publish is to look at both sources, so no mark is behind after it. -/
theorem Marks.publish (h : p.Marks s) : (p.publish s).Follows s := by
  cases before : p.dhcpSeen with
  | none =>
      have after : (p.publish s).dhcpSeen = none := by simp [Publisher.publish, before]
      refine ⟨⟨h.running, Nat.le_refl _, ?_, fun _ => h.gone before⟩, ?_⟩
      · intro seen hs
        rw [after] at hs
        cases hs
      · intro _ _
        simp [Publisher.publish, Publisher.dhcpStatus, before]
  | some seen =>
      obtain ⟨w, hw, -⟩ := h.dhcp seen before
      have after : (p.publish s).dhcpSeen = some w.version := by
        simp [Publisher.publish, before, hw]
      refine ⟨⟨h.running, Nat.le_refl _, ?_, ?_⟩, ?_⟩
      · intro seen' hs
        obtain rfl := Option.some.inj (after.symm.trans hs)
        exact ⟨w, hw, Nat.le_refl _⟩
      · intro hs
        rw [after] at hs
        cases hs
      · intro _ _
        simp [Publisher.publish, Publisher.dhcpStatus, before, hw]

/-! What the sources do is noticed as a mark that is behind. -/

theorem Follows.setLink (h : p.Follows s) (state : LinkState) :
    p.Follows (s.setLink state) := by
  refine ⟨⟨h.running, Nat.le_succ_of_le h.link, h.dhcp, h.gone⟩, ?_⟩
  intro same
  exact absurd same (Nat.ne_of_lt (Nat.lt_succ_of_le h.link))

theorem Follows.changeDhcp (h : p.Follows s)
    {change : Watch ClientStatus → Watch ClientStatus}
    (later : ∀ w, w.version ≤ (change w).version)
    (told : ∀ w, (change w).version = w.version → (change w).value = w.value)
    (gone : ∀ w, w.isOpen = false → (change w).isOpen = false) :
    p.Follows { s with dhcp := s.dhcp.map change } := by
  refine ⟨⟨h.running, h.link, ?_, ?_⟩, ?_⟩
  · intro seen hs
    obtain ⟨w, hw, le⟩ := h.dhcp seen hs
    exact ⟨change w, by simp [hw], Nat.le_trans le (later w)⟩
  · intro hs
    have before := h.gone hs
    cases hd : s.dhcp with
    | none => rfl
    | some w =>
        cases ho : w.isOpen with
        | false => simp [Sources.status, gone w ho]
        | true => simp [Sources.status, hd, ho] at before
  · intro link dhcp
    cases hs : p.dhcpSeen with
    | none => simpa [Publisher.dhcpStatus, hs] using h.current_of_none hs link
    | some seen =>
        obtain ⟨w, hw, le⟩ := h.dhcp seen hs
        have upToDate : seen = (change w).version := dhcp seen (change w) hs (by simp [hw])
        have same : (change w).version = w.version :=
          Nat.le_antisymm (upToDate ▸ le) (later w)
        have known := h.current_of_some (hs.trans (by rw [upToDate, same])) hw link
        simpa [Publisher.dhcpStatus, hs, hw, told w same] using known

theorem Follows.setStatus (h : p.Follows s)
    (status : ClientStatus) : p.Follows (s.setStatus status) := by
  apply h.changeDhcp
  · intro w
    split
    · exact Nat.le_succ _
    · exact Nat.le_refl _
  · intro w
    split
    · intro same
      exact absurd same (Nat.succ_ne_self _)
    · exact fun _ => rfl
  · intro w closed
    simp [closed]

theorem Follows.closeDhcp (h : p.Follows s) :
    p.Follows s.closeDhcp :=
  h.changeDhcp (fun _ => Nat.le_refl _) (fun _ _ => rfl) fun _ _ => rfl

/-! ### Steps of the publisher -/

theorem stepLink_of_open (running : p.running = true)
    (linked : s.link.isOpen = true) :
    p.stepLink s = if s.link.version = p.linkSeen then none else some (p.publish s) := by
  rw [stepLink, if_pos running]
  split
  · rename_i found
    rw [if_neg ((Watch.poll_eq_changed_iff _ _).mp found)]
  · rename_i found
    have closed := ((Watch.poll_eq_closed_iff _ _).mp found).2
    rw [linked] at closed
    cases closed
  · rename_i found
    rw [if_pos ((Watch.poll_eq_pending_iff _ _).mp found).1]

/-- A source that is found to be gone is gone. -/
theorem status_of_closed (found : p.pollDhcp s = .closed) :
    s.status = none := by
  rw [pollDhcp] at found
  split at found
  · rename_i seen w _ hw
    simp [Sources.status, hw, ((Watch.poll_eq_closed_iff _ _).mp found).2]
  · cases found

/-- A step takes in both sources, and has perhaps given up the second one before. -/
theorem Marks.step {p' : Publisher} (h : p.Marks s)
    (linked : s.link.isOpen = true)
    (stepped : p.stepLink s = some p' ∨ p.stepDhcp s = some p') :
    ∃ q : Publisher, q.Marks s ∧ q.network = p.network ∧ p' = q.publish s := by
  rcases stepped with link | dhcp
  · rw [stepLink_of_open h.running linked] at link
    split at link
    · cases link
    · cases link
      exact ⟨p, h, rfl, rfl⟩
  · rw [stepDhcp, if_pos h.running] at dhcp
    split at dhcp
    · cases dhcp
      exact ⟨p, h, rfl, rfl⟩
    · rename_i found
      cases dhcp
      exact ⟨{ p with dhcpSeen := none }, h.giveUp (status_of_closed found), rfl, rfl⟩
    · cases dhcp

/-- After publishing, the end of the second source is all that is left to be noticed. -/
theorem Marks.stepDhcp_publish {p' : Publisher} (h : p.Marks s)
    (stepped : (p.publish s).stepDhcp s = some p') : p'.dhcpSeen = none := by
  have follows := h.publish
  rw [stepDhcp, if_pos follows.running] at stepped
  split at stepped
  · rename_i found
    rw [pollDhcp] at found
    split at found
    · rename_i seen w hs hw
      obtain ⟨_, -, here⟩ := Option.bind_eq_some_iff.mp hs
      rw [hw] at here
      cases here
      exact absurd rfl ((Watch.poll_eq_changed_iff _ _).mp found)
    · cases found
  · cases stepped
    rfl
  · cases stepped

theorem stepDhcp_of_none (h : p.dhcpSeen = none) (s : Sources) :
    p.stepDhcp s = none := by
  simp [stepDhcp, pollDhcp, h]

/-- A publisher that finds nothing has published what the sources say now. -/
theorem Follows.settled (h : p.Follows s)
    (linked : s.link.isOpen = true) (link : p.stepLink s = none) (dhcp : p.stepDhcp s = none) :
    p.network.value = networkState s.link.value s.status := by
  have upToDate : p.linkSeen = s.link.version := by
    rw [stepLink_of_open h.running linked] at link
    split at link
    · exact Eq.symm ‹_›
    · cases link
  cases hs : p.dhcpSeen with
  | none => rw [h.current_of_none hs upToDate, h.gone hs]
  | some seen =>
      obtain ⟨w, hw, -⟩ := h.dhcp seen hs
      have pending : w.poll seen = .pending := by
        rw [stepDhcp, if_pos h.running, pollDhcp, hs, hw] at dhcp
        split at dhcp
        · cases dhcp
        · cases dhcp
        · assumption
      obtain ⟨version, opened⟩ := (Watch.poll_eq_pending_iff _ _).mp pending
      have told : s.status = some w.value := by
        rw [Sources.status, hw, Option.filter_some, if_pos opened]
        rfl
      rw [h.current_of_some (hs.trans (by rw [version])) hw upToDate, told]

end Publisher

end WifiStation
