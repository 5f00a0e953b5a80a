import WifiStation.Proofs.Dhcp.ClientStep

/-!
# WifiStation.Proofs.Dhcp.LeaseTime

How long a client keeps a lease that nobody renews.

A client has no timer for the end of a lease. It has one for renewing it, after half the lease time,
and then one for each attempt to renew it; the lease goes when the attempts are used up. So what
bounds the time is not the lease but the settings: the wait before the renewal and an interval for
each attempt.

The owner of an `Attended` client serves every deadline when it falls due. Then the next deadline
always says how far the client has come, counted from the last ACK (`Keeps`), and time is never
ahead of it (`Timely`). The bound that follows is reached with every setting, so the lease time is
kept exactly with those settings for which the bound is within it (`lease_kept_until`).
-/

namespace WifiStation.Dhcp

open WifiStation.Net

namespace Client

/-! ### What the next deadline says -/

/-- The deadline `d` of a client that took the lease `l` at `grantedAt`: it waits for the renewal,
or for the answer to one of its attempts to renew. -/
def Keeps (c : Client) (l : Lease) (grantedAt d : Nat) : Prop :=
  c.phase = .configured ∧ d = grantedAt + renewalMs l ∨
    c.phase = .requesting ∧ c.attempts ≤ c.maxAttempts ∧
      d = grantedAt + renewalMs l + c.attempts * c.retransmitMs

/-- A client that missed no deadline so far, at a time. -/
structure Timely (c : Client) (now grantedAt : Nat) : Prop where
  ahead : ∀ d, c.deadline = some d → now ≤ d
  lease : ∀ l, c.lease = some l → ∃ d, c.deadline = some d ∧ c.Keeps l grantedAt d
  budget : 1 ≤ c.maxAttempts

/-- There is a lease only where it is in use or asked for again. -/
theorem Timely.lease_eq_none {c : Client} {now grantedAt : Nat} (h : c.Timely now grantedAt)
    (phase : c.phase = .idle ∨ c.phase = .discovering) : c.lease = none := by
  cases hl : c.lease with
  | none => rfl
  | some l =>
      obtain ⟨d, -, ⟨hp, -⟩ | ⟨hp, -⟩⟩ := h.lease l hl
      · rcases phase with phase | phase <;> cases phase.symm.trans hp
      · rcases phase with phase | phase <;> cases phase.symm.trans hp

/-- What is due is due at this very moment. -/
theorem Timely.eq_of_due {c : Client} {now grantedAt d : Nat} (h : c.Timely now grantedAt)
    (due : c.Due now) (hd : c.deadline = some d) : d = now := by
  have reached : d ≤ now := by simpa [Due, hd] using due
  exact Nat.le_antisymm reached (h.ahead d hd)

/-- A phase without a lease has its first deadline ahead. -/
theorem timely_beginPhase {c : Client} (budget : 1 ≤ c.maxAttempts) (gone : c.lease = none)
    (phase : Phase) (p : Packet) (now grantedAt : Nat) :
    (c.beginPhase phase p now).1.Timely now grantedAt := by
  refine ⟨fun d hd => ?_, fun l hl => ?_, budget⟩
  · cases hd
    exact Nat.le_add_right now c.retransmitMs
  · cases gone.symm.trans hl

/-- An input comes at a time, if it says when it comes. -/
def Input.IsAt (now : Nat) : Input → Prop
  | .start _ _ t _ | .packet _ t _ | .timeout t _ => t = now
  | .stop | .failure => True

/-- An input at the present moment keeps a client timely; if it makes the client configure an
address, the lease counts from now. -/
theorem Change.timely {c : Client} {input : Input} {r : Client × List Action}
    (h : Change c input r) {now grantedAt : Nat} (present : input.IsAt now)
    (hc : c.Timely now grantedAt) :
    r.1.Timely now (if r.2.any Action.isConfigure then now else grantedAt) := by
  cases h with
  | started ifindex mac t fresh idle =>
      cases present
      exact timely_beginPhase (c := { c with ifindex, mac, xid := fresh }) hc.budget
        (hc.lease_eq_none (.inl idle)) _ _ _ _
  | running => exact hc
  | stopped => exact ⟨fun d hd => (nomatch hd), fun l hl => (nomatch hl), hc.budget⟩
  | resting => exact hc
  | failed => exact ⟨hc.ahead, hc.lease, hc.budget⟩
  | offered p t fresh server hears phase =>
      cases present
      exact timely_beginPhase (c := { c with xid := fresh }) hc.budget
        (hc.lease_eq_none (.inr phase)) _ _ _ _
  | leased p t fresh hears phase kind =>
      cases present
      refine ⟨fun d hd => ?_, fun l hl => ?_, hc.budget⟩
      · cases hd
        exact Nat.le_add_right _ _
      · cases hl
        exact ⟨_, rfl, .inl ⟨rfl, rfl⟩⟩
  | refused p t fresh =>
      cases present
      exact timely_beginPhase (c := { c.dropLease.1 with xid := fresh }) hc.budget rfl _ _ _ _
  | ignored => exact hc
  | renewed t fresh lease due phase has =>
      cases present
      obtain ⟨d, hd, ⟨-, rfl⟩ | ⟨hp, -⟩⟩ := hc.lease lease has
      · refine ⟨fun d' hd' => ?_, fun l hl => ?_, hc.budget⟩
        · cases hd'
          exact Nat.le_add_right _ _
        · -- the first attempt begins when the lease is to be renewed
          have same : lease = l := Option.some.inj (has.symm.trans hl)
          have moment := hc.eq_of_due due hd
          refine ⟨_, rfl, .inr ⟨rfl, hc.budget, ?_⟩⟩
          change now + c.retransmitMs = grantedAt + renewalMs l + 1 * c.retransmitMs
          rw [← same, moment, Nat.one_mul]
      · cases phase.symm.trans hp
  | resent t fresh due phase left =>
      cases present
      have quiet : (c.outstanding.map Action.send).toList.any Action.isConfigure = false := by
        cases c.outstanding <;> rfl
      rw [quiet]
      refine ⟨fun d hd => ?_, fun l hl => ?_, hc.budget⟩
      · cases hd
        exact Nat.le_add_right _ _
      · -- one attempt more, one interval later
        obtain ⟨d, hd, ⟨hp, -⟩ | ⟨hp, -, rfl⟩⟩ := hc.lease l hl
        · rcases phase with phase | phase <;> cases phase.symm.trans hp
        · have moment := hc.eq_of_due due hd
          refine ⟨_, rfl, .inr ⟨hp, left, ?_⟩⟩
          change now + c.retransmitMs =
            grantedAt + renewalMs l + (c.attempts + 1) * c.retransmitMs
          rw [Nat.succ_mul, ← Nat.add_assoc, moment]
  | gaveUp => exact ⟨fun d hd => (nomatch hd), fun l hl => (nomatch hl), hc.budget⟩
  | waiting => exact hc

/-- The settings of a client stay. -/
theorem Change.settings {c : Client} {input : Input} {r : Client × List Action}
    (h : Change c input r) :
    r.1.maxAttempts = c.maxAttempts ∧ r.1.retransmitMs = c.retransmitMs := by
  cases h <;> exact ⟨rfl, rfl⟩

end Client

/-! ### Attended clients -/

/-- A client with a clock, and when it took its last lease. It configures an address exactly when
it accepts an ACK (`Client.Change.lease`). -/
structure Attended where
  client : Client
  now : Nat
  grantedAt : Nat

namespace Attended

/-- What can happen to a client. -/
inductive Event where
  /-- Time passes, but not past a deadline: its owner serves it first. -/
  | wait (ms : Nat)
  | start (ifindex : UInt32) (mac : Mac) (fresh : UInt32)
  | stop
  | failure
  | packet (p : Packet) (fresh : UInt32)
  | timeout (fresh : UInt32)

/-- A client to which nothing has happened. -/
def new (maxAttempts retransmitMs now : Nat) : Attended :=
  ⟨.new maxAttempts retransmitMs, now, now⟩

/-- Takes an input. -/
def take (w : Attended) (input : Client.Input) : Attended :=
  let r := w.client.step input
  { w with
    client := r.1
    grantedAt := if r.2.any Action.isConfigure then w.now else w.grantedAt }

/-- One event. -/
def step (w : Attended) : Event → Attended
  | .wait ms => { w with now := w.client.deadline.elim (w.now + ms) (min (w.now + ms)) }
  | .start ifindex mac fresh => w.take (.start ifindex mac w.now fresh)
  | .stop => w.take .stop
  | .failure => w.take .failure
  | .packet p fresh => w.take (.packet p w.now fresh)
  | .timeout fresh => w.take (.timeout w.now fresh)

/-- Any number of events. -/
def run (w : Attended) (events : List Event) : Attended := events.foldl step w

theorem run_append (w : Attended) (events more : List Event) :
    w.run (events ++ more) = (w.run events).run more :=
  List.foldl_append

/-- The client has missed no deadline, and its settings are the given ones. -/
structure Sound (w : Attended) (attempts retransmitMs : Nat) : Prop where
  timely : w.client.Timely w.now w.grantedAt
  attempts : w.client.maxAttempts = attempts
  retransmit : w.client.retransmitMs = retransmitMs

theorem sound_new (maxAttempts retransmitMs now : Nat) :
    (new maxAttempts retransmitMs now).Sound (max maxAttempts 1) retransmitMs where
  timely := ⟨fun _ hd => (nomatch hd), fun _ hl => (nomatch hl), Nat.le_max_right _ _⟩
  attempts := rfl
  retransmit := rfl

theorem Sound.take {w : Attended} {attempts retransmitMs : Nat}
    (h : w.Sound attempts retransmitMs) {input : Client.Input} (present : input.IsAt w.now) :
    (w.take input).Sound attempts retransmitMs := by
  have change := w.client.step_change input
  obtain ⟨attempts, retransmit⟩ := change.settings
  exact ⟨change.timely present h.timely, attempts.trans h.attempts,
    retransmit.trans h.retransmit⟩

/-- Every event keeps an attended client timely. -/
theorem Sound.step {w : Attended} {attempts retransmitMs : Nat}
    (h : w.Sound attempts retransmitMs) (event : Event) :
    (w.step event).Sound attempts retransmitMs := by
  cases event with
  | wait ms =>
      refine ⟨⟨fun d hd => ?_, h.timely.lease, h.timely.budget⟩, h.attempts, h.retransmit⟩
      change w.client.deadline = some d at hd
      change w.client.deadline.elim (w.now + ms) (min (w.now + ms)) ≤ d
      rw [hd]
      exact Nat.min_le_right _ _
  | start ifindex mac fresh => exact h.take rfl
  | stop => exact h.take trivial
  | failure => exact h.take trivial
  | packet p fresh => exact h.take rfl
  | timeout fresh => exact h.take rfl

theorem Sound.run {w : Attended} {attempts retransmitMs : Nat}
    (h : w.Sound attempts retransmitMs) (events : List Event) :
    (w.run events).Sound attempts retransmitMs := by
  induction events generalizing w with
  | nil => exact h
  | cons event rest ih => exact ih (h.step event)

/-- A timely client gives its lease up before the last attempt has gone unanswered. -/
theorem Sound.now_le {w : Attended} {attempts retransmitMs : Nat}
    (h : w.Sound attempts retransmitMs) {l : Lease} (hl : w.client.lease = some l) :
    w.now ≤ w.grantedAt + Client.renewalMs l + attempts * retransmitMs := by
  -- the next deadline is not behind, and no later than after the last attempt
  obtain ⟨d, hd, keeps⟩ := h.timely.lease l hl
  have ahead := h.timely.ahead d hd
  rcases keeps with ⟨-, rfl⟩ | ⟨-, within, rfl⟩
  · exact Nat.le_trans ahead (Nat.le_add_right _ _)
  · rw [h.attempts] at within
    rw [h.retransmit] at ahead
    exact Nat.le_trans ahead (Nat.add_le_add_left (Nat.mul_le_mul_right _ within) _)

/-! ### The bound is reached -/

/-- The client asks for its lease `l` again, for the `attempts`-th time, until `d`. -/
structure Renewing (w : Attended) (l : Lease) (attempts d : Nat) : Prop where
  phase : w.client.phase = .requesting
  lease : w.client.lease = some l
  attempts : w.client.attempts = attempts
  deadline : w.client.deadline = some d
  ahead : w.now ≤ d

/-- Two states of one client under one lease. -/
structure SameLease (w w' : Attended) : Prop where
  grantedAt : w'.grantedAt = w.grantedAt
  maxAttempts : w'.client.maxAttempts = w.client.maxAttempts
  retransmitMs : w'.client.retransmitMs = w.client.retransmitMs

/-- Waiting for a deadline, and serving it. -/
def serve (w : Attended) (d : Nat) : List Event := [.wait (d - w.now), .timeout 0]

/-- Waiting leads to the deadline. -/
theorem step_wait {w : Attended} {d : Nat} (hd : w.client.deadline = some d)
    (ahead : w.now ≤ d) : w.step (.wait (d - w.now)) = { w with now := d } := by
  rw [step, hd]
  simp only [Option.elim_some, Nat.add_sub_cancel' ahead, Nat.min_self]

theorem run_serve {w : Attended} {d : Nat} (hd : w.client.deadline = some d)
    (ahead : w.now ≤ d) : w.run (w.serve d) = { w with now := d }.take (.timeout d 0) := by
  change (w.step (.wait (d - w.now))).step (.timeout 0) = _
  rw [step_wait hd ahead]
  rfl

/-- A lease that is to be renewed is asked for again. -/
theorem renewing_serve {w : Attended} {l : Lease} {d : Nat} (phase : w.client.phase = .configured)
    (lease : w.client.lease = some l) (hd : w.client.deadline = some d) (ahead : w.now ≤ d) :
    (w.run (w.serve d)).Renewing l 1 (d + w.client.retransmitMs) ∧
      w.SameLease (w.run (w.serve d)) := by
  have asks : w.client.step (.timeout d 0) = w.client.request l.addr l.serverId d 0 := by
    simp [Client.step, Client.handleTimeout, hd, phase, lease]
  rw [run_serve hd ahead, take, asks]
  exact ⟨⟨rfl, lease, rfl, rfl, Nat.le_add_right _ _⟩, rfl, rfl, rfl⟩

/-- An attempt that nobody answers is followed by the next one. -/
theorem Renewing.next {w : Attended} {l : Lease} {attempts d : Nat}
    (h : w.Renewing l attempts d) (left : attempts < w.client.maxAttempts) :
    (w.run (w.serve d)).Renewing l (attempts + 1) (d + w.client.retransmitMs) ∧
      w.SameLease (w.run (w.serve d)) := by
  have again : w.client.step (.timeout d 0) =
      ({ w.client with
          attempts := w.client.attempts + 1
          deadline := some (d + w.client.retransmitMs) },
        (w.client.outstanding.map Action.send).toList) := by
    have unspent : ¬ w.client.maxAttempts ≤ w.client.attempts := by
      rw [h.attempts]
      exact Nat.not_le_of_lt left
    simp [Client.step, Client.handleTimeout, h.deadline, h.phase, Client.retry, unspent]
  have quiet : (w.client.outstanding.map Action.send).toList.any Action.isConfigure = false := by
    cases w.client.outstanding <;> rfl
  rw [run_serve h.deadline h.ahead, take, again, quiet]
  exact ⟨⟨h.phase, h.lease, congrArg Nat.succ h.attempts, rfl, Nat.le_add_right _ _⟩, rfl, rfl, rfl⟩

/-- As many attempts as are left can go unanswered, and the lease is still there when the last of
them falls due. -/
theorem Renewing.held {l : Lease} (left : Nat) {w : Attended} {attempts d : Nat}
    (h : w.Renewing l attempts d) (within : attempts + left ≤ w.client.maxAttempts) :
    ∃ events, (w.run events).client.lease = some l ∧
      (w.run events).grantedAt = w.grantedAt ∧
      (w.run events).now = d + left * w.client.retransmitMs := by
  induction left generalizing w attempts d with
  | zero =>
      -- the last attempt is waited for but not served: the lease is there until then
      refine ⟨[.wait (d - w.now)], ?_⟩
      have due : w.run [.wait (d - w.now)] = { w with now := d } := step_wait h.deadline h.ahead
      rw [due, Nat.zero_mul]
      exact ⟨h.lease, rfl, rfl⟩
  | succ left ih =>
      obtain ⟨renewing, same⟩ := h.next (by omega)
      obtain ⟨rest, lease, granted, moment⟩ :=
        ih renewing (by rw [same.maxAttempts]; omega)
      refine ⟨w.serve d ++ rest, ?_⟩
      rw [run_append]
      refine ⟨lease, granted.trans same.grantedAt, ?_⟩
      rw [moment, same.retransmitMs, Nat.succ_mul, Nat.add_assoc,
        Nat.add_comm w.client.retransmitMs]

/-- An OFFER in transaction 0. -/
def offer : Packet := .replyTo (.ofClient .discover 0 .zero) .offer (.ofBytes 10 0 0 1)

/-- An ACK in transaction 0, for a lease time. -/
def grant (secs : UInt32) : Packet :=
  let p := Packet.replyTo (.ofClient .request 0 .zero) .ack (.ofBytes 10 0 0 1)
  { p with options := { p.options with leaseSecs := some secs } }

/-- A client starts and is answered at once. -/
def acquire (secs : UInt32) : List Event :=
  [.start 5 .zero 0, .packet offer 0, .packet (grant secs) 0]

/-- With all settings and for every lease time there is a run in which a lease is kept for as long
as the settings allow. -/
theorem exists_held (maxAttempts retransmitMs : Nat) (secs : UInt32) :
    ∃ events l, let w := (new maxAttempts retransmitMs 0).run events
      w.client.lease = some l ∧ l.leaseSecs = secs ∧
      w.now = w.grantedAt + Client.renewalMs l + max maxAttempts 1 * retransmitMs := by
  let w := (new maxAttempts retransmitMs 0).run (acquire secs)
  let l := Client.leaseOf (grant secs)
  have due : w.client.deadline = some (Client.renewalMs l) := congrArg some (Nat.zero_add _)
  have most : w.client.maxAttempts = max maxAttempts 1 := rfl
  have interval : w.client.retransmitMs = retransmitMs := rfl
  have granted : w.grantedAt = 0 := rfl
  obtain ⟨renewing, same⟩ := renewing_serve (w := w) (l := l) rfl rfl due (Nat.zero_le _)
  -- the first attempt is made already
  obtain ⟨rest, lease, granted', moment⟩ := renewing.held (max maxAttempts 1 - 1) (by
    rw [same.maxAttempts, most]
    omega)
  refine ⟨acquire secs ++ (w.serve (Client.renewalMs l) ++ rest), l, ?_⟩
  rw [run_append, run_append]
  refine ⟨lease, rfl, ?_⟩
  have count : max maxAttempts 1 = (max maxAttempts 1 - 1) + 1 := by omega
  rw [moment, granted', same.grantedAt, same.retransmitMs, granted, interval, Nat.zero_add,
    Nat.add_assoc, count, Nat.add_sub_cancel, Nat.succ_mul, Nat.add_comm retransmitMs]

/-! ### The lease time -/

/-- However a client is used, if its owner serves every deadline when it falls due, a lease is kept
at most for the wait before its renewal and an interval for each attempt, counted from the last ACK.
For a lease time, this is within it exactly if it is within it in every run. -/
theorem lease_kept_until (maxAttempts retransmitMs : Nat) :
    (∀ start events l, let w := (new maxAttempts retransmitMs start).run events
      w.client.lease = some l →
        w.now ≤ w.grantedAt + Client.renewalMs l + max maxAttempts 1 * retransmitMs) ∧
    ∀ secs : UInt32,
      (∀ start events l, let w := (new maxAttempts retransmitMs start).run events
        w.client.lease = some l → l.leaseSecs = secs →
          w.now ≤ w.grantedAt + secs.toNat * 1000) ↔
      max (secs.toNat / 2) 1 * 1000 + max maxAttempts 1 * retransmitMs ≤ secs.toNat * 1000 := by
  have bound : ∀ start events l, let w := (new maxAttempts retransmitMs start).run events
      w.client.lease = some l →
        w.now ≤ w.grantedAt + Client.renewalMs l + max maxAttempts 1 * retransmitMs :=
    fun start events _ hl => ((sound_new maxAttempts retransmitMs start).run events).now_le hl
  refine ⟨bound, fun secs => ⟨fun kept => ?_, fun enough start events l => ?_⟩⟩
  · obtain ⟨events, l, lease, hsecs, moment⟩ := exists_held maxAttempts retransmitMs secs
    have within := kept 0 events l lease hsecs
    rw [moment, Client.renewalMs, hsecs] at within
    omega
  · intro w lease hsecs
    have within := bound start events l lease
    rw [Client.renewalMs, hsecs] at within
    change w.now ≤ w.grantedAt + _ + _ at within
    omega

/-- With four attempts, three seconds apart, a lease of 24 seconds is never kept too long, but one
of 22 seconds can be. -/
theorem lease_kept_until_four_attempts :
    (∀ start events l, let w := (new 4 3000 start).run events
      w.client.lease = some l → l.leaseSecs = 24 → w.now ≤ w.grantedAt + 24000) ∧
    ¬ ∀ start events l, let w := (new 4 3000 start).run events
      w.client.lease = some l → l.leaseSecs = 22 → w.now ≤ w.grantedAt + 22000 := by
  obtain ⟨-, exactly⟩ := lease_kept_until 4 3000
  exact ⟨(exactly 24).mpr (by decide), fun kept => absurd ((exactly 22).mp kept) (by decide)⟩

/-- A lease of ten seconds, after eleven: two attempts to renew it have gone unanswered, and the
third is just made. -/
theorem lease_outlived :
    let w := (new 4 3000 0).run (acquire 10 ++
      [.wait 5000, .timeout 0, .wait 3000, .timeout 0, .wait 3000, .timeout 0])
    w.client.lease.map Lease.leaseSecs = some 10 ∧ w.grantedAt = 0 ∧ w.now = 11000 := by
  decide

end Attended

end WifiStation.Dhcp
