import Mathlib.Data.List.Induction
import WifiStation.Proofs.Dhcp.Transactions

/-!
# WifiStation.Proofs.Dhcp.RetryBudget

How often a packet is sent again, and what happens when it has been sent often enough.

A phase begins with a packet that is sent for the first time and lasts until a moment that
`Moment.Ends` it. Along it the client keeps a `Round`: the times at which the packet went out are as
many as its attempts and lie the retransmit interval apart, and so does the deadline behind the last
of them. As long as there is a deadline, one more packet has been sent than deadlines were served;
the deadline served last sends nothing and is the end of the timer. So the number of deadlines
served says how many packets were sent (`Round.length_eq`) and whether the timer still runs
(`Round.stuck_iff`).

A client that has given up has no deadline, and only a packet that it heeds, or to be stopped and
started, gives it another (`still_run`).
-/

namespace WifiStation.Dhcp

open WifiStation.Net

namespace Client

/-! ### Phases -/

/-- The time at which an input comes, where it comes with one. -/
def Input.now? : Input → Option Nat
  | .start _ _ now _ | .packet _ now _ | .timeout now _ => some now
  | .stop | .failure => none

namespace Moment

/-- The packets that are sent, with the time. -/
def sentAt (m : Moment) : List (Option Nat × Packet) := m.sent.map (m.input.now?, ·)

/-- The phase is over: another packet is sent for the first time, the client is configured, or it
is stopped. -/
def Ends (m : Moment) : Prop :=
  m.opened ≠ [] ∨ m.result.1.phase = .configured ∨ m.input = .stop

instance (m : Moment) : Decidable m.Ends := inferInstanceAs (Decidable (_ ∨ _))

/-- A deadline is served. -/
def serves (m : Moment) : Bool :=
  match m.input with
  | .timeout now _ => m.before.deadline.any (· ≤ now)
  | _ => false

end Moment

/-- Somewhere the client is stopped, and started after that. -/
def Restarts (inputs : List Input) : Prop :=
  ∃ before after ifindex mac now fresh,
    inputs = before ++ .stop :: after ∧ .start ifindex mac now fresh ∈ after

/-- A client whose phase began with a packet: the times at which the packet was sent, and how many
deadlines were served since. -/
structure Round (c : Client) (q : Packet) (times : List Nat) (served : Nat) : Prop where
  shape : c.Shape
  phase : c.Negotiating
  kept : c.outstanding = some q
  tried : c.attempts = times.length
  spaced : times.Pairwise fun t t' => t + c.retransmitMs ≤ t'
  /-- There is something to do: later than the packet was sent last. -/
  timer : ∀ d, c.deadline = some d →
    c.attempts = served + 1 ∧ ∀ t ∈ times, t + c.retransmitMs ≤ d
  /-- The last deadline sent nothing. -/
  stuck : c.deadline = none → c.attempts = served

namespace Round

variable {c : Client} {q : Packet} {times : List Nat} {served : Nat}

theorem waits (h : c.Round q times served) : c.Waits q := by
  obtain ⟨p, waits⟩ := h.shape.of_negotiating h.phase
  cases h.kept.symm.trans waits.outstanding
  exact waits

theorem budget (h : c.Round q times served) : 1 ≤ c.maxAttempts :=
  Nat.le_trans h.waits.tried h.waits.within

theorem served_le (h : c.Round q times served) : served ≤ c.maxAttempts := by
  have within := h.waits.within
  cases timer : c.deadline with
  | none => exact h.stuck timer ▸ within
  | some d =>
      rw [(h.timer d timer).1] at within
      exact Nat.le_of_succ_le within

/-- The timer is off when as many deadlines were served as there are attempts. -/
theorem stuck_iff (h : c.Round q times served) :
    c.deadline = none ↔ served = c.maxAttempts := by
  cases timer : c.deadline with
  | none => exact iff_of_true rfl ((h.stuck timer).symm.trans (h.waits.stuck timer).2.1)
  | some d =>
      have within := h.waits.within
      rw [(h.timer d timer).1] at within
      exact iff_of_false (fun none => nomatch none) (Nat.ne_of_lt within)

/-- The packet has been sent once, and once more for each deadline served but the last. -/
theorem length_eq (h : c.Round q times served) :
    times.length = min c.maxAttempts (served + 1) := by
  rw [← h.tried]
  cases timer : c.deadline with
  | none =>
      have spent := (h.waits.stuck timer).2.1
      rw [← h.stuck timer, ← spent, Nat.min_eq_left (Nat.le_succ _)]
  | some d =>
      rw [← (h.timer d timer).1, Nat.min_eq_right h.waits.within]

end Round

theorem exists_deadline {c : Client} {now : Nat} (due : c.Due now) :
    ∃ d, c.deadline = some d ∧ d ≤ now := by
  rw [Due] at due
  cases timer : c.deadline with
  | none =>
      rw [timer] at due
      cases due
  | some d =>
      rw [timer] at due
      exact ⟨d, rfl, of_decide_eq_true due⟩

theorem Moment.serves_of_due {c : Client} {now : Nat} (due : c.Due now) {fresh : UInt32}
    {r : Client × List Action} : (⟨c, .timeout now fresh, r⟩ : Moment).serves = true := due

/-- A packet that is not the one awaited so far ends the phase. -/
theorem Moment.ends_of_sent {m : Moment} {q : Packet} (sent : m.sent = [q])
    (new : m.before.outstanding ≠ some q) : m.Ends := by
  refine .inl (List.ne_nil_of_mem (List.mem_filter.mpr ⟨?_, decide_eq_true new⟩))
  rw [sent]
  exact List.mem_singleton_self q

/-! ### How a phase begins -/

theorem round_beginPhase {c : Client} {phase : Phase} {q : Packet} {now : Nat}
    (shape : (c.beginPhase phase q now).1.Shape)
    (waits : (c.beginPhase phase q now).1.Negotiating) :
    (c.beginPhase phase q now).1.Round q [now] 0 where
  shape := shape
  phase := waits
  kept := rfl
  tried := rfl
  spaced := List.pairwise_singleton _ _
  timer d timer := by
    cases timer
    exact ⟨rfl, fun t ht => Nat.le_of_eq (congrArg (· + _) (List.mem_singleton.mp ht))⟩
  stuck none := nomatch none

/-- A packet that is sent for the first time is sent once, and begins a round. -/
theorem Change.opens {c : Client} {input : Input} {r : Client × List Action}
    (h : Change c input r) (budget : 1 ≤ c.maxAttempts) (shape : c.Shape) {q : Packet}
    (opens : q ∈ (⟨c, input, r⟩ : Moment).opened) :
    ∃ now, (⟨c, input, r⟩ : Moment).sentAt = [(some now, q)] ∧ r.1.Round q [now] 0 := by
  have shape' := h.shape budget shape
  obtain ⟨sent, new⟩ := List.mem_filter.mp opens
  cases h with
  | started ifindex mac now fresh =>
      cases List.mem_singleton.mp sent
      exact ⟨now, rfl, round_beginPhase shape' (.inl rfl)⟩
  | offered p now fresh server =>
      cases List.mem_singleton.mp sent
      exact ⟨now, rfl, round_beginPhase shape' (.inr rfl)⟩
  | refused p now fresh =>
      rw [Moment.sent, sent_refused] at sent
      cases List.mem_singleton.mp sent
      refine ⟨now, ?_, round_beginPhase shape' (.inl rfl)⟩
      rw [Moment.sentAt, Moment.sent, sent_refused]
      rfl
  | renewed now fresh lease =>
      cases List.mem_singleton.mp sent
      exact ⟨now, rfl, round_beginPhase shape' (.inr rfl)⟩
  | resent now fresh due phase =>
      obtain ⟨p, waits⟩ := shape.of_negotiating phase
      rw [Moment.sent, waits.outstanding] at sent
      cases List.mem_singleton.mp sent
      exact absurd waits.outstanding (of_decide_eq_true new)
  | gaveUp =>
      rw [Moment.sent, sent_dropLease] at sent
      cases sent
  | running | stopped | resting | failed | leased | ignored | waiting => cases sent

/-! ### How a phase goes on -/

namespace Round

variable {c : Client} {q : Packet} {times : List Nat} {served : Nat}

/-- Nothing is sent, and no deadline was served. -/
theorem idles {c' : Client} (h : c'.Round q times served) {m : Moment} (sent : m.sent = [])
    (serves : m.serves = false) :
    ∃ more, m.sentAt = more.map (some ·, q) ∧
      c'.Round q (times ++ more) (served + if m.serves then 1 else 0) := by
  refine ⟨[], by rw [Moment.sentAt, sent]; rfl, ?_⟩
  rw [List.append_nil, serves]
  exact h

/-- What an input does to a round that it does not end: it serves the deadline if it is due, and
that sends the packet once more or is the end of the timer. -/
theorem next (h : c.Round q times served) {input : Input} {r : Client × List Action}
    (change : Change c input r) (goesOn : ¬ (⟨c, input, r⟩ : Moment).Ends) :
    ∃ more, (⟨c, input, r⟩ : Moment).sentAt = more.map (some ·, q) ∧
      r.1.Round q (times ++ more)
        (served + if (⟨c, input, r⟩ : Moment).serves then 1 else 0) := by
  have shape := change.shape h.budget h.shape
  cases change with
  | started _ _ _ _ idle => exact absurd h.phase (not_negotiating (.inl idle))
  | running | ignored => exact h.idles rfl rfl
  | stopped | resting => exact absurd (.inr (.inr rfl)) goesOn
  | failed =>
      have same : c.reportFailure.Round q times served :=
        ⟨shape, h.phase, h.kept, h.tried, h.spaced, h.timer, h.stuck⟩
      exact same.idles rfl rfl
  -- an answer that is heeded opens the next phase or configures the client
  | offered p now fresh server hears phase =>
      refine (goesOn (Moment.ends_of_sent rfl ?_)).elim
      exact h.shape.outstanding_ne rfl phase (by decide)
  | leased => exact absurd (.inr (.inl rfl)) goesOn
  | refused p now fresh hears phase =>
      refine (goesOn (Moment.ends_of_sent (sent_refused c now fresh) ?_)).elim
      exact h.shape.outstanding_ne rfl phase (by decide)
  | renewed _ _ _ _ phase => exact absurd h.phase (not_negotiating (.inr phase))
  | resent now fresh due =>
      obtain ⟨d, timer, early⟩ := exists_deadline due
      obtain ⟨attempts, gap⟩ := h.timer d timer
      refine ⟨[now], ?_, shape, h.phase, h.kept, ?_, ?_, ?_,
        fun none => absurd none (Option.some_ne_none _)⟩
      · rw [Moment.sentAt, Moment.sent, h.kept]
        rfl
      · rw [List.length_append, ← h.tried]
        rfl
      · -- all times are the interval before the deadline, and the deadline is not before now
        refine List.pairwise_append.mpr ⟨h.spaced, List.pairwise_singleton _ _, ?_⟩
        intro t ht t' ht'
        rw [List.mem_singleton.mp ht']
        exact Nat.le_trans (gap t ht) early
      · intro d' timer'
        cases timer'
        rw [if_pos (Moment.serves_of_due due)]
        refine ⟨congrArg (· + 1) attempts, fun t ht => Nat.add_le_add_right ?_ _⟩
        rcases List.mem_append.mp ht with old | new
        · exact Nat.le_trans (Nat.le_trans (Nat.le_add_right _ _) (gap t old)) early
        · exact Nat.le_of_eq (List.mem_singleton.mp new)
  | gaveUp now fresh due phase spent =>
      obtain ⟨d, timer, -⟩ := exists_deadline due
      refine ⟨[], ?_, ?_⟩
      · rw [Moment.sentAt, Moment.sent, sent_dropLease]
        rfl
      rw [List.append_nil, if_pos (Moment.serves_of_due due)]
      exact ⟨shape, h.phase, h.kept, h.tried, h.spaced,
        fun _ some => absurd some.symm (Option.some_ne_none _), fun _ => (h.timer d timer).1⟩
  | waiting now fresh calm =>
      refine h.idles rfl (Bool.eq_false_iff.mpr fun due => ?_)
      rcases calm due with idle | ⟨configured, -⟩
      · exact absurd h.phase (not_negotiating (.inl idle))
      · exact absurd h.phase (not_negotiating (.inr configured))

/-- A whole phase, or any part of it from its beginning. -/
theorem run (h : c.Round q times served) (inputs : List Input)
    (goesOn : ∀ m ∈ c.history inputs, ¬ m.Ends) :
    ∃ more, (c.history inputs).flatMap Moment.sentAt = more.map (some ·, q) ∧
      (c.run inputs).1.Round q (times ++ more)
        (served + (c.history inputs).countP Moment.serves) := by
  induction inputs generalizing c times served with
  | nil => exact ⟨[], rfl, by rwa [List.append_nil]⟩
  | cons input rest ih =>
      obtain ⟨here, later⟩ := List.forall_mem_cons.mp goesOn
      obtain ⟨now, sent, next⟩ := h.next (c.step_change input) here
      obtain ⟨more, sent', round⟩ := ih next later
      refine ⟨now ++ more, ?_, ?_⟩
      · rw [history, List.flatMap_cons, sent, sent', List.map_append]
      · rw [history, List.countP_cons, Nat.add_comm (List.countP _ _), ← Nat.add_assoc,
          ← List.append_assoc]
        exact round

end Round

/-! ### What a timer does -/

/-- What is due while the client waits for an answer is to try once more, or to give up. -/
theorem handleTimeout_negotiating {c : Client} {now : Nat} (due : c.Due now)
    (phase : c.Negotiating) (fresh : UInt32) : c.handleTimeout now fresh = c.retry now := by
  rw [Due] at due
  rw [handleTimeout, if_pos due]
  rcases phase with discovering | requesting
  · rw [discovering]
  · rw [requesting]

namespace Round

variable {c : Client} {q : Packet} {times : List Nat} {served : Nat}

/-- As long as it has been sent less often than it may, the packet is sent again. -/
theorem resends (h : c.Round q times served) {now : Nat} (due : c.Due now)
    (left : served + 1 < c.maxAttempts) (fresh : UInt32) :
    (c.handleTimeout now fresh).2 = [.send q] := by
  obtain ⟨d, timer, -⟩ := exists_deadline due
  rw [← (h.timer d timer).1] at left
  rw [handleTimeout_negotiating due h.phase, retry, if_neg (Nat.not_le_of_lt left), h.kept]
  rfl

/-- After that, the failure is recorded and the lease given up. -/
theorem givesUp (h : c.Round q times served) {now : Nat} (due : c.Due now)
    (spent : served + 1 = c.maxAttempts) (fresh : UInt32) :
    c.handleTimeout now fresh = { c with failed := true, deadline := none }.dropLease := by
  obtain ⟨d, timer, -⟩ := exists_deadline due
  rw [← (h.timer d timer).1] at spent
  rw [handleTimeout_negotiating due h.phase, retry, if_pos (Nat.le_of_eq spent.symm)]

end Round

theorem handleTimeout_of_none {c : Client} (timer : c.deadline = none) (now : Nat)
    (fresh : UInt32) : c.handleTimeout now fresh = (c, []) := by
  rw [handleTimeout, timer]
  rfl

/-! ### Without a timer -/

/-- The client has no timer: it waits for an answer, or it was stopped. -/
structure Still (c : Client) (inputs : List Input) : Prop where
  timer : c.deadline = none
  phase : c.Negotiating ∨ c.phase = .idle ∧ .stop ∈ inputs

theorem Restarts.of_mem {before : List Input} (stopped : .stop ∈ before) (ifindex : UInt32)
    (mac : Mac) (now : Nat) (fresh : UInt32) :
    Restarts (before ++ [.start ifindex mac now fresh]) := by
  obtain ⟨earlier, later, split⟩ := List.append_of_mem stopped
  exact ⟨earlier, later ++ [.start ifindex mac now fresh], ifindex, mac, now, fresh,
    by rw [split, List.append_assoc, List.cons_append], by simp⟩

theorem Restarts.snoc {inputs : List Input} (h : Restarts inputs) (input : Input) :
    Restarts (inputs ++ [input]) := by
  obtain ⟨before, after, ifindex, mac, now, fresh, split, started⟩ := h
  exact ⟨before, after ++ [input], ifindex, mac, now, fresh,
    by rw [split, List.append_assoc, List.cons_append], List.mem_append_left _ started⟩

/-- A packet that is not heeded makes the client do nothing. -/
theorem Moment.silent_of_deaf {c : Client} {p : Packet} {now : Nat} {fresh : UInt32}
    {r : Client × List Action} (deaf : (⟨c, .packet p now fresh, r⟩ : Moment).heeded? = none) :
    r.2 = [] := by
  have same : r = (c, []) :=
    Decidable.byContradiction fun other => nomatch (if_neg other).symm.trans deaf
  rw [same]

theorem Still.next {c : Client} {inputs : List Input} (h : c.Still inputs) {input : Input}
    {r : Client × List Action} (change : Change c input r)
    (alone : ¬ Restarts (inputs ++ [input]))
    (deaf : (⟨c, input, r⟩ : Moment).heeded? = none) : r.1.Still (inputs ++ [input]) := by
  have phase : c.Negotiating ∨ c.phase = .idle ∧ .stop ∈ inputs ++ [input] :=
    h.phase.imp_right fun ⟨idle, stopped⟩ => ⟨idle, List.mem_append_left _ stopped⟩
  have early (now : Nat) : ¬ c.Due now := by
    intro due
    obtain ⟨d, timer, -⟩ := exists_deadline due
    cases h.timer.symm.trans timer
  cases change with
  | started ifindex mac now fresh idle =>
      rcases h.phase with waits | ⟨-, stopped⟩
      · exact absurd waits (not_negotiating (.inl idle))
      · exact absurd (Restarts.of_mem stopped ifindex mac now fresh) alone
  | stopped => exact ⟨rfl, .inr ⟨rfl, by simp⟩⟩
  | running | resting | failed | ignored | waiting => exact ⟨h.timer, phase⟩
  | offered | leased => exact absurd (Moment.silent_of_deaf deaf) (List.cons_ne_nil _ _)
  | refused =>
      refine absurd (Moment.silent_of_deaf deaf) ?_
      exact List.append_ne_nil_of_right_ne_nil _ (List.cons_ne_nil _ _)
  | renewed now _ _ due | resent now _ due | gaveUp now _ due => exact absurd due (early now)

/-- Without a timer, a client that heeds nothing and is not started again has none later. -/
theorem still_run {c : Client} (timer : c.deadline = none) (phase : c.Negotiating)
    (inputs : List Input) (alone : ¬ Restarts inputs)
    (deaf : ∀ m ∈ c.history inputs, m.heeded? = none) : (c.run inputs).1.Still inputs := by
  induction inputs using List.reverseRecOn with
  | nil => exact ⟨timer, .inl phase⟩
  | append_singleton inputs input ih =>
      rw [history_snoc] at deaf
      obtain ⟨before, last⟩ := List.forall_mem_append.mp deaf
      have still := ih (fun restarts => alone (restarts.snoc input)) before
      rw [run_snoc]
      exact still.next (step_change _ input) alone (last _ (List.mem_singleton_self _))

/-! ### The budget -/

theorem run_settings (maxAttempts retransmitMs : Nat) (inputs : List Input) :
    ((new maxAttempts retransmitMs).run inputs).1.retransmitMs = retransmitMs := by
  refine runFrom_induction (motive := fun (c : Client) _ => c.retransmitMs = retransmitMs) ?_ rfl
    inputs
  intro c _ input same
  exact (c.step_change input).settings.2.trans same

/-- **A packet has a budget.** Whatever happened to a client before, let a packet be sent for the
first time, and let any inputs follow that do not end the phase. Then all that is sent is this
packet: once, and once more for each deadline that was served, up to the number of attempts; each
time at least the retransmit interval after all times before. The timer runs until as many deadlines
were served as there are attempts. What is due earlier sends the packet again; what is due last
records the failure, gives up the lease, and clears the address exactly if there was a lease. After
that nothing is done at any time, until a packet is heeded or the client is stopped and started. -/
theorem retry_budget (maxAttempts retransmitMs : Nat) (earlier : List Input) (input : Input)
    (q : Packet) (inputs : List Input) :
    let before := ((new maxAttempts retransmitMs).run earlier).1
    let first : Moment := ⟨before, input, before.step input⟩
    let during := first.result.1.history inputs
    let c := (first.result.1.run inputs).1
    let budget := max maxAttempts 1
    let served := during.countP Moment.serves
    q ∈ first.opened → (∀ m ∈ during, ¬ m.Ends) →
    (∃ times : List Nat,
      (first :: during).flatMap Moment.sentAt = times.map (some ·, q) ∧
      times.length = min budget (served + 1) ∧
      times.Pairwise fun t t' => t + retransmitMs ≤ t') ∧
    served ≤ budget ∧ (c.deadline = none ↔ served = budget) ∧
    (∀ now fresh, c.Due now →
      (served + 1 < budget → (c.handleTimeout now fresh).2 = [.send q]) ∧
      (served + 1 = budget →
        let r := c.handleTimeout now fresh
        r.1.failed = true ∧ r.1.deadline = none ∧ r.1.lease = none ∧
          r.2 = if c.lease.isSome then [.clearAddress c.ifindex] else [])) ∧
    (c.deadline = none → ∀ later, ¬ Restarts later →
      (∀ m ∈ c.history later, m.heeded? = none) →
      ∀ now fresh, ((c.run later).1.handleTimeout now fresh).2 = []) := by
  intro before first during c budget served opens goesOn
  have whole : ((new maxAttempts retransmitMs).run (earlier ++ input :: inputs)).1 = c := by
    rw [Client.run, runFrom_append]
    rfl
  have most : c.maxAttempts = budget := whole ▸ (run_shape maxAttempts retransmitMs _).1
  have interval : c.retransmitMs = retransmitMs := whole ▸ run_settings maxAttempts retransmitMs _
  have round : ∃ times, (first :: during).flatMap Moment.sentAt = times.map (some ·, q) ∧
      c.Round q times served := by
    obtain ⟨least, shape⟩ := run_shape maxAttempts retransmitMs earlier
    have change := before.step_change input
    obtain ⟨now, sent, round⟩ := change.opens (least ▸ Nat.le_max_right _ _) shape opens
    obtain ⟨more, sent', round⟩ := round.run inputs goesOn
    refine ⟨now :: more, ?_, Nat.zero_add served ▸ round⟩
    rw [List.flatMap_cons, sent, sent']
    rfl
  obtain ⟨times, sent, round⟩ := round
  rw [← most]
  refine ⟨⟨times, sent, round.length_eq, interval ▸ round.spaced⟩, round.served_le,
    round.stuck_iff, fun now fresh due => ⟨fun left => round.resends due left fresh, ?_⟩, ?_⟩
  · intro spent
    rw [round.givesUp due spent]
    exact ⟨rfl, rfl, rfl, rfl⟩
  · intro timer later alone deaf now fresh
    rw [handleTimeout_of_none (still_run timer round.phase later alone deaf).timer]

/-- An address is acquired. -/
def acquired : List Input :=
  [.start 5 .zero 0 1, .packet (answerTo .offer 1) 10 2, .packet (answerTo .ack 2) 20 3]

/-- A renewal with two attempts that nobody answers: the request is sent again once, what is due
then clears the address, and a reply to the transaction before changes nothing any more. -/
theorem retry_budget_renewal :
    let before := ((new 2 3000).run acquired).1
    let first : Moment := ⟨before, .timeout 1800020 4, before.step (.timeout 1800020 4)⟩
    let again := [.timeout 1803020 5]
    let spent := [.timeout 1803020 5, .timeout 1806020 6]
    let late := [.packet (answerTo .ack 2) 1806030 7]
    ∃ q, q ∈ first.opened ∧
      (∀ m ∈ first.result.1.history again, ¬ m.Ends) ∧
      (first.result.1.run again).1.Due 1806020 ∧
      ((first.result.1.run again).1.handleTimeout 1806020 6).2 = [.clearAddress 5] ∧
      (∀ m ∈ first.result.1.history spent, ¬ m.Ends) ∧
      (first.result.1.run spent).1.deadline = none ∧ ¬ Restarts late ∧
      (∀ m ∈ (first.result.1.run spent).1.history late, m.heeded? = none) ∧
      (((first.result.1.run spent).1.run late).1.handleTimeout 9999999 8).2 = [] := by
  intro before first again spent late
  obtain ⟨q, opens⟩ : ∃ q, q ∈ first.opened := List.exists_mem_of_ne_nil _ (by decide)
  have goesOn : ∀ m ∈ first.result.1.history again, ¬ m.Ends := by decide
  have goesOn' : ∀ m ∈ first.result.1.history spent, ¬ m.Ends := by decide
  have due : (first.result.1.run again).1.deadline.any (· ≤ 1806020) = true := by decide
  have timer : (first.result.1.run spent).1.deadline = none := by decide
  have alone : ¬ Restarts late := by
    intro ⟨earlier, later, _, _, _, _, split, _⟩
    have stopped : .stop ∈ late := by simp [split]
    exact absurd stopped (by decide)
  have deaf : ∀ m ∈ (first.result.1.run spent).1.history late, m.heeded? = none := by decide
  obtain ⟨-, -, -, gives, -⟩ := retry_budget 2 3000 acquired _ q again opens goesOn
  obtain ⟨-, -, -, cleared⟩ := (gives 1806020 6 due).2 (by decide)
  obtain ⟨-, -, -, -, silent⟩ := retry_budget 2 3000 acquired _ q spent opens goesOn'
  exact ⟨q, opens, goesOn, due, cleared.trans (by decide), goesOn', timer, alone, deaf,
    silent timer late alone deaf 9999999 8⟩

end Client

end WifiStation.Dhcp
