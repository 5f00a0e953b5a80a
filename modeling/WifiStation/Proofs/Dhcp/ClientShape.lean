import WifiStation.Proofs.Dhcp.FailureFlag
import WifiStation.Proofs.Dhcp.LeaseTime

/-!
# WifiStation.Proofs.Dhcp.ClientShape

What the fields of a client are in each phase, whatever has happened to it.

`Shape` has one constructor for each phase. The two phases in which the client waits for an answer
have `Waits` in common: the packet of the phase is kept as it was sent, it has been sent at least
once and no more often than allowed, and if nothing is due any more the client has given up, said
so, and has no lease left. So a client hangs only where its status shows it, and the cases that
`Client.handleTimeout` has for a configured client without a lease and for a packet that is not
there are never met.
-/

namespace WifiStation.Dhcp

open WifiStation.Net

namespace Client

/-! ### Shapes -/

/-- The client waits for an answer to a packet. -/
structure Waits (c : Client) (p : Packet) : Prop where
  outstanding : c.outstanding = some p
  xid : p.xid = c.xid
  chaddr : p.chaddr = c.mac
  tried : 1 ≤ c.attempts
  within : c.attempts ≤ c.maxAttempts
  /-- Without a timer it has given up. -/
  stuck : c.deadline = none →
    c.failed = true ∧ c.attempts = c.maxAttempts ∧ c.lease = none

/-- What a client is like in its phase. -/
inductive Shape (c : Client) : Prop where
  | idle (phase : c.phase = .idle) (lease : c.lease = none) (outstanding : c.outstanding = none)
      (deadline : c.deadline = none)
  | discovering (p : Packet) (phase : c.phase = .discovering) (lease : c.lease = none)
      (kind : p.options.kind = some .discover) (waits : c.Waits p)
  | requesting (p : Packet) (addr server : Ipv4) (phase : c.phase = .requesting)
      (kind : p.options.kind = some .request) (asks : p.options.requestedAddr = some addr)
      (names : p.options.serverId = some server) (waits : c.Waits p)
  | configured (l : Lease) (renewal : Nat) (phase : c.phase = .configured)
      (lease : c.lease = some l) (outstanding : c.outstanding = none)
      (deadline : c.deadline = some renewal)

namespace Shape

variable {c : Client}

theorem of_idle (h : c.Shape) (phase : c.phase = .idle) :
    c.lease = none ∧ c.outstanding = none ∧ c.deadline = none := by
  cases h with
  | idle _ lease outstanding deadline => exact ⟨lease, outstanding, deadline⟩
  | discovering _ other | requesting _ _ _ other | configured _ _ other =>
      cases phase.symm.trans other

theorem of_configured (h : c.Shape) (phase : c.phase = .configured) :
    ∃ l, c.lease = some l ∧ c.outstanding = none := by
  cases h with
  | configured l _ _ lease outstanding => exact ⟨l, lease, outstanding⟩
  | idle other | discovering _ other | requesting _ _ _ other => cases phase.symm.trans other

theorem of_negotiating (h : c.Shape) (phase : c.Negotiating) : ∃ p, c.Waits p := by
  cases h with
  | discovering p _ _ _ waits | requesting p _ _ _ _ _ _ waits => exact ⟨p, waits⟩
  | idle other => exact absurd phase (not_negotiating (.inl other))
  | configured _ _ other => exact absurd phase (not_negotiating (.inr other))

/-- A packet that is kept is of the kind that belongs to the phase. -/
theorem kind_outstanding (h : c.Shape) {p : Packet} (kept : c.outstanding = some p) :
    c.phase = .discovering ∧ p.options.kind = some .discover ∨
      c.phase = .requesting ∧ p.options.kind = some .request := by
  cases h with
  | discovering q phase _ kind waits =>
      cases kept.symm.trans waits.outstanding
      exact .inl ⟨phase, kind⟩
  | requesting q _ _ phase kind _ _ waits =>
      cases kept.symm.trans waits.outstanding
      exact .inr ⟨phase, kind⟩
  | idle _ _ outstanding | configured _ _ _ _ outstanding => cases kept.symm.trans outstanding

end Shape

/-! ### Every input keeps the shape -/

theorem waits_beginPhase {c : Client} (budget : 1 ≤ c.maxAttempts) (phase : Phase) {p : Packet}
    (xid : p.xid = c.xid) (chaddr : p.chaddr = c.mac) (now : Nat) :
    (c.beginPhase phase p now).1.Waits p :=
  ⟨rfl, xid, chaddr, Nat.le_refl 1, budget, fun none => nomatch none⟩

theorem shape_discover {c : Client} (budget : 1 ≤ c.maxAttempts) (lease : c.lease = none)
    (now : Nat) (fresh : UInt32) : (c.discover now fresh).1.Shape :=
  .discovering _ rfl lease rfl
    (waits_beginPhase (c := { c with xid := fresh }) budget _ rfl rfl now)

theorem shape_request {c : Client} (budget : 1 ≤ c.maxAttempts) (addr server : Ipv4) (now : Nat)
    (fresh : UInt32) : (c.request addr server now fresh).1.Shape :=
  .requesting _ addr server rfl rfl rfl rfl
    (waits_beginPhase (c := { c with xid := fresh }) budget _ rfl rfl now)

/-- A client that goes on waiting for the same answer stays in shape. -/
theorem Shape.of_waits {c c' : Client} (h : c.Shape) (phase : c.Negotiating)
    (same : c'.phase = c.phase) (lease : c.lease = none → c'.lease = none)
    (goesOn : ∀ p, c.Waits p → c'.Waits p) : c'.Shape := by
  cases h with
  | idle other => exact absurd phase (not_negotiating (.inl other))
  | discovering p here none kind waits =>
      exact .discovering p (same.trans here) (lease none) kind (goesOn p waits)
  | requesting p addr server here kind asks names waits =>
      exact .requesting p addr server (same.trans here) kind asks names (goesOn p waits)
  | configured _ _ other => exact absurd phase (not_negotiating (.inr other))

/-- A report of a failure raises the flag, which only a client without a timer is asked for. -/
theorem Shape.failure {c : Client} (h : c.Shape) : c.reportFailure.Shape := by
  by_cases phase : c.Negotiating
  · exact h.of_waits phase rfl id fun p waits =>
      { waits with stuck := fun none => ⟨rfl, (waits.stuck none).2⟩ }
  · cases h with
    | idle here lease outstanding deadline => exact .idle here lease outstanding deadline
    | discovering _ here => exact absurd (.inl here) phase
    | requesting _ _ _ here => exact absurd (.inr here) phase
    | configured l renewal here lease outstanding deadline =>
        exact .configured l renewal here lease outstanding deadline

theorem Change.shape {c : Client} {input : Input} {r : Client × List Action}
    (h : Change c input r) (budget : 1 ≤ c.maxAttempts) (hc : c.Shape) : r.1.Shape := by
  cases h with
  | started ifindex mac now fresh idle =>
      exact shape_discover (c := { c with ifindex, mac }) budget (hc.of_idle idle).1 now fresh
  | stopped => exact .idle rfl rfl rfl rfl
  | failed => exact hc.failure
  | offered p now fresh server => exact shape_request budget p.yiaddr server now fresh
  | leased p now => exact .configured (leaseOf p) _ rfl rfl rfl rfl
  | refused p now fresh => exact shape_discover (c := c.dropLease.1) budget rfl now fresh
  | renewed now fresh lease => exact shape_request budget lease.addr lease.serverId now fresh
  | resent now fresh due phase left =>
      exact hc.of_waits phase rfl id fun p waits =>
        { waits with
          tried := Nat.le_add_left 1 _
          within := left
          stuck := fun none => nomatch none }
  | gaveUp now fresh due phase spent =>
      exact hc.of_waits phase rfl (fun _ => rfl) fun p waits =>
        { waits with stuck := fun _ => ⟨rfl, Nat.le_antisymm waits.within spent, rfl⟩ }
  | running | resting | ignored | waiting => exact hc

/-- A client keeps its settings, and stays in shape. -/
theorem run_shape (maxAttempts retransmitMs : Nat) (inputs : List Input) :
    let c := ((new maxAttempts retransmitMs).run inputs).1
    c.maxAttempts = max maxAttempts 1 ∧ c.Shape := by
  refine runFrom_induction
    (motive := fun (c : Client) _ => c.maxAttempts = max maxAttempts 1 ∧ c.Shape) ?_
    ⟨rfl, .idle rfl rfl rfl rfl⟩ inputs
  intro c _ input ⟨most, shape⟩
  have change := c.step_change input
  have budget : 1 ≤ c.maxAttempts := most ▸ Nat.le_max_right _ _
  exact ⟨change.settings.1.trans most, change.shape budget shape⟩

/-! ### What a timer does -/

/-- What is due while the client waits: its packet is sent once more, or the failure is recorded. -/
theorem Shape.handleTimeout_negotiating {c : Client} (h : c.Shape) {now : Nat} (due : c.Due now)
    (phase : c.Negotiating) (fresh : UInt32) :
    (∃ p, c.outstanding = some p ∧ (c.handleTimeout now fresh).2 = [.send p]) ∨
    ((c.handleTimeout now fresh).1.failed = true ∧
      ∀ p, .send p ∉ (c.handleTimeout now fresh).2) := by
  have change := c.handleTimeout_change now fresh
  generalize c.handleTimeout now fresh = r at change ⊢
  cases change with
  | renewed _ _ _ _ other => exact absurd phase (not_negotiating (.inr other))
  | resent =>
      obtain ⟨p, waits⟩ := h.of_negotiating phase
      exact .inl ⟨p, waits.outstanding, by rw [waits.outstanding]; rfl⟩
  | gaveUp => exact .inr ⟨rfl, fun p => send_not_mem_dropLease _ p⟩
  | waiting _ _ calm =>
      rcases calm due with idle | ⟨configured, -⟩
      · exact absurd phase (not_negotiating (.inl idle))
      · exact absurd phase (not_negotiating (.inr configured))

/-- What is due while the client is configured: its lease, which is there, is asked for again. -/
theorem Shape.handleTimeout_configured {c : Client} (h : c.Shape) {now : Nat} (due : c.Due now)
    (phase : c.phase = .configured) (fresh : UInt32) :
    ∃ l, c.lease = some l ∧ c.handleTimeout now fresh = c.request l.addr l.serverId now fresh := by
  obtain ⟨l, lease, -⟩ := h.of_configured phase
  refine ⟨l, lease, ?_⟩
  rw [Due] at due
  rw [handleTimeout, if_pos due, phase, lease]

/-- A client never hangs silently. Whatever has happened to it, its fields are as its phase says;
while it waits for an answer, what is due is one packet to send or a failure to record; and what is
due to a configured client is the renewal of its lease. -/
theorem never_hangs_silently (maxAttempts retransmitMs : Nat) (inputs : List Input) :
    let c := ((new maxAttempts retransmitMs).run inputs).1
    c.Shape ∧ c.maxAttempts = max maxAttempts 1 ∧
    (c.phase ≠ .idle → c.deadline = none →
      c.Negotiating ∧ c.failed = true ∧ c.attempts = c.maxAttempts ∧ c.lease = none) ∧
    ∀ now fresh, c.Due now →
      (c.Negotiating →
        (∃ p, c.outstanding = some p ∧ (c.handleTimeout now fresh).2 = [.send p]) ∨
        ((c.handleTimeout now fresh).1.failed = true ∧
          ∀ p, .send p ∉ (c.handleTimeout now fresh).2)) ∧
      (c.phase = .configured → ∃ l, c.lease = some l ∧
        c.handleTimeout now fresh = c.request l.addr l.serverId now fresh) := by
  intro c
  obtain ⟨most, shape⟩ := run_shape maxAttempts retransmitMs inputs
  refine ⟨shape, most, fun busy idleTimer => ?_, fun now fresh due =>
    ⟨fun phase => shape.handleTimeout_negotiating due phase fresh,
      fun phase => shape.handleTimeout_configured due phase fresh⟩⟩
  cases shape with
  | idle phase => exact absurd phase busy
  | discovering p phase _ _ waits => exact ⟨.inl phase, waits.stuck idleTimer⟩
  | requesting p _ _ phase _ _ _ waits => exact ⟨.inr phase, waits.stuck idleTimer⟩
  | configured _ _ _ _ _ deadline => cases idleTimer.symm.trans deadline

/-- A renewal that nobody answers, after its only attempt: the failure is recorded. -/
theorem never_hangs_silently_renewal :
    let inputs := [.start 5 .zero 0 1, .packet (answerTo .offer 1) 10 2,
      .packet (answerTo .ack 2) 20 3, .timeout 1800020 4]
    let c := ((new 1 3000).run inputs).1
    c.Due 1803020 ∧ c.Negotiating ∧
      ((∃ p, c.outstanding = some p ∧ (c.handleTimeout 1803020 5).2 = [.send p]) ∨
        ((c.handleTimeout 1803020 5).1.failed = true ∧
          ∀ p, .send p ∉ (c.handleTimeout 1803020 5).2)) := by
  intro inputs c
  have due : c.deadline.any (· ≤ 1803020) = true := by decide
  have phase : c.Negotiating := .inr (by decide)
  obtain ⟨-, -, -, timer⟩ := never_hangs_silently 1 3000 inputs
  exact ⟨due, phase, (timer 1803020 5 due).1 phase⟩

end Client

end WifiStation.Dhcp
