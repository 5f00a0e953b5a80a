import Mathlib.Data.List.Induction
import WifiStation.Network
import WifiStation.Proofs.Dhcp.ClientStep

/-!
# WifiStation.Proofs.Dhcp.FailureFlag

What the failure flag of a client says, when its owner has nothing to report.

While a client waits for an answer the flag is raised exactly when its attempts are used up and
nothing is due any more (`Candid`). Every new phase lowers it, and so does stopping; taking a lease
does not touch it. A client that has given up still hears the server, so an ACK that comes late
configures it with the flag raised, and an ACK that comes in time with the flag down. Either way the
flag stays as it was until the client asks again (`failed_iff_granted_late`).
-/

namespace WifiStation.Dhcp

open WifiStation.Net

namespace Client

/-! ### The flag while waiting for an answer -/

/-- The client has used up its attempts, and nothing is due. -/
structure Exhausted (c : Client) : Prop where
  idleTimer : c.deadline = none
  spent : c.maxAttempts ≤ c.attempts

/-- The flag of a client that waits for an answer tells whether it has given up. -/
structure Candid (c : Client) : Prop where
  raised : c.failed = true → c.Exhausted
  lowered : c.failed = false → c.deadline.isSome

/-- An idle client waits for no answer, and a configured one does not either. -/
theorem not_negotiating {c : Client} (h : c.phase = .idle ∨ c.phase = .configured) :
    ¬ c.Negotiating := by
  rcases h with h | h <;> simp [Negotiating, h]

theorem beginPhase_candid (c : Client) (phase : Phase) (p : Packet) (now : Nat) :
    (c.beginPhase phase p now).1.Candid :=
  ⟨fun raised => (nomatch raised), fun _ => rfl⟩

/-- As long as the owner reports no failure, every input leaves a waiting client candid. -/
theorem Change.candid {c : Client} {input : Input} {r : Client × List Action}
    (h : Change c input r) (own : input ≠ .failure) (hc : c.Negotiating → c.Candid) :
    r.1.Negotiating → r.1.Candid := by
  cases h with
  | started => exact fun _ => beginPhase_candid _ _ _ _
  | running => exact hc
  | stopped => exact fun waits => absurd waits (not_negotiating (.inl rfl))
  | resting => exact hc
  | failed => exact absurd rfl own
  | offered => exact fun _ => beginPhase_candid _ _ _ _
  | leased => exact fun waits => absurd waits (not_negotiating (.inr rfl))
  | refused => exact fun _ => beginPhase_candid _ _ _ _
  | ignored => exact hc
  | renewed => exact fun _ => beginPhase_candid _ _ _ _
  | resent now fresh due phase left =>
      -- something was due, so the client had not given up
      have candid := hc phase
      refine fun _ => ⟨fun raised => ?_, fun _ => rfl⟩
      have nothing : c.deadline = none := (candid.raised raised).idleTimer
      rw [Due, nothing] at due
      cases due
  | gaveUp now fresh due phase spent => exact fun _ => ⟨fun _ => ⟨rfl, spent⟩, fun h => (nomatch h)⟩
  | waiting => exact hc

/-- Without a report from its owner, a configured client stays as it is or was configured just now,
by an ACK to its request. -/
theorem Change.configured {c : Client} {input : Input} {r : Client × List Action}
    (h : Change c input r) (own : input ≠ .failure) (hr : r.1.phase = .configured) :
    r.1 = c ∨ ∃ p now fresh, input = .packet p now fresh ∧ c.Hears p ∧ c.phase = .requesting ∧
      p.options.kind = some .ack ∧ r.1 = (c.configure p now).1 := by
  cases h with
  | started => cases hr
  | running => exact .inl rfl
  | stopped => cases hr
  | resting => exact .inl rfl
  | failed => exact absurd rfl own
  | offered => cases hr
  | leased p now fresh hears phase kind =>
      exact .inr ⟨p, now, fresh, rfl, hears, phase, kind, rfl⟩
  | refused => cases hr
  | ignored => exact .inl rfl
  | renewed => cases hr
  | resent now fresh due waits => exact absurd waits (not_negotiating (.inr hr))
  | gaveUp now fresh due waits => exact absurd waits (not_negotiating (.inr hr))
  | waiting => exact .inl rfl

/-! ### Runs -/

/-- One more input after a run. -/
theorem run_snoc (c : Client) (inputs : List Input) (input : Input) :
    (c.run (inputs ++ [input])).1 = ((c.run inputs).1.step input).1 := by
  rw [run, runFrom_append]
  rfl

/-- A client that waits for an answer is candid after every run without a report. -/
theorem run_candid (maxAttempts retransmitMs : Nat) (inputs : List Input)
    (own : .failure ∉ inputs) :
    let c := ((new maxAttempts retransmitMs).run inputs).1
    c.Negotiating → c.Candid := by
  induction inputs using List.reverseRecOn with
  | nil => exact fun waits => absurd waits (not_negotiating (.inl rfl))
  | append_singleton inputs input ih =>
      rw [run_snoc]
      have before : .failure ∉ inputs := fun h => own (List.mem_append_left _ h)
      have last : input ≠ .failure := fun h => own (by simp [h])
      exact (step_change _ input).candid last (ih before)

/-- The pair of a configured client tells its flag. -/
theorem dhcp4_of_configured {c : Client} (h : c.phase = .configured) (link : LinkState) :
    (networkState link (some c.status)).dhcp4 =
      if c.failed then .of .err 1 else .of .active 0 := by
  simp [networkState, dhcpPair, status, h]

/-- A client whose owner has reported nothing and that is configured got its lease from an ACK to its
request, and has been left alone since. Its flag is raised exactly if it had given up on the request
when the ACK came; then its address is told as an error, and otherwise as active. -/
theorem failed_iff_granted_late (maxAttempts retransmitMs : Nat) (inputs : List Input)
    (own : .failure ∉ inputs)
    (configured : ((new maxAttempts retransmitMs).run inputs).1.phase = .configured) :
    let c := ((new maxAttempts retransmitMs).run inputs).1
    ∃ before ack now fresh after, inputs = before ++ .packet ack now fresh :: after ∧
      let asked := ((new maxAttempts retransmitMs).run before).1
      (asked.phase = .requesting ∧ asked.Hears ack ∧ ack.options.kind = some .ack) ∧
      c = (asked.configure ack now).1 ∧
      (c.failed = true ↔ asked.Exhausted) ∧
      ∀ link, (networkState link (some c.status)).dhcp4 =
        if c.failed then .of .err 1 else .of .active 0 := by
  intro c
  induction inputs using List.reverseRecOn with
  | nil => cases configured
  | append_singleton inputs input ih =>
      have before : .failure ∉ inputs := fun h => own (List.mem_append_left _ h)
      have last : input ≠ .failure := fun h => own (by simp [h])
      rw [run_snoc] at configured
      rcases (step_change _ input).configured last configured with same |
        ⟨ack, now, fresh, rfl, hears, phase, kind, granted⟩
      · -- nothing has happened to the client since it was configured
        rw [same] at configured
        obtain ⟨earlier, ack, now, fresh, after, split, asking, granted, rest⟩ :=
          ih before configured
        have hc : c = ((new maxAttempts retransmitMs).run inputs).1 := (run_snoc ..).trans same
        rw [hc]
        exact ⟨earlier, ack, now, fresh, after ++ [input], by simp [split], asking, granted, rest⟩
      · have hc : c = (((new maxAttempts retransmitMs).run inputs).1.configure ack now).1 :=
          (run_snoc ..).trans granted
        have candid := run_candid maxAttempts retransmitMs inputs before (.inr phase)
        refine ⟨inputs, ack, now, fresh, [], rfl, ⟨phase, hears, kind⟩, hc, ?_, ?_⟩
        · rw [hc]
          refine ⟨candid.raised, fun gone => ?_⟩
          cases hf : ((new maxAttempts retransmitMs).run inputs).1.failed with
          | true => exact hf
          | false =>
              have due := candid.lowered hf
              rw [gone.idleTimer] at due
              cases due
        · exact dhcp4_of_configured (by rw [hc]; rfl)

/-! ### In time and late -/

/-- What a server that has one address to give answers a client, in the client's transaction. -/
def answerTo (kind : Kind) (xid : UInt32) : Packet :=
  { Packet.replyTo (.ofClient .request xid .zero) kind (.ofBytes 10 0 0 1) with
    yiaddr := .ofBytes 10 0 0 2 }

/-- An ACK that comes while an answer is awaited: the address is told as active. -/
theorem failed_iff_granted_late_in_time :
    let inputs := [.start 5 .zero 0 1, .packet (answerTo .offer 1) 10 2,
      .packet (answerTo .ack 2) 20 3]
    let c := ((new 1 3000).run inputs).1
    .failure ∉ inputs ∧ c.phase = .configured ∧ c.failed = false ∧
    (networkState { connected := true } (some c.status)).dhcp4 = .of .active 0 := by
  intro inputs c
  have own : .failure ∉ inputs := by decide
  have configured : c.phase = .configured := by decide
  have lowered : c.failed = false := by decide
  obtain ⟨-, -, -, -, -, -, -, -, -, told⟩ := failed_iff_granted_late 1 3000 inputs own configured
  have pair := told { connected := true }
  rw [lowered] at pair
  exact ⟨own, configured, lowered, pair⟩

/-- An ACK that comes after the only attempt has gone unanswered: the client has an address, and it
is told as an error. -/
theorem granted_late_told_as_error :
    let inputs := [.start 5 .zero 0 1, .packet (answerTo .offer 1) 0 2, .timeout 3000 3,
      .packet (answerTo .ack 2) 3001 4]
    let c := ((new 1 3000).run inputs).1
    .failure ∉ inputs ∧ c.phase = .configured ∧ c.lease.isSome ∧ c.failed = true ∧
    (networkState { connected := true } (some c.status)).dhcp4 = .of .err 1 := by
  decide

end Client

end WifiStation.Dhcp
