import WifiStation.Dhcp.ClientService
import WifiStation.Proofs.Dhcp.ClientStep

/-!
# WifiStation.Proofs.Dhcp.ServiceRun

The client's service follows the link, and leaves no address behind.

`Turned` lists what one turn of the service can be: nothing, a start when the link comes up, a stop
when it goes down, a move of the client for a packet or its timer, or the end. While the service
runs, only a start and a stop change whether the client is idle: one that is idle does not move, and
one that is not idle does not become so by itself.

`Tidy` is the part that does not depend on the link. Its idea is that a client becomes idle by a
stop only, and that a stop removes the address: so while the client is idle, the last that was done
about addresses was to remove them, whatever failed in between.
-/

namespace WifiStation.Dhcp

open WifiStation.Net

namespace Client

/-! ### A client that is left to itself -/

/-- Whether an input comes from the network or the clock, and not from the client's owner. -/
def Input.isPassive : Input → Bool
  | .packet .. | .timeout .. => true
  | _ => false

theorem Negotiating.busy {c : Client} (h : c.Negotiating) : c.phase ≠ .idle := by
  intro idle
  rcases h with phase | phase
  · rw [idle] at phase
    cases phase
  · rw [idle] at phase
    cases phase

theorem Change.of_idle {c : Client} {input : Input} {r : Client × List Action}
    (h : Change c input r) (passive : input.isPassive = true) (idle : c.phase = .idle) :
    r = (c, []) := by
  cases h with
  | started | running | stopped | resting | failed => cases passive
  | offered p now fresh server hears phase => rw [idle] at phase; cases phase
  | leased p now fresh hears phase => rw [idle] at phase; cases phase
  | refused p now fresh hears phase => rw [idle] at phase; cases phase
  | renewed now fresh lease due phase => rw [idle] at phase; cases phase
  | resent now fresh due phase => exact absurd idle phase.busy
  | gaveUp now fresh due phase => exact absurd idle phase.busy
  | ignored | waiting => rfl

theorem Change.of_busy {c : Client} {input : Input} {r : Client × List Action}
    (h : Change c input r) (passive : input.isPassive = true) (busy : c.phase ≠ .idle) :
    r.1.phase ≠ .idle ∧ r.1.ifindex = c.ifindex := by
  cases h with
  | started | running | stopped | resting | failed => cases passive
  | offered | leased | refused | renewed => exact ⟨fun idle => (nomatch idle), rfl⟩
  | ignored | resent | gaveUp | waiting => exact ⟨busy, rfl⟩

/-- A client configures the lease that it has got, and asks for nothing else then. -/
theorem Change.configures {c : Client} {input : Input} {r : Client × List Action}
    (h : Change c input r) :
    (∃ l, c.phase ≠ .idle ∧ r.1.lease = some l ∧
      r.2 = [.configure c.ifindex l.addr l.subnetMask.prefixLength l.gateway]) ∨
    r.2.any Action.isConfigure = false := by
  rcases h.lease with ⟨p, now, fresh, rfl, hears, phase, kind, -, -⟩ | ⟨-, none⟩
  · cases h with
    | offered _ _ _ server hears discovering => rw [phase] at discovering; cases discovering
    | leased => exact .inl ⟨leaseOf p, by simp [phase], rfl, rfl⟩
    | refused _ _ _ hears phase nak => rw [kind] at nak; cases nak
    | ignored _ _ _ deaf => exact absurd ⟨hears, .inr ⟨phase, .inl kind⟩⟩ deaf
  · exact .inr none

/-- Only a client that is not idle takes addresses away. -/
theorem Change.clears {c : Client} {input : Input} {r : Client × List Action}
    (h : Change c input r) {i : UInt32} (clears : .clearAddress i ∈ r.2) : c.phase ≠ .idle := by
  intro idle
  by_cases passive : input.isPassive = true
  · rw [h.of_idle passive idle] at clears
    cases clears
  · cases h with
    | started => simp [discover, beginPhase] at clears
    | stopped busy => exact busy idle
    | running | resting | failed => cases clears
    | offered | leased | refused | ignored | renewed | resent | gaveUp | waiting =>
        exact absurd rfl passive

end Client

/-! ### Effects -/

/-- Whether an effect is about the addresses of an interface. -/
def Effect.isAddress : Effect → Bool
  | .setAddress .. | .clearAddress _ => true
  | _ => false

theorem Effect.getLast?_filter_concat (log : List Effect) {e : Effect}
    (h : e.isAddress = true) : ((log ++ [e]).filter isAddress).getLast? = some e := by
  rw [List.filter_append, List.filter_cons_of_pos h, List.filter_nil, List.getLast?_concat]

namespace ClientService

/-- Failures show in the client, and do not keep it from performing the rest. -/
theorem performAll_eq (ok : Effect → Bool) (c : Client) (actions : List Action) :
    ∃ failed, performAll ok c actions =
      ({ c with failed }, actions.flatMap fun a => (perform ok a).1) := by
  induction actions generalizing c with
  | nil => exact ⟨c.failed, rfl⟩
  | cons a rest ih =>
      obtain ⟨failed, others⟩ := ih (if (perform ok a).2 then c else c.reportFailure)
      refine ⟨failed, ?_⟩
      rw [performAll, others]
      split <;> rfl

theorem apply_eq (s : ClientService) (ok : Effect → Bool) (asked : Client × List Action) :
    ∃ (c : Client) (failed : Bool), c = { asked.1 with failed } ∧ s.apply ok asked =
      ({ s with client := c, status := s.status.writeIfNew c.status },
        asked.2.flatMap fun a => (perform ok a).1) := by
  obtain ⟨failed, performed⟩ := performAll_eq ok asked.1 asked.2
  exact ⟨_, failed, rfl, by rw [ClientService.apply, performed]⟩

theorem perform_configure (ok : Effect → Bool) (i : UInt32) (addr : Ipv4) (prefixLength : Nat)
    (gateway : Option Ipv4) :
    (perform ok (.configure i addr prefixLength gateway)).1 =
      .setAddress i addr prefixLength ::
        if ok (.setAddress i addr prefixLength) then
          gateway.toList.map (Effect.setDefaultRoute i)
        else [] := by
  cases gateway with
  | none => simp only [perform]; split <;> rfl
  | some g => simp only [perform]; split <;> rfl

theorem eq_clearAddress_of_mem {ok : Effect → Bool} {a : Action} {i : UInt32}
    (h : .clearAddress i ∈ (perform ok a).1) : a = .clearAddress i := by
  cases a with
  | send => simp [perform] at h
  | configure j addr prefixLength gateway =>
      rw [perform_configure] at h
      split at h <;> simp at h
  | clearAddress j =>
      cases List.mem_singleton.mp h
      rfl

theorem isConfigure_of_mem {ok : Effect → Bool} {a : Action} {e : Effect}
    (h : e ∈ (perform ok a).1) (unsent : ∀ p, e ≠ .send p) (kept : ∀ i, e ≠ .clearAddress i) :
    a.isConfigure = true := by
  cases a with
  | send p => exact absurd (List.mem_singleton.mp h) (unsent p)
  | configure => rfl
  | clearAddress i => exact absurd (List.mem_singleton.mp h) (kept i)

/-! ### Turns -/

/-- One input of the service, with all that a step is given. -/
structure Turn where
  input : ServiceInput
  now : Nat
  fresh : UInt32
  ok : Effect → Bool

def take (s : ClientService) (t : Turn) : ClientService × List Effect :=
  s.step t.input t.now t.fresh t.ok

/-- What a turn can be. -/
inductive Turned (s : ClientService) (t : Turn) : ClientService × List Effect → Prop
  /-- The service has ended, or there is nothing new. -/
  | still (same : s.running = true → ∀ up, t.input = .link up → up = s.connected) :
      Turned s t (s, [])
  | up (running : s.running = true) (look : t.input = .link true) (before : s.connected = false) :
      Turned s t ({ s with connected := true }.apply t.ok
        (s.client.start s.ifindex s.mac t.now t.fresh))
  | down (running : s.running = true) (look : t.input = .link false)
      (before : s.connected = true) :
      Turned s t ({ s with connected := false }.apply t.ok s.client.stop)
  | moved (running : s.running = true) (blind : ∀ up, t.input ≠ .link up) (input : Client.Input)
      (passive : input.isPassive = true) : Turned s t (s.apply t.ok (s.client.step input))
  | ended (running : s.running = true) : Turned s t (s.finish t.ok)

theorem take_turned (s : ClientService) (t : Turn) : Turned s t (s.take t) := by
  unfold take step
  split
  · rename_i running
    split
    · rename_i up look
      rw [follow]
      split
      · rename_i same
        refine .still fun _ up' look' => ?_
        rw [look] at look'
        cases look'
        exact same
      · rename_i other
        cases up with
        | true => exact .up running look (by simpa using Ne.symm other)
        | false => exact .down running look (by simpa using Ne.symm other)
    · exact .ended running
    · exact .ended running
    · rename_i p look
      exact .moved running (by simp [look]) (.packet p t.now t.fresh) rfl
    · rename_i e look
      exact .still fun _ up look' => by rw [look] at look'; cases look'
    · exact .ended running
    · rename_i look
      exact .moved running (by simp [look]) (.timeout t.now t.fresh) rfl
  · rename_i ended
    exact .still fun running => absurd running ended

/-! ### Single turns -/

/-- What a turn does are the actions of one input of the client; the failures among them show in the
client and nowhere else. -/
theorem take_acts (s : ClientService) (t : Turn) :
    ∃ input r failed, s.client.Change input r ∧ (s.take t).1.client = { r.1 with failed } ∧
      (s.take t).2 = r.2.flatMap fun a => (perform t.ok a).1 := by
  have turned := s.take_turned t
  generalize s.take t = done at *
  cases turned with
  | still => exact ⟨.failure, _, s.client.failed, .failed, rfl, rfl⟩
  | up =>
      obtain ⟨c, failed, rfl, applied⟩ := apply_eq { s with connected := true } t.ok
        (s.client.start s.ifindex s.mac t.now t.fresh)
      rw [applied]
      exact ⟨_, _, failed, s.client.step_change (.start s.ifindex s.mac t.now t.fresh), rfl, rfl⟩
  | down =>
      obtain ⟨c, failed, rfl, applied⟩ := apply_eq { s with connected := false } t.ok s.client.stop
      rw [applied]
      exact ⟨_, _, failed, s.client.step_change .stop, rfl, rfl⟩
  | moved running blind input passive =>
      obtain ⟨c, failed, rfl, applied⟩ := s.apply_eq t.ok (s.client.step input)
      rw [applied]
      exact ⟨_, _, failed, s.client.step_change input, rfl, rfl⟩
  | ended =>
      obtain ⟨c, failed, rfl, applied⟩ := s.apply_eq t.ok s.client.stop
      rw [finish, applied]
      exact ⟨_, _, failed, s.client.step_change .stop, rfl, rfl⟩

theorem take_clears {s : ClientService} {t : Turn} {i : UInt32}
    (h : .clearAddress i ∈ (s.take t).2) : s.client.phase ≠ .idle := by
  obtain ⟨input, r, -, change, -, effects⟩ := s.take_acts t
  rw [effects] at h
  obtain ⟨a, ha, he⟩ := List.mem_flatMap.mp h
  rw [eq_clearAddress_of_mem he] at ha
  exact change.clears ha

/-- A turn that does more than send and take away sets the address of the lease that the client has
then, and the default route behind it. -/
theorem take_configures {s : ClientService} {t : Turn} {e : Effect} (h : e ∈ (s.take t).2)
    (unsent : ∀ p, e ≠ .send p) (kept : ∀ i, e ≠ .clearAddress i) :
    ∃ l, s.client.phase ≠ .idle ∧ (s.take t).1.client.lease = some l ∧
      (s.take t).2 = .setAddress s.client.ifindex l.addr l.subnetMask.prefixLength ::
        if t.ok (.setAddress s.client.ifindex l.addr l.subnetMask.prefixLength) then
          l.gateway.toList.map (Effect.setDefaultRoute s.client.ifindex)
        else [] := by
  obtain ⟨input, r, failed, change, client, effects⟩ := s.take_acts t
  rw [effects] at h
  obtain ⟨a, ha, he⟩ := List.mem_flatMap.mp h
  have configures := isConfigure_of_mem he unsent kept
  rcases change.configures with ⟨l, busy, granted, only⟩ | none
  · refine ⟨l, busy, by rw [client]; exact granted, ?_⟩
    rw [effects, only, List.flatMap_singleton, perform_configure]
  · rw [List.any_eq_true.mpr ⟨a, ha, configures⟩] at none
    cases none

theorem take_route {s : ClientService} {t : Turn} {before after : List Effect} {i : UInt32}
    {g : Ipv4} (h : (s.take t).2 = before ++ .setDefaultRoute i g :: after) :
    ∃ l, (s.take t).1.client.lease = some l ∧ l.gateway = some g ∧
      before = [.setAddress i l.addr l.subnetMask.prefixLength] ∧
      t.ok (.setAddress i l.addr l.subnetMask.prefixLength) = true := by
  have here : Effect.setDefaultRoute i g ∈ (s.take t).2 := by simp [h]
  obtain ⟨l, -, lease, effects⟩ :=
    take_configures here (fun _ same => nomatch same) (fun _ same => nomatch same)
  rw [effects] at h
  cases before with
  | nil => cases h
  | cons first rest =>
      obtain ⟨rfl, tail⟩ := List.cons.inj h
      -- what is behind the address is the route alone
      have alone : rest = [] ∧ l.gateway = some g ∧ s.client.ifindex = i ∧
          t.ok (.setAddress s.client.ifindex l.addr l.subnetMask.prefixLength) = true := by
        split at tail
        · rename_i set
          cases hg : l.gateway with
          | none => simp [hg] at tail
          | some g' =>
              rw [hg] at tail
              cases rest with
              | nil => cases tail; exact ⟨rfl, rfl, rfl, set⟩
              | cons _ _ => simp at tail
        · simp at tail
      obtain ⟨rfl, gateway, rfl, set⟩ := alone
      exact ⟨l, lease, gateway, rfl, set⟩

theorem take_sets {s : ClientService} {t : Turn} {i : UInt32} {addr : Ipv4} {prefixLength : Nat}
    (h : .setAddress i addr prefixLength ∈ (s.take t).2) :
    s.client.phase ≠ .idle ∧ i = s.client.ifindex := by
  obtain ⟨l, busy, -, effects⟩ :=
    take_configures h (fun _ same => nomatch same) (fun _ same => nomatch same)
  rw [effects] at h
  rcases List.mem_cons.mp h with same | route
  · cases same
    exact ⟨busy, rfl⟩
  · split at route <;> simp at route

/-! ### What is left behind -/

/-- The status is told, the client looks after the service's interface, and while it is idle the
last that was done about addresses was to remove them. -/
structure Tidy (s : ClientService) (log : List Effect) : Prop where
  status : s.status.value = s.client.status
  own : s.client.phase ≠ .idle → s.client.ifindex = s.ifindex
  cleared : s.client.phase = .idle → ∀ e, (log.filter Effect.isAddress).getLast? = some e →
    e = .clearAddress s.ifindex

theorem tidy_apply (s : ClientService) (log : List Effect) (ok : Effect → Bool)
    (asked : Client × List Action)
    (own : asked.1.phase ≠ .idle → asked.1.ifindex = s.ifindex)
    (cleared : asked.1.phase = .idle → ∀ e,
      ((log ++ asked.2.flatMap fun a => (perform ok a).1).filter Effect.isAddress).getLast? =
        some e → e = .clearAddress s.ifindex) :
    (s.apply ok asked).1.Tidy (log ++ (s.apply ok asked).2) ∧
      (s.apply ok asked).1.client.phase = asked.1.phase := by
  obtain ⟨c, failed, rfl, applied⟩ := s.apply_eq ok asked
  rw [applied]
  exact ⟨⟨Watch.value_writeIfNew _ _, own, cleared⟩, rfl⟩

theorem tidy_start {s : ClientService} (idle : s.client.phase = .idle) (log : List Effect)
    (now : Nat) (fresh : UInt32) (ok : Effect → Bool) :
    let r := s.apply ok (s.client.start s.ifindex s.mac now fresh)
    r.1.Tidy (log ++ r.2) ∧ r.1.client.phase ≠ .idle := by
  rw [Client.start, if_pos idle]
  have busy : ({ s.client with ifindex := s.ifindex, mac := s.mac }.discover now fresh).1.phase ≠
      .idle := by
    simp [Client.discover, Client.beginPhase]
  obtain ⟨tidy, phase⟩ := tidy_apply s log ok
    ({ s.client with ifindex := s.ifindex, mac := s.mac }.discover now fresh)
    (fun _ => rfl) (fun rest => absurd rest busy)
  exact ⟨tidy, phase ▸ busy⟩

theorem Tidy.nothing {s : ClientService} {log : List Effect} (h : s.Tidy log)
    (ok : Effect → Bool) :
    let r := s.apply ok (s.client, [])
    r.1.Tidy (log ++ r.2) ∧ r.1.client.phase = s.client.phase :=
  tidy_apply s log ok (s.client, []) h.own (by simpa using h.cleared)

theorem Tidy.stop {s : ClientService} {log : List Effect} (h : s.Tidy log) (ok : Effect → Bool) :
    let r := s.apply ok s.client.stop
    r.1.Tidy (log ++ r.2) ∧ r.1.client.phase = .idle := by
  rw [Client.stop]
  split
  · rename_i idle
    obtain ⟨tidy, phase⟩ := h.nothing ok
    exact ⟨tidy, phase.trans idle⟩
  · rename_i busy
    refine tidy_apply s log ok _ (fun rest => absurd rfl rest) fun _ e last => ?_
    have cleared := Effect.getLast?_filter_concat log (e := .clearAddress s.client.ifindex) rfl
    rw [← h.own busy]
    exact Option.some.inj (last.symm.trans cleared)

theorem Tidy.move {s : ClientService} {log : List Effect} (h : s.Tidy log) (ok : Effect → Bool)
    {input : Client.Input} (passive : input.isPassive = true) :
    let r := s.apply ok (s.client.step input)
    r.1.Tidy (log ++ r.2) ∧ (r.1.client.phase = .idle ↔ s.client.phase = .idle) := by
  have change := s.client.step_change input
  by_cases idle : s.client.phase = .idle
  · rw [change.of_idle passive idle]
    obtain ⟨tidy, phase⟩ := h.nothing ok
    exact ⟨tidy, by rw [phase]⟩
  · obtain ⟨busy, same⟩ := change.of_busy passive idle
    obtain ⟨tidy, phase⟩ := tidy_apply s log ok (s.client.step input)
      (fun _ => same.trans (h.own idle)) (fun rest => absurd rest busy)
    exact ⟨tidy, by rw [phase]; exact iff_of_false busy idle⟩

/-- The service is tidy, its client is idle exactly while the link is down, and at the end. -/
structure Orderly (s : ClientService) (log : List Effect) : Prop extends Tidy s log where
  sets : ∀ i addr prefixLength, .setAddress i addr prefixLength ∈ log → i = s.ifindex
  link : s.running = true → (s.client.phase = .idle ↔ s.connected = false)
  ended : s.running = false → s.client.phase = .idle

theorem orderly_new {client : Client} (idle : client.phase = .idle) (ifindex : UInt32)
    (mac : Mac) : (new client ifindex mac).Orderly [] :=
  ⟨⟨rfl, fun busy => absurd idle busy, fun _ _ none => nomatch none⟩,
    fun _ _ _ none => (nomatch none), fun _ => iff_of_true idle rfl, fun ended => nomatch ended⟩

/-- Every turn keeps the service orderly. -/
theorem Orderly.take {s : ClientService} {log : List Effect} (h : s.Orderly log) (t : Turn) :
    (s.take t).1.Orderly (log ++ (s.take t).2) := by
  have sets : ∀ i addr prefixLength, .setAddress i addr prefixLength ∈ log ++ (s.take t).2 →
      i = s.ifindex := by
    intro i addr prefixLength hi
    rcases List.mem_append.mp hi with old | new
    · exact h.sets i addr prefixLength old
    · obtain ⟨busy, same⟩ := take_sets new
      exact same.trans (h.own busy)
  have turned := s.take_turned t
  generalize s.take t = r at *
  cases turned with
  | still =>
      rw [List.append_nil]
      exact h
  | up running look before =>
      have idle := (h.link running).mpr before
      obtain ⟨tidy, busy⟩ :=
        tidy_start (s := { s with connected := true }) idle log t.now t.fresh t.ok
      exact ⟨tidy, sets, fun _ => iff_of_false busy Bool.noConfusion,
        fun ended => Bool.noConfusion (running.symm.trans ended)⟩
  | down running look before =>
      have still : { s with connected := false }.Tidy log := ⟨h.status, h.own, h.cleared⟩
      obtain ⟨tidy, idle⟩ := still.stop t.ok
      exact ⟨tidy, sets, fun _ => iff_of_true idle rfl, fun _ => idle⟩
  | moved running blind input passive =>
      obtain ⟨tidy, same⟩ := h.toTidy.move t.ok passive
      exact ⟨tidy, sets, fun _ => same.trans (h.link running),
        fun ended => Bool.noConfusion (running.symm.trans ended)⟩
  | ended running =>
      obtain ⟨tidy, idle⟩ := h.toTidy.stop t.ok
      exact ⟨⟨tidy.status, tidy.own, tidy.cleared⟩, sets, fun running => (nomatch running),
        fun _ => idle⟩

/-! ### Whole runs -/

theorem ifindex_run (s : ClientService) (turns : List Turn) :
    (runFrom take s turns).1.ifindex = s.ifindex := by
  refine runFrom_induction (motive := fun (r : ClientService) _ => r.ifindex = s.ifindex) ?_ rfl
    turns
  intro r _ t same
  have turned := r.take_turned t
  generalize r.take t = done at *
  cases turned <;> exact same

theorem run_orderly {client : Client} (idle : client.phase = .idle) (ifindex : UInt32) (mac : Mac)
    (turns : List Turn) :
    let r := runFrom take (new client ifindex mac) turns
    r.1.Orderly r.2 :=
  runFrom_induction (motive := Orderly) (fun _ _ t h => h.take t) (orderly_new idle ifindex mac)
    turns

/-- The link after some turns, as far as the service has looked at it. -/
def looked (connected : Bool) : List Turn → Bool
  | [] => connected
  | t :: rest =>
    looked (match t.input with
      | .link up => up
      | _ => connected) rest

/-- A service that still runs knows the last state of the link that it was to look at. -/
theorem connected_run {s : ClientService} {turns : List Turn}
    (h : (runFrom take s turns).1.running = true) :
    s.running = true ∧ (runFrom take s turns).1.connected = looked s.connected turns := by
  induction turns generalizing s with
  | nil => exact ⟨h, rfl⟩
  | cons t rest ih =>
      obtain ⟨running, known⟩ := ih h
      rw [looked, runFrom, known]
      have turned := s.take_turned t
      generalize s.take t = r at *
      cases turned with
      | still same =>
          refine ⟨running, ?_⟩
          split
          · rename_i up look
            rw [same running up look]
          · rfl
      | up before look => exact ⟨before, by rw [look]; rfl⟩
      | down before look => exact ⟨before, by rw [look]; rfl⟩
      | moved before blind =>
          refine ⟨before, ?_⟩
          split
          · rename_i up look
            exact absurd look (blind up)
          · rfl
      | ended => cases running

/-- **The service follows the link and cleans up.** While the service runs, its client is idle
exactly if the link was down when it was last looked at, and the published status is the client's.
When it has ended and an address was ever set, the last that was done about addresses was to remove
them. A client that is idle removes none, and a default route is set directly behind the address of
the lease that the client has then, if that succeeded; whatever fails. -/
theorem follows_link_and_cleans_up (client : Client) (idle : client.phase = .idle)
    (ifindex : UInt32) (mac : Mac) (turns : List Turn) :
    let r := runFrom take (new client ifindex mac) turns
    (r.1.running = true → (r.1.client.phase = .idle ↔ looked false turns = false)) ∧
    r.1.status.value = r.1.client.status ∧
    (r.1.running = false → ∀ i addr prefixLength, .setAddress i addr prefixLength ∈ r.2 →
      i = ifindex ∧ (r.2.filter Effect.isAddress).getLast? = some (.clearAddress ifindex)) ∧
    ∀ t : Turn,
      (r.1.client.phase = .idle → ∀ i, .clearAddress i ∉ (r.1.take t).2) ∧
      ∀ before after i g, (r.1.take t).2 = before ++ .setDefaultRoute i g :: after →
        ∃ l, (r.1.take t).1.client.lease = some l ∧ l.gateway = some g ∧
          before = [.setAddress i l.addr l.subnetMask.prefixLength] ∧
          t.ok (.setAddress i l.addr l.subnetMask.prefixLength) = true := by
  intro r
  have orderly : r.1.Orderly r.2 := run_orderly idle ifindex mac turns
  have own : r.1.ifindex = ifindex := ifindex_run (new client ifindex mac) turns
  refine ⟨fun running => ?_, orderly.status, fun ended i addr prefixLength set => ?_, fun t => ?_⟩
  · rw [orderly.link running, (connected_run running).2]
    rfl
  · refine ⟨(orderly.sets i addr prefixLength set).trans own, ?_⟩
    cases last : (r.2.filter Effect.isAddress).getLast? with
    | none =>
        have none := List.filter_eq_nil_iff.mp (List.getLast?_eq_none_iff.mp last) _ set
        exact absurd rfl none
    | some e => rw [orderly.cleared (orderly.ended ended) e last, own]
  · exact ⟨fun rest i clears => take_clears clears rest, fun _ _ _ _ route => take_route route⟩

/-- What a server says to a client in a transaction. -/
def answer (kind : Kind) (xid : UInt32) : Packet :=
  { Packet.replyTo (.ofClient .discover xid ⟨2, 0, 0, 0, 0, 10⟩) kind (Ipv4.ofBytes 10 0 0 1) with
    yiaddr := Ipv4.ofBytes 10 0 0 2
    options :=
      { kind := some kind
        serverId := some (Ipv4.ofBytes 10 0 0 1)
        routers := [Ipv4.ofBytes 10 0 0 1] } }

/-- A lease of which the route fails, a renewal of which the address fails, and a removal that fails
when the link goes down; then the link comes up again, and the service ends. -/
def failing : List Turn :=
  [⟨.link true, 0, 7, fun _ => true⟩, ⟨.received (.ok (answer .offer 7)), 100, 8, fun _ => true⟩,
    ⟨.received (.ok (answer .ack 8)), 200, 9, fun e => e.isAddress⟩,
    ⟨.received (.error (.packet (.truncated 3))), 300, 9, fun _ => true⟩,
    ⟨.timer, 1800200, 20, fun _ => true⟩,
    ⟨.received (.ok (answer .ack 20)), 1800300, 21, fun _ => false⟩,
    ⟨.link false, 1800400, 22, fun _ => false⟩, ⟨.link true, 1800500, 23, fun _ => true⟩,
    ⟨.shutdown, 1800600, 24, fun _ => true⟩]

theorem follows_link_and_cleans_up_failing :
    let r := runFrom take (new (.new 4 3000) 3 ⟨2, 0, 0, 0, 0, 10⟩) failing
    r.1.running = false ∧ .setAddress 3 (Ipv4.ofBytes 10 0 0 2) 24 ∈ r.2 ∧
    (r.2.filter Effect.isAddress).getLast? = some (.clearAddress 3) := by
  intro r
  have ended : r.1.running = false := by decide
  have set : .setAddress 3 (Ipv4.ofBytes 10 0 0 2) 24 ∈ r.2 := by decide
  obtain ⟨-, -, cleared, -⟩ :=
    follows_link_and_cleans_up (.new 4 3000) rfl 3 ⟨2, 0, 0, 0, 0, 10⟩ failing
  exact ⟨ended, set, (cleared ended _ _ _ set).2⟩

end ClientService

end WifiStation.Dhcp
