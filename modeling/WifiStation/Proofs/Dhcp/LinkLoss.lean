import WifiStation.Proofs.Dhcp.ServiceRun
import WifiStation.Supplicant.Monitor

/-!
# WifiStation.Proofs.Dhcp.LinkLoss

Which losses of the link the client's service acts on.

The supplicant's monitor publishes the link, and the service looks at what was published when it
comes to it. Only the newest publication is kept, and the service acts on a link that is not as it
was when it last looked. So what counts is the order of publications and looks: `sights` are the
links that were the newest at a look.

The invariant (`Follower.Sound`) is that a service which has looked at the newest publication knows
whether the link is up, and has no lease while it takes the link for down. From a lease on, the
first sight of a link that is down ends the lease (`Sound.lose`). Without such a sight the
publications and the looks leave no trace (`ignore_run`): a loss that is overwritten before the
service looks is never acted on, however long it lasted.
-/

namespace WifiStation.Dhcp

open WifiStation.Net WifiStation.Supplicant

/-- A client that becomes idle has no lease then. -/
theorem Client.Change.bare {c : Client} {input : Input} {r : Client × List Action}
    (h : Change c input r) (bare : c.phase = .idle → c.lease = none) :
    r.1.phase = .idle → r.1.lease = none := by
  cases h with
  | stopped => exact fun _ => rfl
  | running | resting | failed | ignored | waiting => exact bare
  | started | offered | leased | refused | renewed => exact fun idle => (nomatch idle)
  | resent now fresh due phase | gaveUp now fresh due phase =>
      exact fun idle => absurd idle phase.busy

namespace ClientService

/-! ### Looks at the link -/

theorem take_link {s : ClientService} (running : s.running = true) (up : Bool) (now : Nat)
    (fresh : UInt32) (ok : Effect → Bool) :
    s.take ⟨.link up, now, fresh, ok⟩ = s.follow up now fresh ok := by
  rw [take, step, if_pos running]

/-- A service that sees the link as it knows it does nothing. -/
theorem take_known {s : ClientService} (running : s.running = true) (now : Nat) (fresh : UInt32)
    (ok : Effect → Bool) : s.take ⟨.link s.connected, now, fresh, ok⟩ = (s, []) := by
  rw [take_link running, follow, if_pos rfl]

/-- A service that sees the link go down gives up the address and the lease. -/
theorem take_down {s : ClientService} (running : s.running = true) (connected : s.connected = true)
    (busy : s.client.phase ≠ .idle) (now : Nat) (fresh : UInt32) (ok : Effect → Bool) :
    let r := s.take ⟨.link false, now, fresh, ok⟩
    r.2 = [.clearAddress s.client.ifindex] ∧ r.1.client.phase = .idle ∧
      r.1.client.lease = none ∧ r.1.connected = false := by
  have looked : s.take ⟨.link false, now, fresh, ok⟩ =
      { s with connected := false }.apply ok s.client.stop := by
    rw [take_link running, follow, if_neg (by simp [connected])]
    rfl
  obtain ⟨c, failed, rfl, applied⟩ := apply_eq { s with connected := false } ok s.client.stop
  intro r
  rw [show r = _ from looked.trans applied, Client.stop, if_neg busy]
  exact ⟨rfl, rfl, rfl, rfl⟩

/-- A service that sees the link come up looks for servers. -/
theorem take_up {s : ClientService} (running : s.running = true) (connected : s.connected = false)
    (idle : s.client.phase = .idle) (now : Nat) (fresh : UInt32) (ok : Effect → Bool) :
    (s.take ⟨.link true, now, fresh, ok⟩).2 = [.send (.ofClient .discover fresh s.mac)] := by
  have looked : s.take ⟨.link true, now, fresh, ok⟩ =
      { s with connected := true }.apply ok (s.client.start s.ifindex s.mac now fresh) := by
    rw [take_link running, follow, if_neg (by simp [connected])]
    rfl
  obtain ⟨c, failed, -, applied⟩ := apply_eq { s with connected := true } ok
    (s.client.start s.ifindex s.mac now fresh)
  rw [looked, applied, Client.start, if_pos idle]
  rfl

theorem take_bare {s : ClientService} (bare : s.client.phase = .idle → s.client.lease = none)
    (t : Turn) : (s.take t).1.client.phase = .idle → (s.take t).1.client.lease = none := by
  obtain ⟨input, r, failed, change, client, -⟩ := s.take_acts t
  rw [client]
  exact change.bare bare

theorem device_take (s : ClientService) (t : Turn) :
    (s.take t).1.ifindex = s.ifindex ∧ (s.take t).1.mac = s.mac := by
  have turned := s.take_turned t
  generalize s.take t = done at *
  cases turned <;> exact ⟨rfl, rfl⟩

/-- What a turn that still leaves the service running has it know of the link. -/
theorem connected_take {s : ClientService} {t : Turn} (h : (s.take t).1.running = true) :
    s.running = true ∧ (s.take t).1.connected = looked s.connected [t] :=
  connected_run (show (runFrom take s [t]).1.running = true from h)

/-- A service that finds the source of link states gone ends. -/
theorem running_take_linkClosed (s : ClientService) (now : Nat) (fresh : UInt32)
    (ok : Effect → Bool) : (s.take ⟨.linkClosed, now, fresh, ok⟩).1.running = false := by
  rw [take, ClientService.step]
  split
  · rfl
  · exact Bool.eq_false_iff.mpr ‹_›

end ClientService

open ClientService

/-! ### The service and what it follows -/

/-- The client's service with the supplicant's monitor whose link it follows. -/
structure Follower where
  source : Monitor
  service : ClientService
  /-- The version of the published link that the service has looked at last. -/
  seen : Nat := 0

namespace Follower

/-- The newest publication. -/
def up (f : Follower) : Bool := f.source.published.value.connected

/-- Whether an input of the service is not about the link. -/
def isOwn : ServiceInput → Bool
  | .link _ | .linkClosed => false
  | _ => true

/-- What can happen next. -/
inductive Move where
  /-- The monitor publishes a link. -/
  | publish (link : LinkState)
  /-- The monitor goes away. -/
  | close
  /-- The service comes to look at what was published. -/
  | look (now : Nat) (fresh : UInt32) (ok : Effect → Bool)
  /-- The service has something else to do. -/
  | serve (t : Turn) (own : isOwn t.input = true)

/-- The turn of a move that is the service's own. -/
def Move.own? : Move → Option Turn
  | .serve t _ => some t
  | _ => none

def serve (f : Follower) (t : Turn) : Follower × List Effect :=
  let r := f.service.take t
  ({ f with service := r.1 }, r.2)

/-- The service looks at the newest publication. -/
def see (f : Follower) (now : Nat) (fresh : UInt32) (ok : Effect → Bool) :
    Follower × List Effect :=
  let r := f.serve ⟨.link f.up, now, fresh, ok⟩
  ({ r.1 with seen := f.source.published.version }, r.2)

/-- One move; a service that comes to look finds only what it has not looked at before. -/
def step (f : Follower) : Move → Follower × List Effect
  | .publish link => ({ f with source := { f.source with link }.publish }, [])
  | .close => ({ f with source := { f.source with published := f.source.published.close } }, [])
  | .look now fresh ok =>
    match f.source.published.poll f.seen with
    | .changed => f.see now fresh ok
    | .closed => f.serve ⟨.linkClosed, now, fresh, ok⟩
    | .pending => (f, [])
  | .serve t _ => f.serve t

/-- Moves one after the other, with all effects. -/
def run (f : Follower) (moves : List Move) : Follower × List Effect := runFrom step f moves

/-- A new service looks at the link before anything else. -/
def start (client : Client) (ifindex : UInt32) (mac : Mac) (source : Monitor) (now : Nat)
    (fresh : UInt32) (ok : Effect → Bool) : Follower × List Effect :=
  ({ source, service := .new client ifindex mac } : Follower).see now fresh ok

/-- The newest publication after a move. -/
def Move.newest (up : Bool) : Move → Bool
  | .publish link => link.connected
  | _ => up

/-- The link that the service finds published if it comes to look. -/
def Move.sight? (up : Bool) : Move → Option Bool
  | .look .. => some up
  | _ => none

/-- The links that the service finds published, from a newest publication on. They depend on the
order of publications and looks alone. -/
def sights (up : Bool) : List Move → List Bool
  | [] => []
  | m :: rest => (m.sight? up).toList ++ sights (m.newest up) rest

/-- Some look among the moves has a property, which may be about its transaction id, the moves
behind it and what comes of it. -/
def SomeLook (f : Follower) (moves : List Move)
    (motive : UInt32 → List Move → Follower × List Effect → Prop) : Prop :=
  ∃ pre now fresh ok post, moves = pre ++ .look now fresh ok :: post ∧
    motive fresh post ((f.run pre).1.step (.look now fresh ok))

/-! ### What the service knows -/

/-- The service is orderly, its client has no lease while idle, and if it has looked at the newest
publication it knows whether the link is up. -/
structure Sound (f : Follower) (log : List Effect) : Prop where
  orderly : f.service.Orderly log
  bare : f.service.client.phase = .idle → f.service.client.lease = none
  behind : f.seen ≤ f.source.published.version
  current : f.service.running = true → f.seen = f.source.published.version →
    f.service.connected = f.up

variable {f : Follower} {log : List Effect}

/-- A lease is held by a service that runs and takes the link for up. -/
theorem Sound.of_lease (h : f.Sound log) (held : f.service.client.lease ≠ none) :
    f.service.running = true ∧ f.service.connected = true := by
  have busy : f.service.client.phase ≠ .idle := fun idle => held (h.bare idle)
  cases running : f.service.running with
  | false => exact absurd (h.orderly.ended running) busy
  | true =>
      refine ⟨rfl, ?_⟩
      cases connected : f.service.connected with
      | false => exact absurd ((h.orderly.link running).mpr connected) busy
      | true => rfl

/-- To look is to know. -/
theorem see_known (f : Follower) (now : Nat) (fresh : UInt32) (ok : Effect → Bool)
    (running : (f.see now fresh ok).1.service.running = true) :
    (f.see now fresh ok).1.service.connected = f.up :=
  (connected_take running).2

theorem Sound.see (h : f.Sound log) (now : Nat) (fresh : UInt32) (ok : Effect → Bool) :
    (f.see now fresh ok).1.Sound (log ++ (f.see now fresh ok).2) where
  orderly := h.orderly.take _
  bare := take_bare h.bare _
  behind := Nat.le_refl _
  current running _ := f.see_known now fresh ok running

/-- A turn that is not about the link leaves what the service knows of it. -/
theorem connected_own {s : ClientService} {t : Turn} (own : isOwn t.input = true)
    (running : (s.take t).1.running = true) : (s.take t).1.connected = s.connected := by
  rw [(connected_take running).2, looked]
  cases input : t.input with
  | link | linkClosed => rw [input] at own; cases own
  | received | timer | shutdown => rfl

theorem Sound.step (h : f.Sound log) (m : Move) : (f.step m).1.Sound (log ++ (f.step m).2) := by
  cases m with
  | publish link =>
      rw [Follower.step, List.append_nil]
      refine ⟨h.orderly, h.bare, Nat.le_succ_of_le h.behind, fun _ same => ?_⟩
      exact absurd same (Nat.ne_of_lt (Nat.lt_succ_of_le h.behind))
  | close =>
      rw [Follower.step, List.append_nil]
      exact ⟨h.orderly, h.bare, h.behind, h.current⟩
  | serve t own =>
      exact ⟨h.orderly.take t, take_bare h.bare t, h.behind, fun running same =>
        (connected_own own running).trans (h.current (connected_take running).1 same)⟩
  | look now fresh ok =>
      rw [Follower.step]
      split
      · exact h.see now fresh ok
      · refine ⟨h.orderly.take _, take_bare h.bare _, h.behind, fun running _ => ?_⟩
        exact Bool.noConfusion (running.symm.trans (running_take_linkClosed ..))
      · rw [List.append_nil]
        exact h

/-- A new service is sound when it has looked at the link. -/
theorem start_sound (maxAttempts retransmitMs : Nat) (ifindex : UInt32) (mac : Mac)
    (source : Monitor) (now : Nat) (fresh : UInt32) (ok : Effect → Bool) :
    let r := start (.new maxAttempts retransmitMs) ifindex mac source now fresh ok
    r.1.Sound r.2 := by
  refine ⟨(orderly_new rfl ifindex mac).take _, take_bare (fun _ => rfl) _, Nat.le_refl _, ?_⟩
  exact fun running _ => see_known _ now fresh ok running

/-- Every run keeps the service sound. -/
theorem Sound.run (h : f.Sound log) (moves : List Move) :
    (f.run moves).1.Sound (log ++ (f.run moves).2) :=
  runFrom_induction (motive := fun (g : Follower) out => g.Sound (log ++ out))
    (fun _ _ m sound => by rw [← List.append_assoc]; exact sound.step m)
    (by rwa [List.append_nil]) moves

theorem device_step (f : Follower) (m : Move) :
    (f.step m).1.service.ifindex = f.service.ifindex ∧
      (f.step m).1.service.mac = f.service.mac := by
  cases m with
  | publish | close => exact ⟨rfl, rfl⟩
  | serve t own => exact device_take f.service t
  | look now fresh ok =>
      rw [step]
      split
      · exact device_take f.service _
      · exact device_take f.service _
      · exact ⟨rfl, rfl⟩

theorem device_run (f : Follower) (moves : List Move) :
    (f.run moves).1.service.ifindex = f.service.ifindex ∧
      (f.run moves).1.service.mac = f.service.mac :=
  runFrom_induction (motive := fun (g : Follower) _ => g.service.ifindex = f.service.ifindex ∧
      g.service.mac = f.service.mac)
    (fun g _ m same => ⟨(g.device_step m).1.trans same.1, (g.device_step m).2.trans same.2⟩)
    ⟨rfl, rfl⟩ moves

/-- A service that has ended does not run again. -/
theorem running_of_step {m : Move} (h : (f.step m).1.service.running = true) :
    f.service.running = true := by
  cases m with
  | publish | close => exact h
  | serve t own => exact (connected_take h).1
  | look now fresh ok =>
      rw [step] at h
      split at h
      · exact (connected_take h).1
      · exact (connected_take h).1
      · exact h

theorem running_of_run {moves : List Move}
    (h : (f.run moves).1.service.running = true) : f.service.running = true := by
  induction moves generalizing f with
  | nil => exact h
  | cons m rest ih => exact running_of_step (ih h)

/-- A look that leaves the service running finds another publication, or finds nothing. -/
theorem step_look {now : Nat} {fresh : UInt32} {ok : Effect → Bool}
    (running : (f.step (.look now fresh ok)).1.service.running = true) :
    f.step (.look now fresh ok) = f.see now fresh ok ∨ f.step (.look now fresh ok) = (f, []) := by
  rw [step] at running ⊢
  split
  · exact .inl rfl
  · rename_i closed
    rw [closed] at running
    exact Bool.noConfusion (running.symm.trans (running_take_linkClosed ..))
  · exact .inr rfl

theorem up_step (f : Follower) (m : Move) : (f.step m).1.up = m.newest f.up := by
  cases m with
  | publish | close | serve => rfl
  | look now fresh ok =>
      rw [step]
      split <;> rfl

theorem mem_sights_cons {b : Bool} {m : Move} {rest : List Move} :
    b ∈ sights f.up (m :: rest) ↔ m.sight? f.up = some b ∨ b ∈ sights (f.step m).1.up rest := by
  rw [sights, List.mem_append, Option.mem_toList, up_step]

theorem SomeLook.cons {m : Move} {rest : List Move}
    {motive : UInt32 → List Move → Follower × List Effect → Prop}
    (h : (f.step m).1.SomeLook rest motive) : f.SomeLook (m :: rest) motive := by
  obtain ⟨pre, now, fresh, ok, post, rfl, found⟩ := h
  exact ⟨m :: pre, now, fresh, ok, post, rfl, found⟩

/-! ### Losses that are overwritten -/

/-- As long as the service takes the link for up and does not see it down, a move does no more than
let the service do what it has to do by itself. -/
theorem ignore_step (connected : f.service.connected = true) {m : Move}
    (running : (f.step m).1.service.running = true) (unseen : m.sight? f.up ≠ some false) :
    ((f.step m).1.service, (f.step m).2) = runFrom take f.service m.own?.toList ∧
      (f.step m).1.service.connected = true := by
  cases m with
  | publish link => exact ⟨rfl, connected⟩
  | close => exact ⟨rfl, connected⟩
  | serve t own =>
      refine ⟨?_, (connected_own own running).trans connected⟩
      simp [Move.own?, runFrom, Follower.step, serve]
  | look now fresh ok =>
      have up : f.up = f.service.connected := by
        rw [connected]
        exact Bool.ne_false_iff.mp fun down => unseen (congrArg some down)
      rcases step_look running with sees | idles
      · rw [sees, Follower.see, serve, up, take_known (running_of_step running)]
        exact ⟨rfl, connected⟩
      · rw [idles]
        exact ⟨rfl, connected⟩

theorem ignore_run (connected : f.service.connected = true) {moves : List Move}
    (running : (f.run moves).1.service.running = true) (unseen : false ∉ sights f.up moves) :
    ((f.run moves).1.service, (f.run moves).2) =
      runFrom take f.service (moves.filterMap Move.own?) := by
  induction moves generalizing f with
  | nil => rfl
  | cons m rest ih =>
      obtain ⟨acts, connected'⟩ := ignore_step connected (running_of_run running)
        fun seen => unseen (mem_sights_cons.mpr (.inl seen))
      have others := ih connected' running fun seen => unseen (mem_sights_cons.mpr (.inr seen))
      have split : (m :: rest).filterMap Move.own? =
          m.own?.toList ++ rest.filterMap Move.own? := by
        cases own : m.own? <;> simp [own]
      rw [split, runFrom_append, ← acts, ← others]
      rfl

/-! ### Losses that are seen -/

/-- The first sight of a link that is down ends the lease. -/
theorem Sound.lose_step (h : f.Sound log) (connected : f.service.connected = true)
    (running : f.service.running = true) {m : Move} (seen : m.sight? f.up = some false) :
    ∃ now fresh ok, m = .look now fresh ok ∧
      (f.step m).2 = [.clearAddress f.service.ifindex] ∧
      (f.step m).1.service.client.phase = .idle ∧ (f.step m).1.service.client.lease = none ∧
      (f.step m).1.service.connected = false := by
  cases m with
  | publish | close | serve => cases seen
  | look now fresh ok =>
      have down : f.up = false := Option.some.inj seen
      have busy : f.service.client.phase ≠ .idle := by
        rw [Ne, h.orderly.link running, connected]
        exact Bool.noConfusion
      -- the service would know of it if it had looked already
      have changed : f.source.published.poll f.seen = .changed := by
        refine (Watch.poll_eq_changed_iff _ _).mpr fun same => ?_
        have known := h.current running same.symm
        rw [connected, down] at known
        cases known
      refine ⟨now, fresh, ok, rfl, ?_⟩
      rw [Follower.step, changed, ← h.orderly.own busy]
      dsimp only
      rw [Follower.see, serve, down]
      exact take_down running connected busy now fresh ok

theorem Sound.lose (h : f.Sound log) (connected : f.service.connected = true) {moves : List Move}
    (running : (f.run moves).1.service.running = true) (seen : false ∈ sights f.up moves) :
    f.SomeLook moves fun _ _ lost => lost.2 = [.clearAddress f.service.ifindex] ∧
      lost.1.service.client.phase = .idle ∧ lost.1.service.client.lease = none ∧
      lost.1.service.connected = false := by
  induction moves generalizing f log with
  | nil => cases seen
  | cons m rest ih =>
      by_cases here : m.sight? f.up = some false
      · obtain ⟨now, fresh, ok, rfl, lost⟩ :=
          h.lose_step connected (running_of_run running) here
        exact ⟨[], now, fresh, ok, rest, rfl, lost⟩
      · have later := (mem_sights_cons.mp seen).resolve_left here
        have connected' := (ignore_step connected (running_of_run running) here).2
        rw [← (f.device_step m).1]
        exact (ih (h.step m) connected' running later).cons

/-! ### Links that come back -/

theorem Sound.resume_step (h : f.Sound log) (before : f.service.connected = false) {m : Move}
    (running : (f.step m).1.service.running = true)
    (after : (f.step m).1.service.connected = true) :
    ∃ now fresh ok, m = .look now fresh ok ∧
      (f.step m).2 = [.send (.ofClient .discover fresh f.service.mac)] := by
  have still : (f.step m).1.service.connected ≠ f.service.connected := by
    rw [before, after]
    exact Bool.noConfusion
  cases m with
  | publish | close => exact absurd rfl still
  | serve t own => exact absurd (connected_own own running) still
  | look now fresh ok =>
      have ran := running_of_step running
      rcases step_look running with sees | idles
      · rw [sees] at running after
        have up : f.up = true := (f.see_known now fresh ok running).symm.trans after
        rw [sees, Follower.see, serve, up]
        exact ⟨now, fresh, ok, rfl,
          take_up ran before ((h.orderly.link ran).mpr before) now fresh ok⟩
      · rw [idles] at still
        exact absurd rfl still

/-- A service that took the link for down and takes it for up has looked for servers in between. -/
theorem Sound.resume (h : f.Sound log) (before : f.service.connected = false) {moves : List Move}
    (running : (f.run moves).1.service.running = true)
    (after : (f.run moves).1.service.connected = true) :
    f.SomeLook moves fun fresh _ found =>
      found.2 = [.send (.ofClient .discover fresh f.service.mac)] := by
  induction moves generalizing f log with
  | nil => exact Bool.noConfusion (before.symm.trans after)
  | cons m rest ih =>
      cases between : (f.step m).1.service.connected with
      | true =>
          obtain ⟨now, fresh, ok, rfl, found⟩ :=
            h.resume_step before (running_of_run running) between
          exact ⟨[], now, fresh, ok, rest, rfl, found⟩
      | false =>
          rw [← (f.device_step m).2]
          exact (ih (h.step m) between running after).cons

theorem run_append (f : Follower) (pre moves : List Move) :
    (f.run (pre ++ moves)).1 = ((f.run pre).1.run moves).1 := by
  rw [run, runFrom_append]
  rfl

/-- **A loss of the link ends a lease if it is seen, and is ignored if it is not.** Take any run up
to a lease, and any moves after it. If the service finds the link down at some look, there is a look
at which it gives up the address and the lease; and if it has looked at the newest publication in
the end and the link is up, it has sent a DISCOVER with a new transaction id since. If it never
finds the link down, then all that becomes of it, and all it does, is what its own turns amount to
without any publication, whatever was published and overwritten. A service that has ended has no
lease. -/
theorem loss_seen_or_ignored (maxAttempts retransmitMs : Nat) (ifindex : UInt32) (mac : Mac)
    (source : Monitor) (now : Nat) (fresh : UInt32) (ok : Effect → Bool)
    (before after : List Move) :
    let s := (start (.new maxAttempts retransmitMs) ifindex mac source now fresh ok).1
    let f := (s.run before).1
    let r := f.run after
    f.service.client.lease ≠ none →
      (r.1.service.running = false → r.1.service.client.lease = none) ∧
      (r.1.service.running = true →
        (false ∈ sights f.up after →
          f.SomeLook after fun _ post lost =>
            lost.2 = [.clearAddress ifindex] ∧ lost.1.service.client.phase = .idle ∧
            lost.1.service.client.lease = none ∧
            (r.1.seen = r.1.source.published.version → r.1.up = true →
              lost.1.SomeLook post fun fresh _ found =>
                found.2 = [.send (.ofClient .discover fresh mac)])) ∧
        (false ∉ sights f.up after →
          (r.1.service, r.2) = runFrom take f.service (after.filterMap Move.own?))) := by
  intro s f r held
  have sound := (start_sound maxAttempts retransmitMs ifindex mac source now fresh ok).run before
  obtain ⟨-, connected⟩ := sound.of_lease held
  have ended := sound.run after
  refine ⟨fun stopped => ended.bare (ended.orderly.ended stopped), fun running =>
    ⟨fun seen => ?_, ignore_run connected running⟩⟩
  have device : f.service.ifindex = ifindex ∧ f.service.mac = mac := by
    obtain ⟨sameIndex, sameMac⟩ := s.device_run before
    obtain ⟨index, address⟩ := device_take (.new (.new maxAttempts retransmitMs) ifindex mac)
      ⟨.link source.published.value.connected, now, fresh, ok⟩
    exact ⟨sameIndex.trans index, sameMac.trans address⟩
  obtain ⟨pre, now', fresh', ok', post, rfl, cleared, idle, bare, down⟩ :=
    sound.lose connected running seen
  refine ⟨pre, now', fresh', ok', post, rfl, device.1 ▸ cleared, idle, bare, fun settled up => ?_⟩
  have rest : r.1 = ((((f.run pre).1.step (.look now' fresh' ok')).1).run post).1 := f.run_append ..
  have mac' : ((f.run pre).1.step (.look now' fresh' ok')).1.service.mac = mac :=
    (device_step _ _).2.trans ((f.device_run pre).2.trans device.2)
  have known := (ended.current running settled).trans up
  rw [rest] at running known
  rw [← mac']
  exact ((sound.run pre).step _).resume down running known

/-- A service that finds the link up. -/
def linked : Follower :=
  (start (.new 4 3000) 3 ⟨2, 0, 0, 0, 0, 10⟩ (Monitor.ofChannels.setConnected true) 0 7
    fun _ => true).1

/-- An offer and a lease. -/
def granting : List Move :=
  [.serve ⟨.received (.ok (answer .offer 7)), 100, 8, fun _ => true⟩ rfl,
    .serve ⟨.received (.ok (answer .ack 8)), 200, 9, fun _ => true⟩ rfl]

/-- The link is lost and comes back, and the service looks each time. -/
def lossSeen : List Move :=
  [.publish {}, .look 300 9 fun _ => true, .publish { connected := true },
    .look 400 9 fun _ => true]

theorem loss_seen_or_ignored_seen :
    let f := (linked.run granting).1
    let r := f.run lossSeen
    f.service.client.lease ≠ none ∧ r.1.service.running = true ∧ false ∈ sights f.up lossSeen ∧
    r.1.seen = r.1.source.published.version ∧ r.1.up = true ∧
    f.SomeLook lossSeen fun _ post lost =>
      lost.2 = [.clearAddress 3] ∧ lost.1.service.client.lease = none ∧
      lost.1.SomeLook post fun fresh _ found =>
        found.2 = [.send (.ofClient .discover fresh ⟨2, 0, 0, 0, 0, 10⟩)] := by
  intro f r
  have held : f.service.client.lease ≠ none := by decide
  have running : r.1.service.running = true := by decide
  have seen : false ∈ sights f.up lossSeen := by decide
  have settled : r.1.seen = r.1.source.published.version := by decide
  have up : r.1.up = true := by decide
  obtain ⟨-, alive⟩ := loss_seen_or_ignored 4 3000 3 ⟨2, 0, 0, 0, 0, 10⟩
    (Monitor.ofChannels.setConnected true) 0 7 (fun _ => true) granting lossSeen held
  obtain ⟨pre, now, fresh, ok, post, split, cleared, -, bare, back⟩ := (alive running).1 seen
  exact ⟨held, running, seen, settled, up, pre, now, fresh, ok, post, split, cleared, bare,
    back settled up⟩

/-- The link is lost and comes back before the service looks. -/
def lossOverwritten : List Move :=
  [.publish {}, .publish { connected := true }, .look 300 9 fun _ => true]

/-- The service has looked at the newest publication, keeps the lease from before the loss, and has
done nothing. -/
theorem lease_kept_over_loss :
    let f := (linked.run granting).1
    let r := f.run lossOverwritten
    f.service.client.lease ≠ none ∧ r.1.service.running = true ∧
    r.1.source.published.poll r.1.seen = .pending ∧
    r.1.service.client.lease = f.service.client.lease ∧ r.2 = [] := by
  decide

end Follower

end WifiStation.Dhcp
