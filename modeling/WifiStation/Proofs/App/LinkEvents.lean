import Mathlib.Data.List.Chain
import WifiStation.Network
import WifiStation.Proofs.App.Subscriber

/-!
# WifiStation.Proofs.App.LinkEvents

The events that an app makes of the states pushed to it.

A push is an event exactly if its link is in another state than that of the push before, and the
event tells how the link is from then on (`NetworkEvent.telling`). Both are said of one push
(`networkEvent?_eq`, `Tracker.run_cons`) and carried along the pushes, always from a tracker in any
state: how many events there are, what the last of them tells, and which event may follow which. For
the last two the state that the tracker starts with counts as told already.
-/

namespace WifiStation.App

/-- The event that tells of the link in a state. -/
def NetworkEvent.telling (s : NetworkState) : NetworkEvent :=
  if s.supplicant.is .active then .supplicantConnected else .supplicantDisconnected

/-- How many of the states differ from the one before, the first of them from `start`. -/
def changes (start : UInt32) (states : List UInt32) : Nat :=
  ((start :: states).zip states).countP fun pair => pair.1 ≠ pair.2

/-- The state of the link in a push. -/
def linkStates (pushes : List NetworkState) : List UInt32 := pushes.map (·.supplicant.state)

theorem changes_cons (start state : UInt32) (states : List UInt32) :
    changes start (state :: states) = changes state states + if start = state then 0 else 1 := by
  by_cases same : start = state <;> simp [changes, same]

namespace NetworkEvent

theorem telling_eq_connected_iff {s : NetworkState} :
    telling s = .supplicantConnected ↔ s.supplicant.is .active = true := by
  unfold telling
  split <;> simp_all

theorem telling_congr {s t : NetworkState} (same : s.supplicant.state = t.supplicant.state) :
    telling s = telling t := by
  unfold telling StatePair.is
  rw [same]

/-- Two states of which one event tells are the same state, if it is that of a link that is up. -/
theorem state_eq_of_connected {s t : NetworkState} (hs : telling s = .supplicantConnected)
    (ht : telling t = .supplicantConnected) : s.supplicant.state = t.supplicant.state := by
  simp only [telling_eq_connected_iff, StatePair.is, beq_iff_eq] at hs ht
  rw [hs, ht]

end NetworkEvent

open NetworkEvent

/-! ### One push -/

theorem networkEvent?_eq (before after : NetworkState) :
    networkEvent? before after =
      if before.supplicant.state = after.supplicant.state then none else some (telling after) := by
  simp only [networkEvent?, telling, eq_comm (a := after.supplicant.state)]
  split
  · rfl
  · split <;> rfl

namespace Tracker

/-- A push that is not new is no change of the link either. -/
theorem event_update (t : Tracker) (s : NetworkState) :
    (t.update s).2 = networkEvent? t.current s := by
  unfold update
  split
  · rename_i same
    simp [networkEvent?_eq, same]
  · rfl

theorem run_cons (t : Tracker) (s : NetworkState) (rest : List NetworkState) :
    t.run (s :: rest) =
      ((run ⟨s⟩ rest).1, (networkEvent? t.current s).toList ++ (run ⟨s⟩ rest).2) := by
  have kept : (t.update s).1 = ⟨s⟩ := congrArg Tracker.mk (current_update t s)
  rw [run, event_update, kept]

/-! ### A run -/

/-- What is kept is the last push. -/
theorem current_run (t : Tracker) (pushes : List NetworkState) :
    (t.run pushes).1.current = pushes.getLast?.getD t.current := by
  induction pushes generalizing t with
  | nil => rfl
  | cons s rest ih => rw [run_cons, ih, List.getLast?_cons, Option.getD_some]

/-- There is one event for each change of the link's state. -/
theorem length_run (t : Tracker) (pushes : List NetworkState) :
    (t.run pushes).2.length = changes t.current.supplicant.state (linkStates pushes) := by
  induction pushes generalizing t with
  | nil => rfl
  | cons s rest ih =>
      have more : changes t.current.supplicant.state (linkStates (s :: rest)) = _ :=
        changes_cons t.current.supplicant.state s.supplicant.state (linkStates rest)
      rw [run_cons, List.length_append, ih, networkEvent?_eq, more, Nat.add_comm]
      split <;> rfl

/-- The last event tells of the last push, even if there have been pushes behind the event. -/
theorem getLast?_run (t : Tracker) (pushes : List NetworkState) :
    (t.run pushes).2.getLast?.getD (telling t.current) = telling (t.run pushes).1.current := by
  induction pushes generalizing t with
  | nil => rfl
  | cons s rest ih =>
      rw [run_cons, ← ih, networkEvent?_eq]
      split
      · rename_i same
        rw [telling_congr same]
        rfl
      · rw [Option.toList_some, List.singleton_append, List.getLast?_cons, Option.getD_some]

/-- If states of one kind are pushed and a change between two of them leads from one event to
another that may follow it, every event may follow the one before. -/
theorem isChain_run {R : NetworkEvent → NetworkEvent → Prop} {P : NetworkState → Prop}
    (follows : ∀ s s', P s → P s' → s.supplicant.state ≠ s'.supplicant.state →
      R (telling s) (telling s'))
    {t : Tracker} (start : P t.current) {pushes : List NetworkState} (kind : ∀ s ∈ pushes, P s) :
    (telling t.current :: (t.run pushes).2).IsChain R := by
  induction pushes generalizing t with
  | nil => exact .singleton _
  | cons s rest ih =>
      rw [List.forall_mem_cons] at kind
      have later := ih (t := ⟨s⟩) kind.1 kind.2
      rw [run_cons, networkEvent?_eq]
      split
      · rename_i same
        rwa [telling_congr same]
      · rename_i changed
        exact .cons_cons (follows _ _ start kind.1 changed) later

/-- Between two events that the link is up there is one that it is down. -/
theorem down_between {t : Tracker} {pushes : List NetworkState}
    {before between after : List NetworkEvent}
    (split : (t.run pushes).2 =
      before ++ .supplicantConnected :: (between ++ .supplicantConnected :: after)) :
    .supplicantDisconnected ∈ between := by
  have follows : ∀ s s' : NetworkState, True → True →
      s.supplicant.state ≠ s'.supplicant.state →
        telling s = .supplicantConnected → telling s' = .supplicantDisconnected := by
    intro s s' _ _ changed up
    cases next : telling s' with
    | supplicantDisconnected => rfl
    | supplicantConnected => exact absurd (state_eq_of_connected up next) changed
  have chain : (t.run pushes).2.IsChain
      fun e e' => e = .supplicantConnected → e' = .supplicantDisconnected :=
    (isChain_run follows (t := t) trivial fun _ _ => trivial).tail
  rw [split] at chain
  have next := chain.right_of_append.rel_head?
  cases between with
  | nil => cases next rfl rfl
  | cons e between =>
      rw [next (y := e) rfl rfl]
      exact List.mem_cons_self

end Tracker

/-! ### States that a daemon pushes -/

/-- The link of a state that a daemon pushes is known to be up or known to be down. -/
def LinkKnown (s : NetworkState) : Prop :=
  s.supplicant.state = StateCode.active.code ∨ s.supplicant.state = StateCode.inactive.code

theorem linkKnown_networkState (link : LinkState) (dhcp : Option Dhcp.ClientStatus) :
    LinkKnown (networkState link dhcp) := by
  cases up : link.connected <;> simp [LinkKnown, networkState, linkPair, StatePair.of, up]

theorem telling_networkState (link : LinkState) (dhcp : Option Dhcp.ClientStatus) :
    telling (networkState link dhcp) =
      if link.connected then .supplicantConnected else .supplicantDisconnected := by
  cases up : link.connected <;>
    simp [telling, networkState, linkPair, StatePair.of, StatePair.is, StateCode.code, up]

/-- Of two links that are known, and not in the same state, different events tell. -/
theorem telling_ne_of_known {s s' : NetworkState} (known : LinkKnown s) (known' : LinkKnown s')
    (changed : s.supplicant.state ≠ s'.supplicant.state) : telling s ≠ telling s' := by
  unfold telling StatePair.is
  rcases known with h | h <;> rcases known' with h' | h' <;> simp_all [StateCode.code]

/-- At the start nothing is known of the link, so the first known state is an event. -/
theorem networkEvent?_of_known {first : NetworkState} (known : LinkKnown first) :
    networkEvent? {} first = some (telling first) := by
  have new : ({} : NetworkState).supplicant.state ≠ first.supplicant.state := by
    rcases known with h | h <;> rw [h] <;> decide
  rw [networkEvent?_eq, if_neg new]

theorem Tracker.run_of_known {first : NetworkState} (known : LinkKnown first)
    (rest : List NetworkState) :
    (({} : Tracker).run (first :: rest)).2 = telling first :: (run ⟨first⟩ rest).2 := by
  rw [run_cons, networkEvent?_of_known known]
  rfl

/-- Known states make events in turn: that the link is up, and that it is down. -/
theorem Tracker.isChain_run_of_known {pushes : List NetworkState}
    (known : ∀ s ∈ pushes, LinkKnown s) : (({} : Tracker).run pushes).2.IsChain (· ≠ ·) := by
  cases pushes with
  | nil => exact .nil
  | cons first rest =>
      rw [List.forall_mem_cons] at known
      rw [run_of_known known.1]
      exact isChain_run (fun _ _ => telling_ne_of_known) known.1 known.2

/-- Of known states the last one is told. -/
theorem Tracker.getLast?_run_of_known {pushes : List NetworkState}
    (known : ∀ s ∈ pushes, LinkKnown s) {last : NetworkState}
    (pushed : pushes.getLast? = some last) :
    (({} : Tracker).run pushes).2.getLast? = some (telling last) := by
  cases pushes with
  | nil => cases pushed
  | cons first rest =>
      rw [List.forall_mem_cons] at known
      rw [List.getLast?_cons, Option.some_inj] at pushed
      have told := getLast?_run ⟨first⟩ rest
      rw [current_run, pushed] at told
      rw [run_of_known known.1, List.getLast?_cons, told]

/-- The events of a run from the start match the states that were pushed: there are as many as the
link's state has changed, what is kept is always the last push, between two events that the link is
up there is one that it is down, and the last event says whether it is up. If the states are those of
links and clients, the first push is an event, the two events alternate, and the last event says
whether the last link was connected. -/
theorem Tracker.events_match_states (pushes : List NetworkState) :
    let events := (({} : Tracker).run pushes).2
    events.length = changes StateCode.unknown.code (linkStates pushes) ∧
    (∀ (i : Nat) (s : NetworkState), pushes[i]? = some s →
      (({} : Tracker).run (pushes.take (i + 1))).1.current = s) ∧
    (∀ before between after,
      events = before ++ .supplicantConnected :: (between ++ .supplicantConnected :: after) →
        .supplicantDisconnected ∈ between) ∧
    (∀ last, events.getLast? = some last →
      (last = .supplicantConnected ↔
        (({} : Tracker).run pushes).1.current.supplicant.is .active = true)) ∧
    ∀ sources : List (LinkState × Option Dhcp.ClientStatus),
      pushes = sources.map (fun source => networkState source.1 source.2) →
        (∀ first, pushes.head? = some first → (({} : Tracker).update first).2.isSome) ∧
        events.IsChain (· ≠ ·) ∧
        ∀ source, sources.getLast? = some source →
          events.getLast? = some
            (if source.1.connected then .supplicantConnected else .supplicantDisconnected) := by
  intro events
  refine ⟨length_run _ pushes, fun i s there => ?_, fun before between after split => ?_,
    fun last hlast => ?_, fun sources made => ?_⟩
  · rw [current_run, List.getLast?_take, if_neg (Nat.succ_ne_zero i), Nat.add_sub_cancel, there]
    rfl
  · exact down_between split
  · have told := getLast?_run {} pushes
    rw [show (run {} pushes).2.getLast? = some last from hlast, Option.getD_some] at told
    rw [told, telling_eq_connected_iff]
  · have known : ∀ s ∈ pushes, LinkKnown s := by
      simp only [made, List.mem_map]
      rintro s ⟨source, -, rfl⟩
      exact linkKnown_networkState _ _
    refine ⟨fun first head => ?_, isChain_run_of_known known, fun source last => ?_⟩
    · rw [event_update, networkEvent?_of_known (known first (List.mem_of_mem_head? head))]
      rfl
    · have pushed : pushes.getLast? = some (networkState source.1 source.2) := by
        rw [made, List.getLast?_map, last]
        rfl
      exact telling_networkState source.1 source.2 ▸ getLast?_run_of_known known pushed

/-- A link that was up, was lost over a wrong passphrase, and is up again: the pushes in between that
only bring an error or an address are no events. -/
theorem Tracker.events_match_states_rejoined :
    let sources : List (LinkState × Option Dhcp.ClientStatus) :=
      [(⟨true, none⟩, none), (⟨true, none⟩, some { phase := .configured }), (⟨false, none⟩, none),
        (⟨false, some "WRONG_KEY"⟩, none), (⟨true, some "WRONG_KEY"⟩, none)]
    let pushes := sources.map fun source => networkState source.1 source.2
    let events := (({} : Tracker).run pushes).2
    events = [.supplicantConnected, .supplicantDisconnected, .supplicantConnected] ∧
      events.length = changes StateCode.unknown.code [3, 3, 4, 4, 3] ∧
      (({} : Tracker).run (pushes.take 4)).1.current = ⟨⟨4, 1⟩, {}⟩ ∧
      .supplicantDisconnected ∈ [NetworkEvent.supplicantDisconnected] ∧
      events.IsChain (· ≠ ·) ∧ events.getLast? = some .supplicantConnected := by
  intro sources pushes events
  obtain ⟨count, kept, apart, -, pushed⟩ := events_match_states pushes
  obtain ⟨-, alternate, last⟩ := pushed sources rfl
  have seen : events = [] ++ .supplicantConnected :: ([.supplicantDisconnected] ++
      .supplicantConnected :: []) := by decide
  exact ⟨seen, count, kept 3 _ rfl, apart _ _ _ seen, alternate, last _ rfl⟩

end WifiStation.App
