import WifiStation.App.Connection
import WifiStation.App.Reporter
import WifiStation.Proofs.App.FrameFields

/-!
# WifiStation.Proofs.App.Subscriber

What one app is told of the network's state.

The connection pushes the newest state when its mark is behind, and the app reads what was pushed in
pieces, as they come. A `Subscriber` keeps both ends together with what went over the connection.

* `Sent` is about the daemon's end: the states sent are, in order, among those that were held since
  the first push, and the last one sent is the one that is marked. A push skips what was overtaken.
* `Subscriber.Listens` is about the app's end: what was received is the front part of what was sent,
  and the rest is on the wire, from where the message breaks off that was received in part.
-/

namespace WifiStation.App

open WifiStation

/-! ### What a connection was sent -/

/-- The states sent over a connection, from the first version that was pushed to the last one, among
all that were held. The last one was sent. -/
inductive Sent (held : List NetworkState) : Option Nat → Option Nat → List NetworkState → Prop
  | nothing : Sent held none none []
  | upTo (before between after sent : List NetworkState) (state : NetworkState)
      (all : held = before ++ between ++ state :: after) (order : sent.Sublist between) :
      Sent held (some before.length) (some (before.length + between.length)) (sent ++ [state])

namespace Sent

variable {held sent : List NetworkState} {first last : Option Nat}

/-- What is held later was not sent. -/
theorem hold (h : Sent held first last sent) (state : NetworkState) :
    Sent (held ++ [state]) first last sent := by
  cases h with
  | nothing => exact .nothing
  | upTo before between after sent newest all order =>
      exact .upTo before between (after ++ [state]) sent newest (by simp [all]) order

/-- To push the newest state skips what was held since the last push. -/
theorem push (h : Sent held first last sent) {older : List NetworkState} {state : NetworkState}
    (newest : held = older ++ [state]) (due : last ≠ some older.length) :
    Sent held (some (first.getD older.length)) (some older.length) (sent ++ [state]) := by
  cases h with
  | nothing => exact .upTo older [] [] [] state (by simpa using newest) (List.Sublist.refl [])
  | upTo before between after sent pushed all order =>
      obtain rfl | ⟨after, state', rfl⟩ := List.eq_nil_or_concat after
      · obtain ⟨rfl, -⟩ := List.append_inj' (newest.symm.trans all) rfl
        exact absurd (by simp) due
      · have split : older ++ [state] = before ++ (between ++ pushed :: after) ++ [state'] := by
          rw [← newest, all]
          simp
        obtain ⟨rfl, same⟩ := List.append_inj' split rfl
        cases same
        have more : (sent ++ [pushed]).Sublist (between ++ pushed :: after) :=
          order.append (List.singleton_sublist.mpr List.mem_cons_self)
        have next := Sent.upTo before _ [] _ state newest more
        simpa using next

/-- Nothing is sent that was not held since the first push, and nothing out of order. -/
theorem sublist (h : Sent held first last sent) :
    sent.Sublist (first.elim [] fun k => held.drop k) := by
  cases h with
  | nothing => exact List.Sublist.refl []
  | upTo before between after sent state all order =>
      simp only [Option.elim_some, all, List.append_assoc, List.drop_left]
      exact order.append (List.singleton_sublist.mpr List.mem_cons_self)

/-- Where the newest state is marked as pushed, it was the last that was sent. -/
theorem getLast? (h : Sent held first last sent) {older : List NetworkState} {state : NetworkState}
    (newest : held = older ++ [state]) (done : last = some older.length) :
    sent.getLast? = some state := by
  cases h with
  | nothing => cases done
  | upTo before between after sent pushed all order =>
      have count := congrArg List.length (newest.symm.trans all)
      simp only [List.length_append, List.length_cons, List.length_nil, Option.some.injEq]
        at count done
      obtain rfl : after = [] := List.eq_nil_of_length_eq_zero (by omega)
      obtain ⟨-, same⟩ := List.append_inj' (newest.symm.trans all) rfl
      cases same
      exact List.getLast?_concat

end Sent

/-! ### What an app hears -/

/-- The state that a message of the daemon tells. -/
def Frame.network? (f : Frame) : Option NetworkState :=
  match f.message with
  | some (.network state) => some state
  | _ => none

def networkFrame (state : NetworkState) : Frame :=
  ⟨MessageType.networkStateUpdate.code, some (.network state), []⟩

theorem take?_encodeNetwork (state : NetworkState) (rest : List UInt8) :
    Frame.take? (encodeNetwork state ++ rest) = some (networkFrame state, rest) := by
  have kinds : ∀ f ∈ networkFields state, f.isTerminator = false := by
    intro f hf
    simp only [networkFields, List.mem_cons, List.not_mem_nil, or_false] at hf
    rcases hf with rfl | rfl <;> rfl
  rw [encodeNetwork, encodeMessage,
    Frame.take?_encode _ kinds (by simp [networkFields]) rest]
  rfl

theorem filterMap_networkFrame (states : List NetworkState) :
    (states.map networkFrame).filterMap Frame.network? = states := by
  rw [List.filterMap_map]
  exact List.filterMap_some

theorem Tracker.current_update (t : Tracker) (state : NetworkState) :
    (t.update state).1.current = state := by
  unfold Tracker.update
  split
  · exact Eq.symm ‹_›
  · rfl

namespace Reporter

theorem hear_cons_network {f : Frame} {state : NetworkState} (h : f.network? = some state)
    (r : Reporter) (rest : List Frame) :
    (r.hear (f :: rest)).1 =
      ({ r with tracker := (r.tracker.update state).1, network := state }.hear rest).1 := by
  unfold Frame.network? at h
  split at h
  · rename_i hm
    cases h
    simp only [hear, hm, Tracker.current_update]
  · cases h

theorem hear_cons_other {f : Frame} (h : f.network? = none) (r : Reporter) (rest : List Frame) :
    r.hear (f :: rest) = r.hear rest := by
  unfold Frame.network? at h
  split at h
  · cases h
  · rename_i other
    rw [hear]
    split
    · rename_i state hm
      exact absurd hm (other state)
    · rfl

/-- To hear of states leaves the listening as it is, and the last state is the one that is known. -/
theorem hear_states (r : Reporter) (frames : List Frame) :
    (r.hear frames).1.listening = r.listening ∧ (r.hear frames).1.partly = r.partly ∧
      (r.hear frames).1.network = (frames.filterMap Frame.network?).getLast?.getD r.network := by
  induction frames generalizing r with
  | nil => exact ⟨rfl, rfl, rfl⟩
  | cons f rest ih =>
      cases hf : f.network? with
      | none =>
          rw [hear_cons_other hf, List.filterMap_cons_none hf]
          exact ih r
      | some state =>
          rw [hear_cons_network hf, List.filterMap_cons_some hf]
          obtain ⟨listening, partly, network⟩ := ih { r with
            tracker := (r.tracker.update state).1, network := state }
          refine ⟨listening, partly, network.trans ?_⟩
          rw [List.getLast?_cons]
          rfl

end Reporter

/-! ### An app and its connection -/

/-- An app that is told the state of the network, and what went over its connection. -/
structure Subscriber where
  connection : Connection := {}
  /-- What the daemon has sent and the app has not received. -/
  wire : List UInt8 := []
  reporter : Reporter
  /-- The version that was pushed first. -/
  since : Option Nat := none
  sent : List NetworkState := []
  received : List NetworkState := []

namespace Subscriber

/-- The daemon pushes the newest state, if it is to. -/
def push (x : Subscriber) (network : Watch NetworkState) : Subscriber :=
  let pushed := x.connection.push network
  let told := x.connection.canPush network && !x.connection.closedByApp
  { x with
    connection := pushed.1
    wire := x.wire ++ pushed.2
    since := if told then some (x.since.getD network.version) else x.since
    sent := if told then x.sent ++ [network.value] else x.sent }

/-- Some bytes of what was sent reach the app. -/
def receive (x : Subscriber) (count : Nat) : Subscriber :=
  let chunk := x.wire.take count
  let told := (Frame.takeAll (x.reporter.partly ++ chunk)).1.filterMap Frame.network?
  { x with
    wire := x.wire.drop count
    reporter := (x.reporter.receive chunk).1
    received := if x.reporter.listening then x.received ++ told else x.received }

/-- The app gives up the connection. -/
def leave (x : Subscriber) : Subscriber :=
  { x with connection := x.connection.close, reporter := x.reporter.disconnect }

/-- An app that listens is served, and what it will receive is what is left of what was sent. -/
structure Listens (x : Subscriber) : Prop where
  served : x.connection.isOpen = true
  present : x.connection.closedByApp = false
  torn : Frame.take? x.reporter.partly = none
  pending : ∃ pending, x.sent = x.received ++ pending ∧
    x.reporter.partly ++ x.wire = pending.flatMap encodeNetwork
  newest : ∀ state, x.received.getLast? = some state → x.reporter.network = state

/-- Where nothing is on the way, everything that was sent has been received. -/
theorem Listens.received_eq {x : Subscriber} (h : x.Listens) (nothing : x.wire = []) :
    x.received = x.sent := by
  obtain ⟨pending, left, bytes⟩ := h.pending
  cases pending with
  | nil => rw [left, List.append_nil]
  | cons state rest =>
      -- a state that is left would be complete
      rw [nothing, List.append_nil, List.flatMap_cons] at bytes
      have torn := h.torn
      rw [bytes, take?_encodeNetwork] at torn
      cases torn

structure Sound (x : Subscriber) (held : List NetworkState) : Prop where
  sent : Sent held x.since x.connection.pushed x.sent
  received : x.received <+: x.sent
  listens : x.reporter.listening = true → x.Listens

variable {x : Subscriber} {held : List NetworkState}

/-- A connection starts with nothing sent, and the app expects the first message. -/
theorem sound_join {r r' : Reporter} {path : String} {events : List ReporterEvent}
    (made : r.connect path none = (.ok (), r', events)) (held : List NetworkState) :
    Sound { reporter := r' } held := by
  refine ⟨.nothing, List.prefix_refl [], fun _ => ?_⟩
  unfold Reporter.connect at made
  split at made
  · cases made
  · cases made
    exact ⟨rfl, rfl, rfl, ⟨[], rfl, rfl⟩, fun _ none => (nomatch none)⟩

theorem Sound.hold (h : x.Sound held) (state : NetworkState) : x.Sound (held ++ [state]) :=
  ⟨h.sent.hold state, h.received, h.listens⟩

theorem Sound.leave (h : x.Sound held) : x.leave.Sound held :=
  ⟨h.sent, h.received, fun listening => (nomatch listening)⟩

/-- To read what the app writes does not touch what it is told. -/
theorem Sound.serve (h : x.Sound held) {c : Connection} (pushed : c.pushed = x.connection.pushed)
    (kept : x.connection.isOpen = true → x.connection.closedByApp = false →
      c.isOpen = true ∧ c.closedByApp = false) :
    Sound { x with connection := c } held := by
  refine ⟨pushed ▸ h.sent, h.received, fun listening => ?_⟩
  have listens := h.listens listening
  obtain ⟨served, present⟩ := kept listens.served listens.present
  exact ⟨served, present, listens.torn, listens.pending, listens.newest⟩

theorem Sound.write (h : x.Sound held) (bytes : List UInt8) :
    Sound { x with connection := x.connection.write bytes } held := by
  apply h.serve
  · unfold Connection.write
    split <;> rfl
  · intro served present
    simp [Connection.write, served, present]

theorem Sound.read (h : x.Sound held) (apps : Health) :
    Sound { x with connection := (x.connection.read apps).1 } held := by
  apply h.serve
  · unfold Connection.read
    split
    · rfl
    · split
      · rfl
      · split <;> rfl
  · intro served present
    unfold Connection.read
    split
    · exact ⟨served, present⟩
    · split <;> simp [served, present]

/-- A push is due where the mark is not at the newest version. -/
theorem due_of_canPush {c : Connection} {network : Watch NetworkState}
    (can : c.canPush network = true) : c.isOpen = true ∧ c.pushed ≠ some network.version := by
  simp only [Connection.canPush, Bool.and_eq_true] at can
  refine ⟨can.1, fun same => ?_⟩
  have stale := can.2
  rw [same] at stale
  exact (Watch.poll_eq_changed_iff _ _).mp (of_decide_eq_true stale) rfl

theorem pushed_of_not_canPush {c : Connection} {network : Watch NetworkState}
    (served : c.isOpen = true) (can : c.canPush network = false) :
    c.pushed = some network.version := by
  rw [Connection.canPush, served, Bool.true_and] at can
  cases hp : c.pushed with
  | none =>
      rw [hp] at can
      cases can
  | some version =>
      rw [hp] at can
      have same : ¬ network.version ≠ version :=
        fun newer => of_decide_eq_false can ((Watch.poll_eq_changed_iff _ _).mpr newer)
      rw [Decidable.not_not.mp same]

theorem push_of_not_canPush {network : Watch NetworkState}
    (can : x.connection.canPush network = false) : x.push network = x := by
  simp [Subscriber.push, Connection.push, can]

theorem push_of_closed {network : Watch NetworkState}
    (can : x.connection.canPush network = true) (closed : x.connection.closedByApp = true) :
    x.push network = { x with connection := { x.connection with isOpen := false } } := by
  simp [Subscriber.push, Connection.push, can, closed]

theorem push_of_present {network : Watch NetworkState}
    (can : x.connection.canPush network = true) (present : x.connection.closedByApp = false) :
    x.push network =
      { x with
        connection := { x.connection with pushed := some network.version }
        wire := x.wire ++ encodeNetwork network.value
        since := some (x.since.getD network.version)
        sent := x.sent ++ [network.value] } := by
  simp [Subscriber.push, Connection.push, can, present]

theorem Sound.push (h : x.Sound held) {network : Watch NetworkState} {older : List NetworkState}
    (newest : held = older ++ [network.value]) (version : network.version = older.length) :
    (x.push network).Sound held := by
  cases can : x.connection.canPush network with
  | false =>
      rw [push_of_not_canPush can]
      exact h
  | true =>
      cases present : x.connection.closedByApp with
      | true =>
          -- the push fails, but nobody listens any more
          rw [push_of_closed can present]
          refine ⟨h.sent, h.received, fun listening => ?_⟩
          have here := (h.listens listening).present
          rw [present] at here
          cases here
      | false =>
          obtain ⟨served, due⟩ := due_of_canPush can
          rw [version] at due
          have sent := h.sent.push newest due
          rw [← version] at sent
          rw [push_of_present can present]
          refine ⟨sent, h.received.trans (List.prefix_append _ _), fun listening => ?_⟩
          have listens := h.listens listening
          obtain ⟨pending, left, bytes⟩ := listens.pending
          refine ⟨served, present, listens.torn, ⟨pending ++ [network.value], ?_, ?_⟩,
            listens.newest⟩
          · rw [left, List.append_assoc]
          · rw [← List.append_assoc, bytes]
            simp

/-- After a push there is none to make. -/
theorem canPush_push (x : Subscriber) (network : Watch NetworkState) :
    (x.push network).connection.canPush network = false := by
  cases can : x.connection.canPush network with
  | false => rwa [push_of_not_canPush can]
  | true =>
      cases present : x.connection.closedByApp with
      | true =>
          rw [push_of_closed can present]
          rfl
      | false =>
          rw [push_of_present can present]
          simp [Connection.canPush, Watch.poll_eq_changed_iff]

/-- What an app that listens receives are the next states that were sent. -/
theorem receive_done {count : Nat} {done : List NetworkState}
    (listening : x.reporter.listening = true)
    (frames : (Frame.takeAll (x.reporter.partly ++ x.wire.take count)).1 =
      done.map networkFrame) :
    x.receive count = { x with
      wire := x.wire.drop count
      reporter := ({ x.reporter with
        partly := (Frame.takeAll (x.reporter.partly ++ x.wire.take count)).2 }.hear
          (done.map networkFrame)).1
      received := x.received ++ done } := by
  simp only [Subscriber.receive, Reporter.receive, listening, if_true, frames,
    filterMap_networkFrame]

theorem Sound.receive (h : x.Sound held) (count : Nat) : (x.receive count).Sound held := by
  cases listening : x.reporter.listening with
  | false =>
      have deaf : x.receive count = { x with wire := x.wire.drop count } := by
        simp [Subscriber.receive, Reporter.receive, listening]
      rw [deaf]
      refine ⟨h.sent, h.received, fun hears => ?_⟩
      rw [listening] at hears
      cases hears
  | true =>
      have listens := h.listens listening
      obtain ⟨pending, left, bytes⟩ := listens.pending
      rw [← List.take_append_drop count x.wire, ← List.append_assoc] at bytes
      obtain ⟨done, others, rfl, frames, rest⟩ := Frame.takeAll_part take?_encodeNetwork bytes
      rw [← List.append_assoc] at left
      rw [receive_done listening frames]
      obtain ⟨-, partly, network⟩ := Reporter.hear_states { x.reporter with
        partly := (Frame.takeAll (x.reporter.partly ++ x.wire.take count)).2 }
          (done.map networkFrame)
      refine ⟨h.sent, left ▸ List.prefix_append _ _, fun _ => ⟨listens.served, listens.present,
        ?_, ⟨others, left, ?_⟩, ?_⟩⟩
      · rw [partly]
        exact Frame.take?_takeAll _
      · rw [partly]
        exact rest
      · intro state last
        rw [network, filterMap_networkFrame]
        rw [List.getLast?_append] at last
        cases hd : done.getLast? with
        | none =>
            rw [hd] at last
            exact listens.newest state last
        | some state' =>
            rw [hd] at last
            exact Option.some.inj last

end Subscriber

end WifiStation.App
