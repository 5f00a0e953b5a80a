import WifiStation.Proofs.Publisher
import WifiStation.Proofs.App.Subscriber

/-!
# WifiStation.Proofs.App.Feed

How apps come to know the state of the network.

A change goes through three hands: the publisher folds its sources into one state, each connection
pushes the newest state, and each app reads what was pushed. None of them waits for the others, and
each skips what was overtaken meanwhile. A `Feed` keeps the parties together with all that was
published, and `Feed.Sound` puts together what is known of each of them.

* Nothing is invented: what is held was published, and what was published is what the sources said.
* Nothing is missed: where no mark is behind and nothing is on the way, every app knows what the
  sources say. The parties can get there by themselves (`Sound.exists_quiet`).
-/

namespace WifiStation

open WifiStation.App WifiStation.Dhcp

/-! ### The whole feed -/

/-- A state of the network that was published, and the sources at that moment. -/
structure Publication where
  state : NetworkState
  sources : Sources

/-- A publication says what the sources said, of the second one only as long as it was there. -/
def Publication.Truthful (x : Publication) : Prop :=
  x.state = networkState x.sources.link.value (x.sources.dhcp.map Watch.value) ∨
    x.sources.status = none ∧ x.state = networkState x.sources.link.value none

/-- The sources, their publisher, the apps, and what was published from the start on. -/
structure Feed where
  sources : Sources
  publisher : Publisher
  apps : Health
  subscribers : List Subscriber := []
  held : List Publication

namespace Feed

/-- What can happen while the link has a source. -/
inductive Event where
  | link (state : LinkState)
  | status (status : ClientStatus)
  /-- The source of the client's status goes away. -/
  | dhcpGone
  | publishLink
  | publishDhcp
  /-- An app connects, perhaps not for the first time. -/
  | join (reporter : Reporter) (path : String)
  | leave (index : Nat)
  | report (index : Nat) (bytes : List UInt8)
  | read (index : Nat)
  | push (index : Nat)
  /-- Some bytes of what was sent reach an app. -/
  | receive (index count : Nat)

/-- A publisher of the current state of its sources, which may have looked at older versions. -/
def start (sources : Sources) (linkSeen dhcpSeen : Nat) (apps : Health) : Feed :=
  let p := Publisher.ofSources sources
  { sources
    publisher := { p with
      linkSeen := min linkSeen sources.link.version
      dhcpSeen := sources.dhcp.map fun w => min dhcpSeen w.version }
    apps
    held := [⟨p.network.value, sources⟩] }

/-- The publisher has made a step; if it has written, another state is held from now on. -/
def advance (f : Feed) : Option Publisher → Feed
  | none => f
  | some p =>
    { f with
      publisher := p
      held :=
        if p.network.version = f.publisher.network.version then f.held
        else f.held ++ [⟨p.network.value, f.sources⟩] }

/-- What happens to one app. -/
def change (f : Feed) (index : Nat) (g : Subscriber → Subscriber) : Feed :=
  { f with subscribers := f.subscribers.modify index g }

def step (f : Feed) : Event → Feed
  | .link state => { f with sources := f.sources.setLink state }
  | .status status => { f with sources := f.sources.setStatus status }
  | .dhcpGone => { f with sources := f.sources.closeDhcp }
  | .publishLink => f.advance (f.publisher.stepLink f.sources)
  | .publishDhcp => f.advance (f.publisher.stepDhcp f.sources)
  | .join reporter path =>
    match reporter.connect path none with
    | (.ok (), reporter, _) => { f with subscribers := f.subscribers ++ [{ reporter }] }
    | (.error _, _, _) => f
  | .leave index => f.change index Subscriber.leave
  | .report index bytes =>
    f.change index fun x => { x with connection := x.connection.write bytes }
  | .read index =>
    let reading := f.change index fun x => { x with connection := (x.connection.read f.apps).1 }
    match f.subscribers[index]? with
    | none => f
    | some x => { reading with apps := (x.connection.read f.apps).2 }
  | .push index => f.change index (·.push f.publisher.network)
  | .receive index count => f.change index (·.receive count)

def run (f : Feed) (events : List Event) : Feed := events.foldl step f

/-- The states that were published. -/
def states (f : Feed) : List NetworkState := f.held.map Publication.state

/-- Nobody has anything to do: not the publisher, no connection has a state to push, and nothing is
on the way to an app that listens. -/
structure Quiet (f : Feed) : Prop where
  link : f.publisher.stepLink f.sources = none
  dhcp : f.publisher.stepDhcp f.sources = none
  push : ∀ x ∈ f.subscribers, x.connection.canPush f.publisher.network = false
  receive : ∀ x ∈ f.subscribers, x.reporter.listening = true → x.wire = []

structure Sound (f : Feed) : Prop where
  linked : f.sources.link.isOpen = true
  follows : f.publisher.Follows f.sources
  truthful : ∀ x ∈ f.held, x.Truthful
  newest : ∃ older, f.states = older ++ [f.publisher.network.value] ∧
    f.publisher.network.version = older.length
  subscribers : ∀ x ∈ f.subscribers, x.Sound f.states

theorem sound_start {sources : Sources} (linked : sources.link.isOpen = true)
    (linkSeen dhcpSeen : Nat) (apps : Health) :
    (start sources linkSeen dhcpSeen apps).Sound := by
  refine ⟨linked, ⟨⟨rfl, Nat.min_le_right _ _, ?_, ?_⟩, ?_⟩, ?_, ⟨[], rfl, rfl⟩, ?_⟩
  · intro seen hs
    obtain ⟨w, hw, rfl⟩ := Option.map_eq_some_iff.mp hs
    exact ⟨w, hw, Nat.min_le_right _ _⟩
  · intro hs
    have none : sources.dhcp = none := Option.map_eq_none_iff.mp hs
    simp [start, Sources.status, none]
  · intro _ _
    cases hd : sources.dhcp <;> simp [start, Publisher.ofSources, Publisher.dhcpStatus, hd]
  · intro x hx
    obtain rfl := List.mem_singleton.mp hx
    exact .inl rfl
  · intro x hx
    cases hx

theorem advance_of_old {f : Feed} {p : Publisher} (old : p.network = f.publisher.network) :
    f.advance (some p) = { f with publisher := p } := by
  rw [advance, old, if_pos rfl]

theorem advance_of_new {f : Feed} {p : Publisher} {state : NetworkState}
    (new : p.network = f.publisher.network.write state) :
    f.advance (some p) = { f with publisher := p, held := f.held ++ [⟨state, f.sources⟩] } := by
  rw [advance, new]
  exact congrArg (Feed.mk _ _ _ _) (if_neg (Nat.succ_ne_self _))

/-- A step of the publisher says the truth, and what it says is held once. -/
theorem Sound.advance {f : Feed} (h : f.Sound) {p : Publisher}
    (stepped : f.publisher.stepLink f.sources = some p ∨
      f.publisher.stepDhcp f.sources = some p) : (f.advance (some p)).Sound := by
  obtain ⟨q, marks, same, rfl⟩ := h.follows.toMarks.step h.linked stepped
  have follows := marks.publish
  have network : (q.publish f.sources).network =
      f.publisher.network.writeIfNew (networkState f.sources.link.value (q.dhcpStatus f.sources)) :=
    same ▸ rfl
  rw [Watch.writeIfNew] at network
  split at network
  · rw [advance_of_old network]
    refine ⟨h.linked, follows, h.truthful, ?_, h.subscribers⟩
    rw [network]
    exact h.newest
  · obtain ⟨older, newest, version⟩ := h.newest
    have states : (f.advance (some (q.publish f.sources))).states =
        f.states ++ [networkState f.sources.link.value (q.dhcpStatus f.sources)] := by
      rw [advance_of_new network, Feed.states, List.map_append]
      rfl
    rw [advance_of_new network] at states ⊢
    refine ⟨h.linked, follows, ?_, ⟨f.states, ?_, ?_⟩, ?_⟩
    · intro x hx
      rcases List.mem_append.mp hx with old | new
      · exact h.truthful x old
      · obtain rfl := List.mem_singleton.mp new
        rcases marks.dhcpStatus with known | ⟨unknown, gone⟩
        · exact .inl (by rw [known])
        · exact .inr ⟨gone, by rw [unknown]⟩
    · rw [states, network]
      rfl
    · rw [network, newest, List.length_append]
      exact congrArg Nat.succ version
    · rw [states]
      exact fun x hx => (h.subscribers x hx).hold _

theorem getElem?_change (f : Feed) (index : Nat) (g : Subscriber → Subscriber) (i : Nat) :
    (f.change index g).subscribers[i]? =
      if index = i then f.subscribers[i]?.map g else f.subscribers[i]? := by
  rw [change, List.getElem?_modify]
  split <;> simp

theorem Sound.change {f : Feed} (h : f.Sound) (index : Nat) {g : Subscriber → Subscriber}
    (keeps : ∀ x ∈ f.subscribers, x.Sound f.states → (g x).Sound f.states) :
    (f.change index g).Sound := by
  refine ⟨h.linked, h.follows, h.truthful, h.newest, fun x hx => ?_⟩
  obtain ⟨i, hi⟩ := List.mem_iff_getElem?.mp hx
  rw [getElem?_change] at hi
  split at hi
  · obtain ⟨y, hy, rfl⟩ := Option.map_eq_some_iff.mp hi
    have old := List.mem_of_getElem? hy
    exact keeps y old (h.subscribers y old)
  · exact h.subscribers x (List.mem_of_getElem? hi)

theorem Sound.step {f : Feed} (h : f.Sound) (event : Event) : (f.step event).Sound := by
  cases event with
  | link state =>
      exact ⟨h.linked, h.follows.setLink state, h.truthful, h.newest, h.subscribers⟩
  | status status =>
      exact ⟨h.linked, h.follows.setStatus status, h.truthful, h.newest, h.subscribers⟩
  | dhcpGone => exact ⟨h.linked, h.follows.closeDhcp, h.truthful, h.newest, h.subscribers⟩
  | publishLink =>
      rw [Feed.step]
      cases stepped : f.publisher.stepLink f.sources with
      | none => exact h
      | some p => exact h.advance (.inl stepped)
  | publishDhcp =>
      rw [Feed.step]
      cases stepped : f.publisher.stepDhcp f.sources with
      | none => exact h
      | some p => exact h.advance (.inr stepped)
  | join reporter path =>
      rw [Feed.step]
      split
      · rename_i connected _ made
        refine ⟨h.linked, h.follows, h.truthful, h.newest, fun x hx => ?_⟩
        rcases List.mem_append.mp hx with old | new
        · exact h.subscribers x old
        · obtain rfl := List.mem_singleton.mp new
          exact Subscriber.sound_join made _
      · exact h
  | leave index => exact h.change index fun _ _ hx => hx.leave
  | report index bytes => exact h.change index fun _ _ hx => hx.write bytes
  | read index =>
      have reading := h.change index fun _ _ hx => hx.read f.apps
      rw [Feed.step]
      split
      · exact h
      · exact ⟨h.linked, h.follows, h.truthful, h.newest, reading.subscribers⟩
  | push index =>
      obtain ⟨older, newest, version⟩ := h.newest
      exact h.change index fun _ _ hx => hx.push newest version
  | receive index count => exact h.change index fun _ _ hx => hx.receive count

theorem Sound.run {f : Feed} (h : f.Sound) (events : List Event) : (f.run events).Sound := by
  induction events generalizing f with
  | nil => exact h
  | cons event rest ih => exact ih (h.step event)

/-! ### Settling -/

/-- Whether an event is a move of the publisher, of a connection, or of an app that reads. -/
def Event.isInner : Event → Bool
  | .publishLink | .publishDhcp | .push _ | .receive _ _ => true
  | _ => false

/-- Moves that the parties can make without the outside lead from one feed to another. -/
def Leads (f g : Feed) : Prop :=
  ∃ events : List Event, (∀ e ∈ events, e.isInner = true) ∧ f.run events = g

theorem Leads.refl (f : Feed) : f.Leads f := ⟨[], fun _ none => (nomatch none), rfl⟩

theorem Leads.trans {f g k : Feed} (h : f.Leads g) (h' : g.Leads k) : f.Leads k := by
  obtain ⟨events, all, rfl⟩ := h
  obtain ⟨more, all', rfl⟩ := h'
  refine ⟨events ++ more, fun e he => ?_, List.foldl_append⟩
  rcases List.mem_append.mp he with old | new
  · exact all e old
  · exact all' e new

theorem Leads.snoc {f g : Feed} (h : f.Leads g) {e : Event} (inner : e.isInner = true) :
    f.Leads (g.step e) :=
  h.trans ⟨[e], by simpa using inner, rfl⟩

/-- The publisher can go on until it finds nothing: it publishes once, and then has perhaps still to
notice that its second source is gone. -/
theorem Sound.exists_published {f : Feed} (h : f.Sound) :
    ∃ g, f.Leads g ∧ g.sources = f.sources ∧ g.publisher.stepLink g.sources = none ∧
      g.publisher.stepDhcp g.sources = none := by
  by_cases idle : f.publisher.stepLink f.sources = none ∧ f.publisher.stepDhcp f.sources = none
  · exact ⟨f, .refl f, rfl, idle⟩
  obtain ⟨e, p, inner, stepped, step⟩ : ∃ e p, e.isInner = true ∧
      (f.publisher.stepLink f.sources = some p ∨ f.publisher.stepDhcp f.sources = some p) ∧
      f.step e = f.advance (some p) := by
    cases link : f.publisher.stepLink f.sources with
    | some p => exact ⟨.publishLink, p, rfl, .inl rfl, by rw [Feed.step, link]⟩
    | none =>
        cases dhcp : f.publisher.stepDhcp f.sources with
        | some p => exact ⟨.publishDhcp, p, rfl, .inr rfl, by rw [Feed.step, dhcp]⟩
        | none => exact absurd ⟨link, dhcp⟩ idle
  have leads : f.Leads (f.advance (some p)) := step ▸ (Leads.refl f).snoc inner
  obtain ⟨q, marks, -, rfl⟩ := h.follows.toMarks.step h.linked stepped
  have settled : ∀ {q : Publisher}, q.Marks f.sources →
      (q.publish f.sources).stepLink f.sources = none := by
    intro q marks
    rw [Publisher.stepLink_of_open marks.publish.running h.linked]
    exact if_pos rfl
  cases dhcp : (q.publish f.sources).stepDhcp f.sources with
  | none => exact ⟨_, leads, rfl, settled marks, dhcp⟩
  | some p =>
      have gone := marks.stepDhcp_publish dhcp
      obtain ⟨q', marks', -, rfl⟩ := marks.publish.toMarks.step h.linked (.inr dhcp)
      have again := leads.snoc (e := .publishDhcp) rfl
      rw [Feed.step] at again
      change f.Leads (Feed.advance _ ((q.publish f.sources).stepDhcp f.sources)) at again
      rw [dhcp] at again
      exact ⟨_, again, rfl, settled marks', Publisher.stepDhcp_of_none gone _⟩

/-- Connections and apps can go on, one after the other, until nothing is on the way. -/
theorem exists_received (f : Feed) (count : Nat) :
    ∃ g, f.Leads g ∧ g.sources = f.sources ∧ g.publisher = f.publisher ∧
      g.subscribers.length = f.subscribers.length ∧
      ∀ i x, i < count → g.subscribers[i]? = some x →
        x.connection.canPush f.publisher.network = false ∧ x.wire = [] := by
  induction count with
  | zero => exact ⟨f, .refl f, rfl, rfl, rfl, fun _ _ none => absurd none (Nat.not_lt_zero _)⟩
  | succ count ih =>
      obtain ⟨g, leads, sources, publisher, length, done⟩ := ih
      let sent := g.subscribers[count]?.elim 0 fun x => (x.push g.publisher.network).wire.length
      refine ⟨(g.step (.push count)).step (.receive count sent), (leads.snoc rfl).snoc rfl, sources,
        publisher, ?_, fun i x hi hx => ?_⟩
      · simp [step, change, length]
      simp only [step, getElem?_change] at hx
      by_cases last : count = i
      · subst last
        cases hy : g.subscribers[count]? with
        | none => simp [hy] at hx
        | some y =>
            have all : sent = (y.push g.publisher.network).wire.length := by simp [sent, hy]
            simp only [hy, all, if_true, Option.map_some, Option.some.injEq] at hx
            subst hx
            rw [← publisher]
            exact ⟨y.canPush_push _, List.drop_length⟩
      · rw [if_neg last, if_neg last] at hx
        exact done i x (by omega) hx

/-- Left to itself, the feed can become quiet, wherever it is. -/
theorem Sound.exists_quiet {f : Feed} (h : f.Sound) :
    ∃ g, f.Leads g ∧ g.sources = f.sources ∧ g.Quiet := by
  obtain ⟨g, leads, sources, link, dhcp⟩ := h.exists_published
  obtain ⟨k, leads', sources', publisher, length, done⟩ := g.exists_received g.subscribers.length
  have all : ∀ x ∈ k.subscribers,
      x.connection.canPush k.publisher.network = false ∧ x.wire = [] := by
    intro x hx
    obtain ⟨i, hi⟩ := List.mem_iff_getElem?.mp hx
    have inside := (List.getElem?_eq_some_iff.mp hi).1
    rw [publisher]
    exact done i x (length ▸ inside) hi
  refine ⟨k, leads.trans leads', sources'.trans sources, ?_, ?_, fun x hx => (all x hx).1,
    fun x hx _ => (all x hx).2⟩
  · rw [publisher, sources']
    exact link
  · rw [publisher, sources']
    exact dhcp

/-- **The feed converges.** In whatever order sources, publisher, connections and apps move while
the link has a source: every state that was published is what the sources said at that moment; what
an app has received are, in order, states that were held since the first push to it; and when nobody
has anything to do, each app that listens knows the state of the sources, with the address
configuration unknown once its source is gone. -/
theorem feed_converges (sources : Sources) (linked : sources.link.isOpen = true)
    (linkSeen dhcpSeen : Nat) (apps : Health) (events : List Event) :
    let f := (start sources linkSeen dhcpSeen apps).run events
    (∀ x ∈ f.held, x.Truthful) ∧
    f.states.getLast? = some f.publisher.network.value ∧
    ∀ x ∈ f.subscribers,
      x.received.Sublist (x.since.elim [] fun version => f.states.drop version) ∧
      (f.Quiet → x.reporter.listening = true →
        x.reporter.network = networkState f.sources.link.value f.sources.status) := by
  intro f
  have sound : f.Sound := (sound_start linked linkSeen dhcpSeen apps).run events
  obtain ⟨older, newest, version⟩ := sound.newest
  refine ⟨sound.truthful, ?_, fun x hx => ?_⟩
  · rw [newest, List.getLast?_concat]
  have known := sound.subscribers x hx
  refine ⟨known.received.sublist.trans known.sent.sublist, fun quiet listening => ?_⟩
  have listens := known.listens listening
  -- the newest state was pushed, and everything that was sent has been received
  have pushed : x.connection.pushed = some older.length :=
    version ▸ Subscriber.pushed_of_not_canPush listens.served (quiet.push x hx)
  have last : x.received.getLast? = some f.publisher.network.value := by
    rw [listens.received_eq (quiet.receive x hx listening)]
    exact known.sent.getLast? newest pushed
  rw [listens.newest _ last]
  exact sound.follows.settled sound.linked quiet.link quiet.dhcp

/-- An app gives up its connection with half a message received and comes again; meanwhile the link
comes up, and the source of the client's status goes away. -/
def rejoin : List Event :=
  [.join { app := 0 } "", .push 0, .receive 0 5, .link { connected := true }, .publishLink,
    .leave 0, .push 0, .join { app := 0 } "", .push 1, .dhcpGone, .publishDhcp, .push 1]

/-- When the app has received everything, it knows that the link is up, and of no address
configuration. -/
theorem feed_converges_after_rejoin :
    let sources : Sources := ⟨{ value := {} }, some { value := {}, version := 2 }⟩
    let f := (start sources 0 1 (.ofNames ["sensor"])).run (rejoin ++ [.receive 1 100])
    f.Quiet ∧ f.subscribers[1]?.map (fun x => (x.reporter.listening, x.reporter.network)) =
      some (true, ⟨⟨3, 0⟩, {}⟩) := by
  intro sources f
  obtain ⟨x, y, both, gone, present, few, ended, pushed⟩ :
      ∃ x y : Subscriber, f.subscribers = [x, y.receive 100] ∧ x.reporter.listening = false ∧
        y.reporter.listening = true ∧ y.wire.length ≤ 100 ∧ x.connection.isOpen = false ∧
        y.connection.pushed = some f.publisher.network.version :=
    ⟨_, _, rfl, rfl, rfl, by decide, rfl, rfl⟩
  have listening : (y.receive 100).reporter.listening = true := by
    rw [Subscriber.receive, Reporter.receive, if_pos present]
    exact (Reporter.hear_states _ _).1.trans present
  have quiet : f.Quiet := by
    refine ⟨rfl, rfl, ?_, ?_⟩
    · rw [both]
      simp [Subscriber.receive, Connection.canPush, ended, pushed, Watch.poll_eq_changed_iff]
    · rw [both]
      simp [Subscriber.receive, gone, few]
  obtain ⟨-, -, each⟩ := feed_converges sources rfl 0 1 (.ofNames ["sensor"])
    (rejoin ++ [.receive 1 100])
  have told := (each (y.receive 100) (by change _ ∈ f.subscribers; simp [both])).2 quiet listening
  refine ⟨quiet, ?_⟩
  rw [both]
  change some (_, _) = _
  rw [listening, told]
  rfl

end Feed

end WifiStation
