import WifiStation.App.Socket
import WifiStation.Proofs.Runs
import WifiStation.Proofs.App.FrameFields

/-!
# WifiStation.Proofs.App.Delivery

What becomes of the messages that apps write to the control socket.

The two ends of a connection move in any order: the app writes and closes, the daemon reads and
pushes. A `Move` is one such step and leaves `Note`s of what it did; the notes of a connection are
its books, and `Accounts` says that they balance:

* the complete messages among the bytes that were written are those that were heard, and then those
  that are still unread;
* only a connection that the app has closed ends, and what it leaves unread is what was cut off.

Each move keeps the books (`Accounts.move`), whatever the others do meanwhile (`Socket.Accounts`).
Messages are cut off in one way only: a push that fails because the app has closed ends the
connection at once, before the daemon has read what came ahead of the close.
-/

namespace WifiStation.App

open WifiStation

namespace Health

/-- Takes messages into account, one after the other. -/
def applyFrames (h : Health) (frames : List Frame) : Health :=
  frames.foldl (fun health frame => health.applyMessage frame.message) h

theorem applyFrames_append (h : Health) (xs ys : List Frame) :
    h.applyFrames (xs ++ ys) = (h.applyFrames xs).applyFrames ys :=
  List.foldl_append

end Health

namespace Connection

/-! ### Moves and notes -/

/-- A step of one end of a connection: the app writes or closes, the daemon reads or pushes. -/
inductive Move where
  | write (bytes : List UInt8)
  | close
  | read
  | push

/-- What a move did. -/
inductive Note where
  | wrote (bytes : List UInt8)
  | heard (frame : Frame)
  | told (bytes : List UInt8)
  /-- A push failed, and these messages had not been read. -/
  | cut (frames : List Frame)

def written (notes : List Note) : List UInt8 :=
  notes.flatMap fun
    | .wrote bytes => bytes
    | _ => []

def heard (notes : List Note) : List Frame :=
  notes.flatMap fun
    | .heard frame => [frame]
    | _ => []

/-- The messages that were cut off. -/
def lost (notes : List Note) : List Frame :=
  notes.flatMap fun
    | .cut frames => frames
    | _ => []

@[simp] theorem heard_append (xs ys : List Note) : heard (xs ++ ys) = heard xs ++ heard ys :=
  List.flatMap_append

@[simp] theorem lost_append (xs ys : List Note) : lost (xs ++ ys) = lost xs ++ lost ys :=
  List.flatMap_append

/-- Nothing is lost unless a push has failed with messages unread. -/
theorem lost_eq_nil_iff (notes : List Note) :
    lost notes = [] ↔ ∀ frames, .cut frames ∈ notes → frames = [] := by
  rw [lost, List.flatMap_eq_nil_iff]
  constructor
  · intro h frames hf
    exact h _ hf
  · intro h note hn
    cases note with
    | cut frames => exact h frames hn
    | wrote => rfl
    | heard => rfl
    | told => rfl

/-- Makes a move; gives the connection, the health of the apps, and what the move did. -/
def move (c : Connection) (apps : Health) (network : Watch NetworkState) :
    Move → (Connection × Health) × List Note
  | .write bytes => ((c.write bytes, apps), if c.closedByApp then [] else [.wrote bytes])
  | .close => ((c.close, apps), [])
  | .read =>
    (c.read apps,
      if !c.isOpen then []
      else match Frame.take? c.unread with
        | some (frame, _) => [.heard frame]
        | none => [])
  | .push =>
    let pushed := c.push network
    ((pushed.1, apps),
      if c.canPush network then
        if c.closedByApp then [.cut (Frame.takeAll c.unread).1] else [.told pushed.2]
      else [])

/-- A connection that is left to itself reads as long as it can and pushes after that: settling is
one of the orders. -/
theorem settle_eq_run (c : Connection) (apps : Health) (network : Watch NetworkState) :
    ∃ reads, (runFrom (fun (s : Connection × Health) m => s.1.move s.2 network m) (c, apps)
      (List.replicate reads .read ++ [.push])).1 =
        ((c.settle apps network).1, (c.settle apps network).2.1) := by
  have reading : ∀ fuel (c : Connection) (apps : Health), ∃ reads,
      (runFrom (fun (s : Connection × Health) m => s.1.move s.2 network m) (c, apps)
        (List.replicate reads .read ++ [.push])).1 =
          (((readAll fuel c apps).1.push network).1, (readAll fuel c apps).2) := by
    intro fuel
    induction fuel with
    | zero => exact fun c apps => ⟨0, rfl⟩
    | succ fuel ih =>
        intro c apps
        rw [readAll]
        split
        · exact ⟨1, rfl⟩
        · obtain ⟨reads, rest⟩ := ih (c.read apps).1 (c.read apps).2
          exact ⟨reads + 1, rest⟩
  exact reading (c.unread.length + 2) c apps

/-! ### The books of a connection -/

/-- The notes of a connection account for all that was written to it. -/
structure Accounts (c : Connection) (notes : List Note) : Prop where
  /-- What was written has been heard, or is still unread. -/
  balance : Frame.takeAll (written notes) =
    (heard notes ++ (Frame.takeAll c.unread).1, (Frame.takeAll c.unread).2)
  /-- The daemon does not end a connection before the app does. -/
  closed : c.isOpen = false → c.closedByApp = true
  /-- What an ended connection leaves unread was cut off. -/
  rest : lost notes = if c.isOpen then [] else (Frame.takeAll c.unread).1

theorem accounts_new : Accounts {} [] := by
  have nothing : Frame.takeAll [] = ([], []) := Frame.takeAll_of_none rfl
  exact ⟨by simp [written, heard, nothing], fun h => (nomatch h), rfl⟩

theorem Accounts.write {c : Connection} {notes : List Note} (h : c.Accounts notes)
    (bytes : List UInt8) :
    (c.write bytes).Accounts (notes ++ if c.closedByApp then [] else [.wrote bytes]) := by
  rw [Connection.write]
  cases hc : c.closedByApp with
  | true => simpa using h
  | false =>
      -- a connection that the app has not closed is served
      have served : c.isOpen = true := by
        cases ho : c.isOpen with
        | true => rfl
        | false => exact absurd (h.closed ho) (by simp [hc])
      have more : written (notes ++ [.wrote bytes]) = written notes ++ bytes := by
        simp [written]
      refine ⟨?_, fun ended => absurd ended (by simp [served]), ?_⟩
      · simp only [Bool.false_eq_true, if_false]
        rw [more, Frame.takeAll_append, h.balance, Frame.takeAll_append c.unread]
        simp [heard]
      · simpa [served, lost] using h.rest

theorem Accounts.close {c : Connection} {notes : List Note} (h : c.Accounts notes) :
    c.close.Accounts notes :=
  ⟨h.balance, fun _ => rfl, h.rest⟩

theorem Accounts.read {c : Connection} {notes : List Note} (h : c.Accounts notes)
    (apps : Health) (network : Watch NetworkState) :
    (c.read apps).1.Accounts (notes ++ (c.move apps network .read).2) := by
  rw [Connection.read, move]
  cases ho : c.isOpen with
  | false => simpa using h
  | true =>
      have rest : lost notes = [] := by rw [h.rest, ho, if_pos rfl]
      cases hf : Frame.take? c.unread with
      | some r =>
          refine ⟨?_, fun ended => absurd ended (by simp), ?_⟩
          · have next := h.balance
            rw [Frame.takeAll_of_some hf] at next
            simpa [written, heard] using next
          · rw [lost_append, rest]
            simp [lost]
      | none =>
          have nothing := Frame.takeAll_of_none hf
          simp only [Bool.not_true, Bool.false_eq_true, if_false, List.append_nil]
          split
          · exact ⟨h.balance, fun _ => ‹_›, by simp [rest, nothing]⟩
          · exact h

theorem Accounts.push {c : Connection} {notes : List Note} (h : c.Accounts notes)
    (apps : Health) (network : Watch NetworkState) :
    (c.push network).1.Accounts (notes ++ (c.move apps network .push).2) := by
  have rest := h.rest
  simp only [Connection.push, move]
  by_cases can : c.canPush network = true
  · have served : c.isOpen = true := (Bool.and_eq_true_iff.mp can).1
    rw [served, if_pos rfl] at rest
    cases hc : c.closedByApp with
    | true =>
        -- the connection ends with all that is unread
        simp only [can, if_true]
        refine ⟨?_, fun _ => rfl, ?_⟩
        · simpa [written, heard] using h.balance
        · rw [lost_append, rest]
          simp [lost]
    | false =>
        simp only [can, if_true, Bool.false_eq_true, if_false]
        refine ⟨?_, fun ended => absurd ended (by simp [served]), ?_⟩
        · simpa [written, heard] using h.balance
        · rw [lost_append, rest]
          simp [served, lost]
  · simpa only [can, Bool.false_eq_true, if_false, List.append_nil] using h

/-- Every move keeps the books. -/
theorem Accounts.move {c : Connection} {notes : List Note} (h : c.Accounts notes) (apps : Health)
    (network : Watch NetworkState) (m : Move) :
    (c.move apps network m).1.1.Accounts (notes ++ (c.move apps network m).2) := by
  cases m with
  | write bytes => exact h.write bytes
  | close =>
      rw [Connection.move, List.append_nil]
      exact h.close
  | read => exact h.read apps network
  | push => exact h.push apps network

/-- The health takes the messages that a move has heard, and nothing else. -/
theorem move_health (c : Connection) (apps : Health) (network : Watch NetworkState) (m : Move) :
    (c.move apps network m).1.2 = apps.applyFrames (heard (c.move apps network m).2) := by
  cases m with
  | write bytes =>
      rw [move]
      split <;> rfl
  | close => rfl
  | read =>
      rw [move, Connection.read]
      cases c.isOpen <;> cases Frame.take? c.unread <;> rfl
  | push =>
      rw [move]
      split
      · split <;> rfl
      · rfl

end Connection

namespace Socket

open Connection (Move Note written heard lost)

/-! ### The socket -/

/-- What can happen to the socket while it is not shut down. -/
inductive Event where
  | connect
  | publish (state : NetworkState)
  /-- The state of the network loses its source. -/
  | abandon
  | move (index : Nat) (m : Move)

/-- Takes an event; gives the notes of the connection that moves, with its index. -/
def step (s : Socket) : Event → Socket × List (Nat × Note)
  | .connect =>
    match s.connect with
    | .ok s' => (s', [])
    | .error _ => (s, [])
  | .publish state => (s.publish state, [])
  | .abandon => ({ s with network := s.network.close }, [])
  | .move index m =>
    match s.connections[index]? with
    | none => (s, [])
    | some c =>
      let r := c.move s.apps s.network m
      ({ s with connections := s.connections.set index r.1.1, apps := r.1.2 },
        r.2.map fun note => (index, note))

/-- To change a connection is to set it. -/
theorem modify_connection {s : Socket} {index : Nat} {c : Connection}
    (hc : s.connections[index]? = some c) (f : Connection → Connection) :
    s.connections.modify index f = s.connections.set index (f c) := by
  obtain ⟨inside, rfl⟩ := List.getElem?_eq_some_iff.mp hc
  apply List.ext_getElem?
  intro i
  rw [List.getElem?_modify, List.getElem?_set]
  by_cases same : index = i
  · subst same
    simp [inside]
  · simp [same]

/-- What an app may write goes to the connection as a move. -/
theorem send_eq_step {s s' : Socket} {index : Nat} {bytes : List UInt8}
    (h : s.send index bytes = .ok s') : s' = (s.step (.move index (.write bytes))).1 := by
  cases hc : s.connections[index]? with
  | none =>
      simp only [send, hc] at h
      cases h
      simp only [step, hc]
  | some c =>
      simp only [send, hc] at h
      simp only [step, hc, Connection.move]
      split at h
      · rename_i closed
        cases h
        have same : s.connections.set index c = s.connections :=
          (modify_connection hc id).symm.trans (List.modify_id index s.connections)
        simp only [Connection.write, if_pos closed, same]
      · split at h
        · cases h
          rfl
        · cases h

theorem close_eq_step (s : Socket) (index : Nat) :
    s.close index = (s.step (.move index .close)).1 := by
  rw [close, step]
  cases hc : s.connections[index]? with
  | none => rw [List.modify_eq_self (List.getElem?_eq_none_iff.mp hc)]
  | some c =>
      rw [modify_connection hc]
      rfl

/-- The notes of one connection. -/
def notesOf (log : List (Nat × Note)) (index : Nat) : List Note :=
  log.filterMap fun entry => if entry.1 = index then some entry.2 else none

/-- The messages of all connections, in the order in which they were read. -/
def arrivals (log : List (Nat × Note)) : List Frame := heard (log.map Prod.snd)

theorem notesOf_append (log more : List (Nat × Note)) (index : Nat) :
    notesOf (log ++ more) index = notesOf log index ++ notesOf more index :=
  List.filterMap_append

theorem notesOf_map (notes : List Note) (moved index : Nat) :
    notesOf (notes.map fun note => (moved, note)) index = if moved = index then notes else [] := by
  rw [notesOf, List.filterMap_map]
  change notes.filterMap (fun note => if moved = index then some note else none) = _
  by_cases same : moved = index <;> simp [same]

theorem arrivals_append_map (log : List (Nat × Note)) (notes : List Note) (index : Nat) :
    arrivals (log ++ notes.map fun note => (index, note)) = arrivals log ++ heard notes := by
  simp [arrivals, Function.comp_def, Connection.heard_append]

/-- The notes account for all connections and for the health of the apps. -/
structure Accounts (start : Health) (s : Socket) (log : List (Nat × Note)) : Prop where
  each : ∀ i (c : Connection), s.connections[i]? = some c → c.Accounts (notesOf log i)
  /-- There are no notes of connections that are not made yet. -/
  fresh : ∀ i, s.connections.length ≤ i → notesOf log i = []
  health : s.apps = start.applyFrames (arrivals log)

theorem accounts_start (apps : Health) (network : Watch NetworkState) :
    Accounts apps { apps, network } [] :=
  ⟨fun _ _ h => (nomatch h), fun _ _ => rfl, rfl⟩

/-- A new connection starts with empty books. -/
theorem Accounts.connect {start : Health} {s : Socket} {log : List (Nat × Note)}
    (h : s.Accounts start log) :
    Accounts start { s with connections := s.connections ++ [{}] } log := by
  refine ⟨fun i c hc => ?_, fun i hi => h.fresh i ?_, h.health⟩
  · by_cases old : i < s.connections.length
    · rw [List.getElem?_append_left old] at hc
      exact h.each i c hc
    · have newest : i - s.connections.length = 0 ∧ ({} : Connection) = c := by
        rw [List.getElem?_append_right (Nat.le_of_not_lt old)] at hc
        simpa using List.getElem?_eq_some_iff.mp hc
      rw [h.fresh i (Nat.le_of_not_lt old), ← newest.2]
      exact Connection.accounts_new
  · simp only [List.length_append, List.length_singleton] at hi
    omega

/-- A move keeps the books of its connection, and the others do not notice. -/
theorem Accounts.move {start : Health} {s : Socket} {log : List (Nat × Note)}
    (h : s.Accounts start log) {index : Nat} {c : Connection}
    (hc : s.connections[index]? = some c) (m : Move) :
    let r := c.move s.apps s.network m
    Accounts start { s with connections := s.connections.set index r.1.1, apps := r.1.2 }
      (log ++ r.2.map fun note => (index, note)) := by
  intro r
  have inside : index < s.connections.length := (List.getElem?_eq_some_iff.mp hc).1
  refine ⟨fun i c' hc' => ?_, fun i hi => ?_, ?_⟩
  · rw [notesOf_append, notesOf_map]
    by_cases same : index = i
    · subst same
      rw [List.getElem?_set_self inside, Option.some.injEq] at hc'
      rw [if_pos rfl, ← hc']
      exact (h.each index c hc).move s.apps s.network m
    · rw [List.getElem?_set_ne same] at hc'
      rw [if_neg same, List.append_nil]
      exact h.each i c' hc'
  · rw [List.length_set] at hi
    rw [notesOf_append, notesOf_map, h.fresh i hi, if_neg (by omega)]
    rfl
  · rw [arrivals_append_map, Health.applyFrames_append, ← h.health]
    exact c.move_health s.apps s.network m

/-- Every event keeps the books. -/
theorem Accounts.step {start : Health} {s : Socket} {log : List (Nat × Note)}
    (h : s.Accounts start log) (event : Event) :
    (s.step event).1.Accounts start (log ++ (s.step event).2) := by
  cases event with
  | connect =>
      rw [Socket.step, Socket.connect]
      split
      · rename_i made
        split at made
        · cases made
          rw [List.append_nil]
          exact h.connect
        · cases made
      · rwa [List.append_nil]
  | publish state =>
      rw [Socket.step, List.append_nil, publish]
      split
      · exact ⟨h.each, h.fresh, h.health⟩
      · exact h
  | abandon =>
      rw [Socket.step, List.append_nil]
      exact ⟨h.each, h.fresh, h.health⟩
  | move index m =>
      rw [Socket.step]
      cases hc : s.connections[index]? with
      | none => rwa [List.append_nil]
      | some c => exact h.move hc m

/-- The books balance in every run. -/
theorem run_accounts (apps : Health) (network : Watch NetworkState) (events : List Event) :
    let r := runFrom step { apps, network } events
    r.1.Accounts apps r.2 :=
  runFrom_induction (motive := Accounts apps) (fun _ _ event h => h.step event)
    (accounts_start apps network) events

/-- In whatever order apps and daemon move, the health of the apps is that of all messages that were
read, in order, and of the complete messages of an app each one has been read, is still unread, or
was cut off. Nothing is cut off while a connection is served. One that has ended was closed by its
app, and all messages of the app were read unless a push failed while some of them were unread. -/
theorem reports_heard_or_cut (apps : Health) (network : Watch NetworkState)
    (events : List Event) :
    let r := runFrom step { apps, network } events
    r.1.apps = apps.applyFrames (arrivals r.2) ∧
    ∀ i c, r.1.connections[i]? = some c →
      let notes := notesOf r.2 i
      let frames := (Frame.takeAll (written notes)).1
      frames = heard notes ++ (Frame.takeAll c.unread).1 ∧
      (c.isOpen = true → lost notes = []) ∧
      (c.isOpen = false → c.closedByApp = true ∧ frames = heard notes ++ lost notes ∧
        (heard notes = frames ↔ ∀ unread, .cut unread ∈ notes → unread = [])) := by
  intro r
  have accounts : r.1.Accounts apps r.2 := run_accounts apps network events
  refine ⟨accounts.health, fun i c hc => ?_⟩
  intro notes frames
  have books := accounts.each i c hc
  have balance : frames = heard notes ++ (Frame.takeAll c.unread).1 :=
    congrArg Prod.fst books.balance
  refine ⟨balance, fun served => ?_, fun ended => ?_⟩
  · rw [books.rest, if_pos served]
  · have rest : lost notes = (Frame.takeAll c.unread).1 := by
      rw [books.rest, ended]
      rfl
    have whole : frames = heard notes ++ lost notes := by rw [balance, rest]
    refine ⟨books.closed ended, whole, ?_⟩
    rw [← Connection.lost_eq_nil_iff, whole, List.self_eq_append_right]

/-! ### Two orders -/

/-- The bytes of an app's report that it is well. -/
def report : List UInt8 := encodeMessage .appStateUpdate (appStateFields 0 1 0)

/-- The report as it is read. -/
def reportFrame : Frame := ⟨0, some (.app { index := some 0, app := some ⟨1, 0⟩ }), []⟩

/-- A socket for one app that has reported nothing. -/
def silent : Socket := { apps := .ofNames ["sensor"], network := { value := {} } }

theorem take?_report : Frame.take? report = some (reportFrame, []) := by
  have kinds : ∀ f ∈ appStateFields 0 1 0, f.isTerminator = false := by decide
  have h := Frame.take?_encode 0 kinds (by decide) []
  rwa [List.append_nil] at h

theorem takeAll_report : Frame.takeAll report = ([reportFrame], []) := by
  rw [Frame.takeAll_of_some take?_report, Frame.takeAll_of_none rfl]

/-- The report of an app that has closed is heard if the daemon reads first. -/
theorem reports_heard_or_cut_read_first :
    let r := runFrom step silent
      [.connect, .move 0 (.write report), .move 0 .close, .move 0 .read, .move 0 .read]
    r.1.connections = [{ closedByApp := true, isOpen := false }] ∧
    heard (notesOf r.2 0) = (Frame.takeAll report).1 ∧
    r.1.apps = silent.apps.applyMessage reportFrame.message := by
  intro r
  have outcome : r = ({ silent with
      apps := silent.apps.applyMessage reportFrame.message
      connections := [{ closedByApp := true, isOpen := false }] },
      [(0, .wrote report), (0, .heard reportFrame)]) := by
    have nothing : Frame.take? [] = none := rfl
    simp [r, runFrom, step, connect, silent, Connection.move, Connection.write, Connection.close,
      Connection.read, take?_report, nothing]
  obtain ⟨health, each⟩ := reports_heard_or_cut silent.apps silent.network
    [.connect, .move 0 (.write report), .move 0 .close, .move 0 .read, .move 0 .read]
  change r.1.apps = silent.apps.applyFrames (arrivals r.2) at health
  obtain ⟨-, -, ended⟩ := each 0 { closedByApp := true, isOpen := false } (by
    change r.1.connections[0]? = _
    rw [outcome]
    rfl)
  obtain ⟨-, -, exact⟩ := ended rfl
  change heard (notesOf r.2 0) = (Frame.takeAll (written (notesOf r.2 0))).1 ↔ _ at exact
  refine ⟨by rw [outcome], ?_, ?_⟩
  · have bytes : written (notesOf r.2 0) = report := by
      rw [outcome]
      rfl
    rw [← bytes]
    refine exact.mpr fun unread hu => ?_
    change Note.cut unread ∈ notesOf r.2 0 at hu
    rw [outcome] at hu
    simp [notesOf] at hu
  · rw [health, outcome]
    rfl

/-- The same report is lost if the daemon pushes first. -/
theorem report_cut_push_first :
    let r := runFrom step silent
      [.connect, .move 0 (.write report), .move 0 .close, .move 0 .push]
    r.1.connections = [{ unread := report, closedByApp := true, isOpen := false }] ∧
    r.1.running = true ∧ (Frame.takeAll report).1 = [reportFrame] ∧ heard (notesOf r.2 0) = [] ∧
    r.1.apps = silent.apps ∧ silent.apps.applyMessage reportFrame.message ≠ silent.apps := by
  intro r
  have outcome : r = ({ silent with
      connections := [{ unread := report, closedByApp := true, isOpen := false }] },
      [(0, .wrote report), (0, .cut [reportFrame])]) := by
    simp [r, runFrom, step, connect, silent, Connection.move, Connection.write, Connection.close,
      Connection.push, Connection.canPush, takeAll_report]
  rw [outcome, takeAll_report]
  exact ⟨rfl, rfl, rfl, rfl, rfl, by decide⟩

end Socket

end WifiStation.App
