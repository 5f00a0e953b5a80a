import WifiStation.App.Reporter
import WifiStation.Proofs.App.Delivery
import Mathlib.Data.List.Perm.Subperm

/-!
# WifiStation.Proofs.App.Reports

The slots of the apps tell what the apps have reported last.

`Health.get?_applyFrames` looks at one slot: it keeps, of each pair on its own, the last one among
the updates for its index, in the order in which they were read. So it does not matter how the
messages for other indices come in between, and if each connection has an index of its own, it does
not matter at all how connections are interleaved.

A `Speech` is what a connection writes: whole reports, and perhaps the beginning of one more, of
which nothing is read. What is read of a connection is tied to what was written by its books
(`Connection.Accounts`).
-/

namespace WifiStation.App

open WifiStation

/-! ### One slot -/

/-- The update of a message that is about the slot of an index. -/
def updateFor (index : Nat) (f : Frame) : Option AppUpdate :=
  match f.message with
  | some (.app u) => if u.index.map UInt32.toNat = some index then some u else none
  | _ => none

/-- A slot after updates: of each pair the last one counts. -/
def AppStatus.latest (s : AppStatus) (us : List AppUpdate) : AppStatus :=
  { s with
    app := (us.filterMap AppUpdate.app).getLast?.getD s.app
    connectivity := (us.filterMap AppUpdate.connectivity).getLast?.getD s.connectivity }

/-- The last of some values that are perhaps there, after a first one. -/
theorem getLast?_filterMap_cons {α β : Type} (g : α → Option β) (a : α) (as : List α) (b : β) :
    ((a :: as).filterMap g).getLast?.getD b =
      (as.filterMap g).getLast?.getD ((g a).getD b) := by
  cases hg : g a with
  | none => rw [List.filterMap_cons_none hg, Option.getD_none]
  | some c =>
      rw [List.filterMap_cons_some hg, List.getLast?_cons, Option.getD_some, Option.getD_some]

theorem AppStatus.latest_cons (s : AppStatus) (u : AppUpdate) (us : List AppUpdate) :
    s.latest (u :: us) = (s.apply u).latest us := by
  simp only [latest, getLast?_filterMap_cons, apply]

namespace Health

/-- An update that names no slot changes nothing. -/
theorem apply_of_not_accepts {h : Health} {u : AppUpdate} (strange : h.accepts u = false) :
    h.apply u = h := by
  rw [apply]
  split
  · rename_i i hi
    have outside : ¬ i.toNat < h.slots.length := by simpa [accepts, hi] using strange
    rw [List.modify_eq_self (Nat.le_of_not_lt outside)]
  · rfl

theorem get?_applyMessage (h : Health) (f : Frame) (index : Nat) :
    (h.applyMessage f.message).get? index =
      (h.get? index).map fun s => (updateFor index f).elim s s.apply := by
  unfold updateFor
  split
  · rename_i u hm
    rw [hm, applyMessage, apply]
    cases hi : u.index with
    | none => simp
    | some i =>
        simp only [get?, List.getElem?_modify, Option.map_some, Option.some.injEq]
        by_cases same : i.toNat = index <;> simp [same]
  · rename_i other
    have ignored : h.applyMessage f.message = h := by
      rw [applyMessage]
      exact other
    simp [ignored]

/-- Of each pair a slot keeps the last one that was read for it. -/
theorem get?_applyFrames (h : Health) (frames : List Frame) (index : Nat) :
    (h.applyFrames frames).get? index =
      (h.get? index).map fun s => s.latest (frames.filterMap (updateFor index)) := by
  induction frames generalizing h with
  | nil => exact Option.map_id'.symm
  | cons f rest ih =>
      rw [applyFrames, List.foldl_cons]
      refine (ih _).trans ?_
      rw [get?_applyMessage, Option.map_map]
      congr 1
      funext s
      cases hu : updateFor index f with
      | none => simp [hu]
      | some u => simp [hu, AppStatus.latest_cons]

/-- The slots of some apps after messages. -/
def told (names : List String) (frames : List Frame) : Health :=
  ⟨names.mapIdx fun index name =>
    AppStatus.latest { name } (frames.filterMap (updateFor index))⟩

theorem applyFrames_ofNames (names : List String) (frames : List Frame) :
    (ofNames names).applyFrames frames = told names frames := by
  have slots : ((ofNames names).applyFrames frames).slots = (told names frames).slots := by
    apply List.ext_getElem?
    intro index
    have slot := get?_applyFrames (ofNames names) frames index
    simp only [get?, ofNames, List.getElem?_map, Option.map_map] at slot
    rw [told, List.getElem?_mapIdx]
    exact slot
  exact congrArg Health.mk slots

theorem names_told (names : List String) (frames : List Frame) :
    (told names frames).slots.map AppStatus.name = names := by
  apply List.ext_getElem?
  intro index
  rw [told, List.getElem?_map, List.getElem?_mapIdx, Option.map_map]
  exact Option.map_id'

theorem told_congr (names : List String) {frames frames' : List Frame}
    (h : ∀ index, frames.filterMap (updateFor index) = frames'.filterMap (updateFor index)) :
    told names frames = told names frames' := by
  simp only [told, h]

end Health

/-! ### What a connection says -/

/-- What an app reports of itself. -/
inductive Report where
  | health (state error : UInt32)
  | connectivity (reached : Bool)

namespace Report

/-- What an app writes to report. -/
def bytes (app : UInt32) : Report → List UInt8
  | health state error => ({ app } : Reporter).appStateBytes state error
  | connectivity reached => ({ app } : Reporter).connectivityBytes reached

def update (app : UInt32) : Report → AppUpdate
  | health state error => { index := some app, app := some ⟨state, error⟩ }
  | connectivity reached =>
    { index := some app, connectivity := some (.of (Reporter.connectivityState reached) 0) }

def frame (app : UInt32) (r : Report) : Frame :=
  ⟨MessageType.appStateUpdate.code, some (.app (r.update app)), []⟩

theorem take?_bytes (app : UInt32) (r : Report) (rest : List UInt8) :
    Frame.take? (r.bytes app ++ rest) = some (r.frame app, rest) := by
  cases r with
  | health state error =>
      have kinds : ∀ f ∈ appStateFields app state error, f.isTerminator = false := by
        intro f hf
        simp only [appStateFields, List.mem_cons, List.not_mem_nil, or_false] at hf
        rcases hf with rfl | rfl <;> rfl
      exact Frame.take?_encode _ kinds (by simp [appStateFields]) rest
  | connectivity reached =>
      have kinds : ∀ f ∈ connectivityFields app (Reporter.connectivityState reached).code 0,
          f.isTerminator = false := by
        intro f hf
        simp only [connectivityFields, List.mem_cons, List.not_mem_nil, or_false] at hf
        rcases hf with rfl | rfl <;> rfl
      exact Frame.take?_encode _ kinds (by simp [connectivityFields]) rest

theorem updateFor_frame (app : UInt32) (r : Report) (index : Nat) :
    updateFor index (r.frame app) = if app.toNat = index then some (r.update app) else none := by
  cases r <;> simp [updateFor, frame, update]

end Report

/-- What a connection writes: reports of one app, and perhaps the beginning of one more. -/
structure Speech where
  app : UInt32
  reports : List Report
  torn : List UInt8 := []
  broken : ∃ (r : Report) (rest : List UInt8), rest ≠ [] ∧ r.bytes app = torn ++ rest

namespace Speech

def bytes (s : Speech) : List UInt8 := s.reports.flatMap (Report.bytes s.app) ++ s.torn

def frames (s : Speech) : List Frame := s.reports.map (Report.frame s.app)

/-- The reports that are whole are read, and nothing else. -/
theorem takeAll_bytes (s : Speech) : Frame.takeAll s.bytes = (s.frames, s.torn) := by
  obtain ⟨r, rest, missing, whole⟩ := s.broken
  have back := r.take?_bytes s.app []
  rw [List.append_nil, whole] at back
  exact Frame.takeAll_stream (Report.take?_bytes s.app) s.reports (Frame.take?_torn back missing)

theorem filterMap_frames (s : Speech) :
    s.frames.filterMap (updateFor s.app.toNat) = s.reports.map (Report.update s.app) := by
  rw [frames, List.filterMap_map, ← List.filterMap_eq_map]
  congr 1
  funext r
  exact (r.updateFor_frame s.app _).trans (if_pos rfl)

end Speech

namespace Socket

open Connection (Note written heard)

/-! ### Connections that do not get into each other's way -/

theorem heard_notesOf_cons (moved : Nat) (note : Note) (log : List (Nat × Note)) (index : Nat) :
    heard (notesOf ((moved, note) :: log) index) =
      (if moved = index then heard [note] else []) ++ heard (notesOf log index) := by
  by_cases same : moved = index
  · simp [notesOf, same, ← Connection.heard_append]
  · simp [notesOf, same]

/-- Messages that only one connection has sent arrive as it has sent them. -/
theorem filterMap_arrivals {α : Type} {g : Frame → Option α} {log : List (Nat × Note)}
    (index : Nat)
    (others : ∀ other, other ≠ index → ∀ f ∈ heard (notesOf log other), g f = none) :
    (arrivals log).filterMap g = (heard (notesOf log index)).filterMap g := by
  induction log with
  | nil => rfl
  | cons entry log ih =>
      obtain ⟨moved, note⟩ := entry
      have before : ∀ other, other ≠ index → ∀ f ∈ heard (notesOf log other), g f = none := by
        intro other apart f hf
        refine others other apart f ?_
        rw [heard_notesOf_cons]
        exact List.mem_append_right _ hf
      have first : arrivals ((moved, note) :: log) = heard [note] ++ arrivals log := by
        simp [arrivals, ← Connection.heard_append]
      rw [first, heard_notesOf_cons, List.filterMap_append, List.filterMap_append, ih before]
      congr 1
      by_cases same : moved = index
      · rw [if_pos same]
      · rw [if_neg same, List.filterMap_nil, List.filterMap_eq_nil_iff]
        intro f hf
        refine others moved same f ?_
        rw [heard_notesOf_cons, if_pos rfl]
        exact List.mem_append_left _ hf

/-- Each connection wrote a speech, and the daemon has read all of them. -/
structure Hears (s : Socket) (log : List (Nat × Note)) (speeches : List Speech) : Prop where
  count : s.connections.length = speeches.length
  wrote : ∀ (i : Nat) (speech : Speech), speeches[i]? = some speech →
    written (notesOf log i) = speech.bytes
  read : ∀ (i : Nat) (c : Connection), s.connections[i]? = some c → Frame.take? c.unread = none

section Hears

variable {start : Health} {s : Socket} {log : List (Nat × Note)} {speeches : List Speech}

/-- What was read of a connection are its whole reports. -/
theorem Hears.heard_eq (h : s.Hears log speeches) (accounts : s.Accounts start log) {i : Nat}
    {speech : Speech} (hi : speeches[i]? = some speech) :
    heard (notesOf log i) = speech.frames := by
  have inside : i < s.connections.length := by
    rw [h.count]
    exact (List.getElem?_eq_some_iff.mp hi).1
  have hc := List.getElem?_eq_getElem inside
  have books := (accounts.each i _ hc).balance
  rw [h.wrote i speech hi, speech.takeAll_bytes, Frame.takeAll_of_none (h.read i _ hc)] at books
  simpa using (congrArg Prod.fst books).symm

/-- A connection with another index has nothing for a slot. -/
theorem Hears.none_for (h : s.Hears log speeches) (accounts : s.Accounts start log)
    {i index : Nat}
    (strange : ∀ speech : Speech, speeches[i]? = some speech → speech.app.toNat ≠ index) :
    ∀ f ∈ heard (notesOf log i), updateFor index f = none := by
  cases hi : speeches[i]? with
  | none =>
      have outside : s.connections.length ≤ i := by
        rw [h.count]
        exact List.getElem?_eq_none_iff.mp hi
      rw [accounts.fresh i outside]
      intro f hf
      cases hf
  | some speech =>
      rw [h.heard_eq accounts hi]
      intro f hf
      obtain ⟨r, -, rfl⟩ := List.mem_map.mp hf
      rw [r.updateFor_frame, if_neg (strange speech hi)]

/-- The messages for a slot are the reports of the connection that has its index to itself. -/
theorem Hears.arrivals_eq (h : s.Hears log speeches) (accounts : s.Accounts start log)
    (apart : (speeches.map Speech.app).Nodup) {speech : Speech} (hs : speech ∈ speeches) :
    (arrivals log).filterMap (updateFor speech.app.toNat) =
      speech.reports.map (Report.update speech.app) := by
  obtain ⟨i, hi⟩ := List.mem_iff_getElem?.mp hs
  have own := speech.filterMap_frames
  rw [← h.heard_eq accounts hi] at own
  rw [← own]
  apply filterMap_arrivals i
  intro other ne
  apply h.none_for accounts
  intro speech' hi' same
  have inside : i < (speeches.map Speech.app).length := by
    rw [List.length_map]
    exact (List.getElem?_eq_some_iff.mp hi).1
  refine ne ((List.getElem?_inj inside apart).mp ?_).symm
  rw [List.getElem?_map, List.getElem?_map, hi, hi', Option.map_some, Option.map_some,
    UInt32.toNat_inj.mp same]

/-- There are no messages for a slot that no connection has the index of. -/
theorem Hears.arrivals_eq_nil (h : s.Hears log speeches) (accounts : s.Accounts start log)
    {index : Nat} (strange : ∀ speech ∈ speeches, speech.app.toNat ≠ index) :
    (arrivals log).filterMap (updateFor index) = [] := by
  have nothing : ∀ i, ∀ f ∈ heard (notesOf log i), updateFor index f = none :=
    fun i => h.none_for accounts fun speech hi => strange speech (List.mem_of_getElem? hi)
  rw [filterMap_arrivals 0 fun other _ => nothing other]
  exact List.filterMap_eq_nil_iff.mpr (nothing 0)

end Hears

/-- **Reports reach their slots.** In every run each slot keeps the last pair of its own app that was
read, and of either kind on its own; updates for other indices change nothing, and the names stay as
they are. Where each connection wrote reports of one app, perhaps breaking off in the middle of one,
and the daemon has read all of them, what was read are the whole reports; and if no two connections
have the same index, the slots are the same in every other such run. -/
theorem reports_reach_slots (names : List String) (network : Watch NetworkState)
    (events : List Event) :
    let r := runFrom step { apps := .ofNames names, network } events
    r.1.apps = Health.told names (arrivals r.2) ∧
    r.1.apps.slots.map AppStatus.name = names ∧
    (∀ u, r.1.apps.accepts u = false → r.1.apps.apply u = r.1.apps) ∧
    ∀ speeches, r.1.Hears r.2 speeches →
      (∀ (i : Nat) (speech : Speech), speeches[i]? = some speech →
        heard (notesOf r.2 i) = speech.frames) ∧
      ((speeches.map Speech.app).Nodup →
        ∀ (network' : Watch NetworkState) (events' : List Event) (speeches' : List Speech),
          let r' := runFrom step { apps := .ofNames names, network := network' } events'
          r'.1.Hears r'.2 speeches' → speeches'.Perm speeches → r'.1.apps = r.1.apps) := by
  intro r
  have accounts : r.1.Accounts (.ofNames names) r.2 := run_accounts _ network events
  have health : r.1.apps = Health.told names (arrivals r.2) := by
    rw [accounts.health, Health.applyFrames_ofNames]
  refine ⟨health, ?_, fun u strange => Health.apply_of_not_accepts strange, ?_⟩
  · rw [health]
    exact Health.names_told names _
  intro speeches hears
  refine ⟨fun i speech hi => hears.heard_eq accounts hi, fun apart => ?_⟩
  intro network' events' speeches' r' hears' same
  have accounts' : r'.1.Accounts (.ofNames names) r'.2 := run_accounts _ network' events'
  rw [health, accounts'.health, Health.applyFrames_ofNames]
  apply Health.told_congr
  intro index
  by_cases own : ∃ speech ∈ speeches, speech.app.toNat = index
  · obtain ⟨speech, hs, rfl⟩ := own
    have apart' : (speeches'.map Speech.app).Nodup := (same.map Speech.app).nodup_iff.mpr apart
    rw [hears.arrivals_eq accounts apart hs,
      hears'.arrivals_eq accounts' apart' (same.mem_iff.mpr hs)]
  · have strange : ∀ speech ∈ speeches, speech.app.toNat ≠ index :=
      fun speech hs found => own ⟨speech, hs, found⟩
    rw [hears.arrivals_eq_nil accounts strange,
      hears'.arrivals_eq_nil accounts' fun speech hs => strange speech (same.mem_iff.mp hs)]

/-! ### Two orders of the same reports -/

/-- Two reports of an app, and the header of a third one. -/
def sensorSpeech : Speech where
  app := 0
  reports := [.health 3 0, .connectivity true]
  torn := [0, 2, 1]
  broken := ⟨.health 1 0, ((Report.health 1 0).bytes 0).drop 3, by decide, by decide⟩

/-- A report of an app that has no slot. -/
def strangerSpeech : Speech where
  app := 7
  reports := [.health 1 9]
  broken := ⟨.health 1 9, (Report.health 1 9).bytes 7, by decide, rfl⟩

/-- The app that has no slot comes second or first, and is read first or last. -/
def sensorFirst : List Event :=
  [.connect, .connect, .move 0 (.write sensorSpeech.bytes), .move 1 (.write strangerSpeech.bytes),
    .move 1 .read, .move 0 .read, .move 0 .read, .move 0 .close]

def strangerFirst : List Event :=
  [.connect, .move 0 (.write strangerSpeech.bytes), .connect, .move 1 (.write sensorSpeech.bytes),
    .move 1 .read, .move 0 .close, .move 1 .read, .move 0 .read]

theorem hears_two {s : Socket} {log : List (Nat × Note)} {a b : Speech} {c d : Connection}
    (connections : s.connections = [c, d]) (first : written (notesOf log 0) = a.bytes)
    (second : written (notesOf log 1) = b.bytes) (empty : Frame.take? c.unread = none)
    (empty' : Frame.take? d.unread = none) : s.Hears log [a, b] := by
  refine ⟨by rw [connections]; rfl, fun i speech hi => ?_, fun i e he => ?_⟩
  · match i with
    | 0 => cases hi; exact first
    | 1 => cases hi; exact second
    | _ + 2 => cases hi
  · rw [connections] at he
    match i with
    | 0 => cases he; exact empty
    | 1 => cases he; exact empty'
    | _ + 2 => cases he

/-- The same two connections in two orders leave the same health. -/
theorem reports_reach_slots_two_orders :
    let one := runFrom step silent sensorFirst
    let other := runFrom step silent strangerFirst
    one.1.Hears one.2 [sensorSpeech, strangerSpeech] ∧
    other.1.Hears other.2 [strangerSpeech, sensorSpeech] ∧
    one.1.apps = ⟨[⟨"sensor", ⟨3, 0⟩, ⟨1, 0⟩⟩]⟩ ∧ other.1.apps = one.1.apps := by
  intro one other
  have alone : Frame.take? (Report.bytes 7 (.health 1 9)) =
      some (Report.frame 7 (.health 1 9), []) := by
    have h := Report.take?_bytes 7 (.health 1 9) []
    rwa [List.append_nil] at h
  have one_eq : one = ({ silent with
      apps := silent.apps.applyFrames (strangerSpeech.frames ++ sensorSpeech.frames)
      connections := [{ unread := [0, 2, 1], closedByApp := true }, {}] },
      [(0, .wrote sensorSpeech.bytes), (1, .wrote strangerSpeech.bytes),
        (1, .heard (Report.frame 7 (.health 1 9))), (0, .heard (Report.frame 0 (.health 3 0))),
        (0, .heard (Report.frame 0 (.connectivity true)))]) := by
    simp [one, sensorFirst, runFrom, step, connect, silent, Connection.move, Connection.write,
      Connection.read, Connection.close, sensorSpeech, strangerSpeech, Speech.bytes, Speech.frames,
      Health.applyFrames, Report.take?_bytes, alone]
  have other_eq : other = ({ silent with
      apps := silent.apps.applyFrames (sensorSpeech.frames ++ strangerSpeech.frames)
      connections := [{ closedByApp := true }, { unread := [0, 2, 1] }] },
      [(0, .wrote strangerSpeech.bytes), (1, .wrote sensorSpeech.bytes),
        (1, .heard (Report.frame 0 (.health 3 0))),
        (1, .heard (Report.frame 0 (.connectivity true))),
        (0, .heard (Report.frame 7 (.health 1 9)))]) := by
    simp [other, strangerFirst, runFrom, step, connect, silent, Connection.move, Connection.write,
      Connection.read, Connection.close, sensorSpeech, strangerSpeech, Speech.bytes, Speech.frames,
      Health.applyFrames, Report.take?_bytes, alone]
  have hears : one.1.Hears one.2 [sensorSpeech, strangerSpeech] := by
    rw [one_eq]
    exact hears_two rfl rfl rfl rfl rfl
  have hears' : other.1.Hears other.2 [strangerSpeech, sensorSpeech] := by
    rw [other_eq]
    exact hears_two rfl rfl rfl rfl rfl
  obtain ⟨health, -, -, heard⟩ := reports_reach_slots ["sensor"] silent.network sensorFirst
  change one.1.apps = _ at health
  refine ⟨hears, hears', ?_, ?_⟩
  · rw [health]
    change Health.told ["sensor"] (arrivals one.2) = _
    rw [one_eq]
    rfl
  · exact (heard _ hears).2 (by decide) silent.network strangerFirst _ hears' (.swap _ _ _)

end Socket

end WifiStation.App
