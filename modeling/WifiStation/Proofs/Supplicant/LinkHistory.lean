import WifiStation.Proofs.LastSaid
import WifiStation.Proofs.Supplicant.Envelope
import WifiStation.Proofs.Supplicant.Radio

/-!
# WifiStation.Proofs.Supplicant.LinkHistory

What the monitor knows is what it was told last.

A `Notice` is anything that can happen to a monitor. Which notices speak of the link, of an error
and of scan results is said of the notices alone, and of records by their form and name (`Reports`).
`Effect` is what one notice does to the monitor: it settles what it speaks of, and leaves the rest.
So each field holds what the last notice has told that speaks of it, and the link that others see is
the link (`Monitor.known_from_last`).

A service that has seen a failure is deaf (`Deaf`): no record reaches its monitor any more, and
without one the link does not come up again.
-/

namespace WifiStation.Supplicant

variable {σ : Type}

/-! ### Notices -/

/-- What the supplicant can be asked for. -/
inductive Command where
  | scan
  | addNetwork (profile : Profile) (mode : Nat)
  | selectNetwork (id : Nat)
  | configure (profile : Profile)
  /-- Any text at all. -/
  | send (text : String) (strip : Bool)

/-- What can happen to a monitor. -/
inductive Notice (σ : Type) where
  /-- A record has come. -/
  | record (text : String)
  /-- There are no more events, or the process has ended. -/
  | failed (e : SupplicantError)
  | startupFailed (e : SupplicantError)
  | started
  | stopped
  /-- Scan results are asked for. -/
  | fetch
  | command (c : Command)
  /-- The other end of the channel comes into another state. -/
  | line (s : σ)

namespace Notice

/-- The link is up. -/
@[simp]
def Connects : Notice σ → Prop
  | record text => ∃ rest, Reports text "CTRL-EVENT-CONNECTED" rest
  | _ => False

/-- The link is lost, as a record tells or as follows from a failure. -/
@[simp]
def Disconnects : Notice σ → Prop
  | record text => ∃ rest, Reports text "CTRL-EVENT-DISCONNECTED" rest
  | failed _ => True
  | startupFailed _ => True
  | _ => False

/-- The link is up, is lost or is given up. -/
def ConcernsLink (n : Notice σ) : Prop := n.Connects ∨ n.Disconnects ∨ n = stopped

/-- There is a reason why the link is not up. -/
@[simp]
def Blames (reason : String) : Notice σ → Prop
  | record text => ∃ rest, Reports text "CTRL-EVENT-SSID-TEMP-DISABLED" rest ∧
      (fieldsOf rest).get? "reason" = some reason
  | failed (.exited status) => reason = (SupplicantError.exited status).message
  | startupFailed e => reason = e.message
  | _ => False

/-- Scan results are asked for. -/
@[simp]
def Fetches : Notice σ → Prop
  | record text => ∃ rest, Reports text "CTRL-EVENT-SCAN-RESULTS" rest
  | fetch => True
  | _ => False

end Notice

/-! ### Runs -/

/-- The other end of the channel after a command, if there is a channel. -/
def Command.talk (m : Monitor) (channel : σ → String → Outcome × σ) (s : σ) : Command → σ
  | scan => (m.talk channel Supplicant.scan s).2
  | addNetwork profile mode => (m.talk channel (Supplicant.addNetwork profile mode) s).2
  | selectNetwork id => (m.talk channel (Supplicant.selectNetwork id) s).2
  | configure profile => (m.talk channel (Supplicant.configure profile) s).2
  | send text strip => (m.talk channel (Supplicant.send text strip) s).2

/-- The scan results in a reply; none if there is no reply. -/
def resultsIn : Outcome → List ScanResult
  | .ok text => ScanResult.readAll text.toList
  | .error _ => []

namespace Monitor

/-- One notice. Beside the monitor stands the other end of the channel. -/
def take (channel : σ → String → Outcome × σ) (p : Monitor × σ) : Notice σ → Monitor × σ
  | .record text => p.1.talk channel (p.1.handleRecord text) p.2
  | .failed e => (p.1.channelFailed e, p.2)
  | .startupFailed e => (p.1.recordStartupFailure e, p.2)
  | .started => (p.1.start, p.2)
  | .stopped => (p.1.stop, p.2)
  | .fetch => p.1.talk channel p.1.refreshScanResults p.2
  | .command c => (p.1, c.talk p.1 channel p.2)
  | .line s => (p.1, s)

/-- Notices, one after the other. -/
def takeAll (channel : σ → String → Outcome × σ) (p : Monitor × σ) (ns : List (Notice σ)) :
    Monitor × σ :=
  ns.foldl (take channel) p

/-- What comes of asking for scan results. -/
def scanReply (channel : σ → String → Outcome × σ) (p : Monitor × σ) : Outcome :=
  (p.1.talk channel (send "SCAN_RESULTS" false) p.2).1

/-! ### One notice -/

/-- What a notice does to a monitor: it settles what it speaks of, and leaves the rest. -/
structure Effect (m : Monitor) (n : Notice σ) (reply : Outcome) (m' : Monitor) : Prop where
  published : m.published.value = m.link → m'.published.value = m'.link
  connected : n.ConcernsLink → (m'.link.connected = true ↔ n.Connects)
  keepsConnected : ¬ n.ConcernsLink → m'.link.connected = m.link.connected
  error : ∀ reason, n.Blames reason → m'.link.lastError = some reason
  keepsError : (∀ reason, ¬ n.Blames reason) → m'.link.lastError = m.link.lastError
  results : n.Fetches → m'.scanResults = resultsIn reply
  keepsResults : ¬ n.Fetches → m'.scanResults = m.scanResults

variable {channel : σ → String → Outcome × σ}

/-- Scan results are those of the reply, and nothing else changes. -/
theorem talk_refresh (p : Monitor × σ) :
    (p.1.talk channel p.1.refreshScanResults p.2).1 =
      { p.1 with scanResults := resultsIn (scanReply channel p) } := by
  rw [refreshScanResults, fetchScanResults, talk_bind, talk_bind, talk_done, scanReply]
  cases (p.1.talk channel (send "SCAN_RESULTS" false) p.2).1 with
  | ok text => simp only [talk_done, resultsIn]
  | error e => simp only [talk_done, resultsIn]

/-- A line that is no record does nothing. -/
theorem effect_noRecord {text : String} (unread : Event.read? text.toList = none) (m : Monitor)
    (reply : Outcome) : Effect m (.record text : Notice σ) reply m := by
  have silent : ∀ name rest, ¬ Reports text name rest := by
    intro name rest h
    obtain ⟨e, read, -⟩ := reports_iff.mp h
    rw [unread] at read
    cases read
  constructor <;> simp [Notice.ConcernsLink, silent]

/-- A record does what its kind stands for. -/
theorem effect_event {text : String} {e : Event} (read : Event.read? text.toList = some e)
    (p : Monitor × σ) :
    Effect p.1 (.record text : Notice σ) (scanReply channel p)
      (p.1.talk channel (p.1.handleEvent e) p.2).1 := by
  have reports : ∀ name rest,
      Reports text name rest ↔ e.kind = .ofName name ∧ e.remainder = rest := by
    intro name rest
    simp [reports_iff, read]
  rw [handleEvent]
  -- a record has one kind, and no kind speaks of two things
  cases kind : e.kind with
  | scanResults =>
      simp only [talk_refresh]
      constructor <;> simp [Notice.ConcernsLink, reports, kind, EventKind.ofName]
  | connected =>
      simp only [talk_done, setConnected, publish]
      constructor <;> simp [Notice.ConcernsLink, reports, kind, EventKind.ofName]
  | disconnected =>
      simp only [talk_done, setConnected, publish]
      constructor <;> simp [Notice.ConcernsLink, reports, kind, EventKind.ofName]
  | ssidTempDisabled =>
      simp only [talk_done, setLastError, publish, Event.fields]
      cases field : (fieldsOf e.remainder).get? "reason" with
      | none => constructor <;> simp [Notice.ConcernsLink, reports, kind, field, EventKind.ofName]
      | some reason =>
          constructor <;> simp [Notice.ConcernsLink, reports, kind, field, EventKind.ofName]
  | other name =>
      simp only [talk_done]
      constructor <;> simp [Notice.ConcernsLink, reports, kind, EventKind.ofName]

theorem effect_failed (m : Monitor) (e : SupplicantError) (reply : Outcome) :
    Effect m (.failed e : Notice σ) reply (m.channelFailed e) := by
  cases e <;> constructor <;>
    simp [Notice.ConcernsLink, channelFailed, setConnected, setLastError, publish]

/-- Every notice settles what it speaks of, and leaves the rest. -/
theorem effect_take (p : Monitor × σ) (n : Notice σ) :
    Effect p.1 n (scanReply channel p) (take channel p n).1 := by
  cases n with
  | record text =>
      rw [take, handleRecord]
      cases read : Event.read? text.toList with
      | none => simpa only [talk_done] using effect_noRecord read p.1 _
      | some e => exact effect_event read p
  | failed e => exact effect_failed p.1 e _
  | startupFailed e =>
      constructor <;>
        simp [Notice.ConcernsLink, take, recordStartupFailure, setConnected, setLastError, publish]
  | started => constructor <;> simp [Notice.ConcernsLink, take, start]
  | stopped => constructor <;> simp [Notice.ConcernsLink, take, stop, setConnected, publish]
  | fetch =>
      simp only [take, talk_refresh]
      constructor <;> simp [Notice.ConcernsLink]
  | command c => constructor <;> simp [Notice.ConcernsLink, take]
  | line s => constructor <;> simp [Notice.ConcernsLink, take]

/-! ### Runs -/

theorem published_takeAll {p : Monitor × σ} (told : p.1.published.value = p.1.link)
    (ns : List (Notice σ)) :
    (takeAll channel p ns).1.published.value = (takeAll channel p ns).1.link := by
  induction ns generalizing p with
  | nil => exact told
  | cons n rest ih => exact ih ((effect_take p n).published told)

/-- The link is up if the last notice that concerns it has connected it. -/
theorem connected_takeAll (p : Monitor × σ) (ns : List (Notice σ)) :
    (takeAll channel p ns).1.link.connected = true ↔
      (∃ before n, Last Notice.ConcernsLink ns before n ∧ n.Connects) ∨
        (∀ n ∈ ns, ¬ n.ConcernsLink) ∧ p.1.link.connected = true := by
  apply foldl_iff_last Notice.ConcernsLink (fun p : Monitor × σ => p.1.link.connected = true)
    fun _ n => n.Connects
  · intro p n concerns
    exact (effect_take p n).connected concerns
  · intro p n other
    rw [(effect_take p n).keepsConnected other]

/-- The last error is the reason that was given last. -/
theorem lastError_takeAll (p : Monitor × σ) (ns : List (Notice σ)) (reason : String) :
    (takeAll channel p ns).1.link.lastError = some reason ↔
      (∃ before n, Last (fun n => ∃ r, n.Blames r) ns before n ∧ n.Blames reason) ∨
        (∀ n ∈ ns, ¬ ∃ r, n.Blames r) ∧ p.1.link.lastError = some reason := by
  apply foldl_iff_last (fun n : Notice σ => ∃ r, n.Blames r)
    (fun p : Monitor × σ => p.1.link.lastError = some reason) fun _ n => n.Blames reason
  · rintro p n ⟨r, blames⟩
    constructor
    · intro same
      rw [(effect_take p n).error r blames, Option.some.injEq] at same
      exact same ▸ blames
    · exact (effect_take p n).error reason
  · intro p n other
    rw [(effect_take p n).keepsError (not_exists.mp other)]

/-- The scan results are those that were fetched last. -/
theorem scanResults_takeAll (p : Monitor × σ) (ns : List (Notice σ)) (results : List ScanResult) :
    (takeAll channel p ns).1.scanResults = results ↔
      (∃ before n, Last Notice.Fetches ns before n ∧
          resultsIn (scanReply channel (takeAll channel p before)) = results) ∨
        (∀ n ∈ ns, ¬ n.Fetches) ∧ p.1.scanResults = results := by
  apply foldl_iff_last Notice.Fetches (fun p : Monitor × σ => p.1.scanResults = results)
    fun p _ => resultsIn (scanReply channel p) = results
  · intro p n fetches
    rw [(effect_take p n).results fetches]
  · intro p n other
    rw [(effect_take p n).keepsResults other]

end Monitor

/-! ### A service that has seen a failure -/

namespace Service

/-- What can happen to a service. -/
inductive Occasion (σ : Type) where
  | scan
  | configure (profile : Profile)
  | scanResults
  | status
  /-- A record comes. -/
  | record (text : String)
  /-- The event channel fails. -/
  | failed (e : SupplicantError)
  /-- The process ends. -/
  | ended (status : String)
  | shutdown
  /-- The other end of the channel comes into another state. -/
  | line (s : σ)

variable {channel : σ → String → Outcome × σ}

/-- One occasion. Beside the service stands the other end of the channel. -/
def take (channel : σ → String → Outcome × σ) (p : Service × σ) : Occasion σ → Service × σ
  | .scan => (p.1, (p.1.monitor.talk channel p.1.scan p.2).2)
  | .configure profile => (p.1, (p.1.monitor.talk channel (p.1.configure profile) p.2).2)
  | .scanResults => p
  | .status => p
  | .record text => p.1.monitor.talk channel (p.1.handleRecord text) p.2
  | .failed e => (p.1.channelFailed e, p.2)
  | .ended status => (p.1.processEnded status, p.2)
  | .shutdown => (p.1.shutdown.2, p.2)
  | .line s => (p.1, s)

/-- Occasions, one after the other. -/
def takeAll (channel : σ → String → Outcome × σ) (p : Service × σ) (os : List (Occasion σ)) :
    Service × σ :=
  os.foldl (take channel) p

/-- A failure is seen as long as the service runs and has what fails. -/
def SeesFailure (s : Service) : Occasion σ → Prop
  | .failed _ => s.running = true ∧ s.monitor.hasEvents = true
  | .ended _ => s.running = true ∧ s.monitor.hasProcess = true
  | _ => False

/-- No record comes any more, and the link is down. -/
structure Deaf (s : Service) : Prop where
  hasEvents : s.monitor.hasEvents = false
  down : s.monitor.link.connected = false
  published : s.monitor.published.value = s.monitor.link

theorem deaf_channelFailed (s : Service) (e : SupplicantError) :
    Deaf { s with monitor := s.monitor.channelFailed e } := by
  cases e <;> exact ⟨rfl, rfl, rfl⟩

theorem deaf_of_seesFailure {p : Service × σ} {o : Occasion σ} (h : p.1.SeesFailure o) :
    (take channel p o).1.Deaf := by
  cases o with
  | failed e =>
      obtain ⟨running, events⟩ := h
      rw [take, channelFailed, if_pos (Bool.and_eq_true_iff.mpr ⟨running, events⟩)]
      exact deaf_channelFailed p.1 e
  | ended status =>
      obtain ⟨running, process⟩ := h
      rw [take, processEnded, if_pos (Bool.and_eq_true_iff.mpr ⟨running, process⟩)]
      exact deaf_channelFailed p.1 _
  | _ => exact h.elim

/-- Nothing that happens to a deaf service can bring the link up. -/
theorem Deaf.take {p : Service × σ} (h : p.1.Deaf) (o : Occasion σ) :
    (take channel p o).1.Deaf := by
  cases o with
  | record text =>
      have unheard : p.1.handleRecord text = .done p.1 := by
        rw [handleRecord, h.hasEvents, Bool.and_false]
        rfl
      rw [Service.take, unheard, Monitor.talk_done]
      exact h
  | failed e =>
      rw [Service.take, channelFailed, h.hasEvents, Bool.and_false]
      exact h
  | ended status =>
      rw [Service.take, processEnded]
      split
      · exact deaf_channelFailed p.1 _
      · exact h
  | shutdown =>
      rw [Service.take, shutdown]
      split
      · exact ⟨rfl, rfl, rfl⟩
      · exact h
  | scan => exact h
  | configure profile => exact h
  | scanResults => exact h
  | status => exact h
  | line s => exact h

theorem Deaf.takeAll {p : Service × σ} (h : p.1.Deaf) (os : List (Occasion σ)) :
    (takeAll channel p os).1.Deaf := by
  induction os generalizing p with
  | nil => exact h
  | cons o rest ih => exact ih (h.take o)

/-- After a failure that was seen, the service is deaf. -/
theorem deaf_after {p : Service × σ} {before : List (Occasion σ)} {o : Occasion σ}
    (seen : (takeAll channel p before).1.SeesFailure o) (later : List (Occasion σ)) :
    (takeAll channel p (before ++ o :: later)).1.Deaf := by
  rw [takeAll, List.foldl_append, List.foldl_cons]
  exact (deaf_of_seesFailure seen).takeAll later

end Service

/-! ### What is known -/

namespace Monitor

/-- **What is known is what was told last, and it is published.** After any notices to a new
monitor, over any channel and with commands in between, the published link is the link. The link is
up exactly if the last notice that concerns it has connected it. The last error is the reason that
was given last. The scan results are those in the reply to the last request for them, and there are
none if it failed or there was none. Commands change nothing of this. A service that has seen a
failure does not see the link up again. -/
theorem known_from_last (channel : σ → String → Outcome × σ)
    (hasControl hasEvents hasProcess : Bool) (line : σ) (notices : List (Notice σ)) :
    let start : Monitor × σ := ({ hasControl, hasEvents, hasProcess }, line)
    let m := (takeAll channel start notices).1
    m.published.value = m.link ∧
      (m.link.connected = true ↔
        ∃ before n, Last Notice.ConcernsLink notices before n ∧ n.Connects) ∧
      (∀ reason, m.link.lastError = some reason ↔
        ∃ before n, Last (fun n => ∃ r, n.Blames r) notices before n ∧ n.Blames reason) ∧
      (∀ results, m.scanResults = results ↔
        (∃ before n, Last Notice.Fetches notices before n ∧
            resultsIn (scanReply channel (takeAll channel start before)) = results) ∨
          (∀ n ∈ notices, ¬ n.Fetches) ∧ [] = results) ∧
      (∀ c, (takeAll channel start (notices ++ [.command c])).1 = m) ∧
      ∀ (s : Service) (before later : List (Service.Occasion σ)) (failure : Service.Occasion σ),
        (Service.takeAll channel (s, line) before).1.SeesFailure failure →
          let after := (Service.takeAll channel (s, line) (before ++ failure :: later)).1.monitor
          after.link.connected = false ∧ after.published.value = after.link := by
  intro start m
  refine ⟨published_takeAll rfl notices, ?_, ?_, ?_, ?_, ?_⟩
  · have known : m.link.connected = true ↔ _ := connected_takeAll start notices
    simpa [start] using known
  · intro reason
    have known : m.link.lastError = some reason ↔ _ := lastError_takeAll start notices reason
    simpa [start] using known
  · exact scanResults_takeAll start notices
  · intro c
    simp [m, takeAll, take]
  · intro s before later failure seen
    have deaf := Service.deaf_after seen later
    exact ⟨deaf.down, deaf.published⟩

/-- A channel on which nothing answers. -/
def silent (_ : Unit) (_ : String) : Outcome × Unit := (.error .notStarted, ())

/-- A record of a link that is up. -/
def joined : String := "<3>CTRL-EVENT-CONNECTED - joined"

theorem read?_joined :
    Event.read? joined.toList = some ⟨3, .connected, "- joined".toList⟩ := by
  decide

theorem connects_joined : (Notice.record joined : Notice σ).Connects :=
  ⟨_, reports_iff.mpr ⟨_, read?_joined, rfl, rfl⟩⟩

theorem not_blames_joined (reason : String) :
    ¬ (Notice.record joined : Notice σ).Blames reason := by
  rintro ⟨rest, reports, -⟩
  obtain ⟨e, read, kind, -⟩ := reports_iff.mp reports
  rw [read?_joined] at read
  cases read
  exact absurd kind (by decide)

/-- What went wrong with the start is remembered when the link comes up, and a service whose event
channel has failed takes no notice of a record any more. -/
theorem known_from_last_after_failure :
    let failure : SupplicantError := .startup "no socket"
    let m := (takeAll silent (Monitor.ofChannels, ()) [.startupFailed failure, .record joined]).1
    let s : Service := { monitor := Monitor.ofChannels }
    let r := (Service.takeAll silent (s, ()) [.record joined]).1
    m.link = { connected := true, lastError := some failure.message } ∧
      r.monitor.link.connected = true ∧
      r.SeesFailure (.failed .channelClosed : Service.Occasion Unit) ∧
      (Service.takeAll silent (s, ())
        ([.record joined] ++ .failed .channelClosed :: [.record joined])).1.monitor.link.connected =
          false := by
  intro failure m s r
  obtain ⟨-, connected, error, -, -, after⟩ :=
    known_from_last silent true true false () [.startupFailed failure, .record joined]
  have up : m.link.connected = true :=
    connected.mpr ⟨[_], _, ⟨.inl connects_joined, [], rfl, by simp⟩, connects_joined⟩
  have told : (Notice.startupFailed failure : Notice Unit).Blames failure.message := rfl
  have blamed : m.link.lastError = some failure.message := by
    refine (error failure.message).mpr ⟨[], _, ⟨⟨_, told⟩, [.record joined], rfl, ?_⟩, told⟩
    rintro n hn ⟨reason, blames⟩
    rw [List.mem_singleton.mp hn] at blames
    exact not_blames_joined reason blames
  have heard : r = { monitor := Monitor.ofChannels.setConnected true } := by
    change (s.monitor.talk silent (s.handleRecord joined) ()).1 = _
    have read : s.monitor.handleRecord joined = .done (s.monitor.setConnected true) := by
      rw [handleRecord, read?_joined]
      rfl
    have heeds : (s.running && s.monitor.hasEvents) = true := rfl
    rw [Service.handleRecord, if_pos heeds, read]
    rfl
  have seen : r.SeesFailure (.failed .channelClosed : Service.Occasion Unit) := by
    rw [heard]
    exact ⟨rfl, rfl⟩
  obtain ⟨down, -⟩ := after s [.record joined] [.record joined] _ seen
  refine ⟨?_, by rw [heard]; rfl, seen, down⟩
  change LinkState.mk m.link.connected m.link.lastError = _
  rw [up, blamed]

/-- A link that was connected is down after a stop, though no record and no failure has told so. -/
theorem link_down_after_stop :
    let notices : List (Notice Unit) := [.record joined, .stopped]
    let m := (takeAll silent (Monitor.ofChannels, ()) notices).1
    ¬ (m.link.connected = true ↔
      ∃ before n, Last (fun n => n.Connects ∨ n.Disconnects) notices before n ∧ n.Connects) := by
  intro notices m same
  have up : m.link.connected = true :=
    same.mpr ⟨[], _, ⟨.inl connects_joined, [.stopped], rfl, by simp⟩, connects_joined⟩
  have down : m.link.connected = false := rfl
  rw [down] at up
  cases up

end Monitor

end WifiStation.Supplicant
