import WifiStation.Proofs.Http.Passphrase
import WifiStation.Proofs.Profile.Origin
import WifiStation.Proofs.Supplicant.Steps

/-!
# WifiStation.Proofs.Http.Stages

How a request for a network ends, by the first of its stages that fails.

Two texts that are no profile are refused, a profile that cannot be stored goes no further, and what
the supplicant makes of a stored one is passed on. Every stage has its own status, so the response
tells how far the request has come: whether there is another file now, and whether anything was said
to the supplicant (`configure_stages`).

What is said is kept by a `logged` channel, which changes nothing else (`Monitor.talk_overheard`). A
`Place` knows only some of the reasons why a file is not written; `ends_configureStored` is about any
reason.
-/

namespace WifiStation.Http

open WifiStation.Supplicant

/-! ### Requests for two texts -/

/-- A request gives two texts to the page that takes a profile. -/
structure Asks (request : Request) (ssid psk : String) : Prop where
  post : request.method = "POST"
  path : String.ofList (pathOf request.target.toList) = "/configure"
  json : request.contentType.any MediaType.isJson = true
  texts : Site.readTexts request.body = .ok (ssid, psk)

/-- Any two texts can be given. -/
theorem asks_posting (ssid psk : String) : Asks (posting ssid psk) ssid psk where
  post := rfl
  path := by
    change String.ofList (pathOf "/configure".toList) = "/configure"
    decide
  json := by
    change MediaType.isJson "application/json" = true
    decide
  texts := readTexts_posting ssid psk

theorem requestedProfile_asks {request : Request} {ssid psk : String}
    (asks : Asks request ssid psk) : Site.requestedProfile request =
      (Profile.ofTexts ssid psk).mapError fun e => .failure 400 e.message := by
  simp only [Site.requestedProfile, asks.json, asks.texts]
  cases Profile.ofTexts ssid psk <;> rfl

theorem handle_refused {request : Request} {ssid psk : String} (asks : Asks request ssid psk)
    {e : TextError} (refused : Profile.ofTexts ssid psk = .error e) (site : Site) :
    site.handle request = .done (.failure 400 e.message, site) := by
  rw [Site.handle_post asks.post asks.path, Site.configurePage, requestedProfile_asks asks, refused]
  rfl

theorem handle_made {request : Request} {ssid psk : String} (asks : Asks request ssid psk)
    {profile : Profile} (made : Profile.ofTexts ssid psk = .ok profile) (site : Site) :
    site.handle request =
      site.configureStored profile ((Store.save site.store profile).mapError (·.message)) := by
  rw [Site.handle_post asks.post asks.path, Site.configurePage, requestedProfile_asks asks, made]
  exact site.configure_eq profile

/-! ### The supplicant -/

variable {σ : Type}

/-- What can be said to the supplicant to join a network, and what comes of it then. -/
inductive Joins (service : Service) (profile : Profile) :
    List (String × Outcome) → Except SupplicantError Nat → Prop where
  /-- The service has stopped. -/
  | gone (stopped : service.running = false) : Joins service profile [] (.error .channelClosed)
  /-- There is no control channel. -/
  | deaf (running : service.running = true) (control : service.monitor.hasControl = false) :
      Joins service profile [] (.error .notStarted)
  /-- The steps are gone through until one goes wrong. -/
  | heard {id : Nat} {said : List (String × Outcome)} {fault : Option SupplicantError}
      (running : service.running = true) (control : service.monitor.hasControl = true)
      (halts : Halts (steps profile id) said fault) :
      Joins service profile said (fault.elim (.ok id) .error)

/-- What comes of joining the network of a profile over a channel, and what is said for it. -/
def exchange (channel : σ → String → Outcome × σ) (service : Service) (profile : Profile) (s : σ) :
    Except SupplicantError Nat × List (String × Outcome) :=
  let r := service.monitor.talk (logged channel) (service.configure profile) (s, [])
  (r.1, r.2.2)

theorem joins_exchange (channel : σ → String → Outcome × σ) (service : Service)
    (profile : Profile) (s : σ) :
    Joins service profile (exchange channel service profile s).2
      (exchange channel service profile s).1 := by
  rw [exchange, Service.configure]
  cases running : service.running with
  | false =>
      rw [if_neg Bool.false_ne_true, Monitor.talk_done]
      exact .gone running
  | true =>
      rw [if_pos rfl, Monitor.talk]
      cases control : service.monitor.hasControl with
      | false => exact .deaf running control
      | true =>
          obtain ⟨id, fault, halts, result, -⟩ := run_configure profile channel s
          rw [if_pos rfl, result]
          exact .heard running control halts

/-! ### Responses -/

theorem joined_eq_ok_iff {outcome : Except SupplicantError Nat} {id : Nat} :
    Site.joined outcome = .ok (.object [("network_id", .nat id)]) ↔ outcome = .ok id := by
  cases outcome with
  | ok n => simp [Site.joined, Response.ok]
  | error e => simp [Site.joined, Site.supplicantFailure, Response.failure, Response.ok]

theorem joined_eq_failure_iff {outcome : Except SupplicantError Nat} {text : String} :
    Site.joined outcome = .failure 502 text ↔ ∃ e, outcome = .error e ∧ e.message = text := by
  cases outcome with
  | ok n => simp [Site.joined, Response.failure, Response.ok]
  | error e => simp [Site.joined, Site.supplicantFailure, Response.failure]

theorem status_joined_ne (outcome : Except SupplicantError Nat) :
    (Site.joined outcome).status ≠ 500 := by
  cases outcome with
  | ok id => exact (by decide : 200 ≠ 500)
  | error e => exact (by decide : 502 ≠ 500)

/-! ### Stages -/

/-- What is seen of a request: the response, the site afterwards, and what was said to the
supplicant. -/
structure Seen where
  response : Response
  site : Site
  said : List (String × Outcome)

/-- What is seen of a request that is answered over a channel. -/
def see (channel : σ → String → Outcome × σ) (site : Site) (d : Dialogue (Response × Site))
    (s : σ) : Seen :=
  let r := site.service.monitor.talk (logged channel) d (s, [])
  ⟨r.1.1, r.1.2, r.2.2⟩

theorem see_done (channel : σ → String → Outcome × σ) (site : Site) (r : Response × Site)
    (s : σ) : see channel site (.done r) s = ⟨r.1, r.2, []⟩ := by
  rw [see, Monitor.talk_done]

/-- How the request for a profile ends, by what comes of storing it and of the exchange with the
supplicant. -/
structure Ends (site : Site) (saved : Except String Place)
    (exchange : Except SupplicantError Nat × List (String × Outcome)) (seen : Seen) : Prop where
  status_iff : seen.response.status = 500 ↔ ∃ reason, saved = .error reason
  unsaved : ∀ reason, saved = .error reason →
    seen.response = .failure 500 reason ∧ seen.said = []
  kept : ∀ place, saved = .ok place →
    seen.site = { site with store := place } ∧ seen.said = exchange.2
  ok_iff : ∀ place, saved = .ok place → ∀ id,
    seen.response = .ok (.object [("network_id", .nat id)]) ↔ exchange.1 = .ok id
  failure_iff : ∀ place, saved = .ok place → ∀ text,
    seen.response = .failure 502 text ↔ ∃ e, exchange.1 = .error e ∧ e.message = text

theorem ends_configureStored (channel : σ → String → Outcome × σ) (site : Site)
    (profile : Profile) (saved : Except String Place) (s : σ) :
    Ends site saved (exchange channel site.service profile s)
      (see channel site (site.configureStored profile saved) s) := by
  cases saved with
  | error reason =>
      rw [Site.configureStored, see_done]
      exact {
        status_iff := iff_of_true rfl ⟨reason, rfl⟩
        unsaved := fun _ same => by
          cases same
          exact ⟨rfl, rfl⟩
        kept := by simp
        ok_iff := by simp
        failure_iff := by simp }
  | ok place =>
      have seen : see channel site (site.configureStored profile (.ok place)) s =
          ⟨Site.joined (exchange channel site.service profile s).1, { site with store := place },
            (exchange channel site.service profile s).2⟩ := by
        rw [Site.configureStored, see, Monitor.talk_bind, Monitor.talk_done, exchange]
      rw [seen]
      exact {
        status_iff := iff_of_false (status_joined_ne _) (by simp)
        unsaved := by simp
        kept := fun _ same => by
          cases same
          exact ⟨rfl, rfl⟩
        ok_iff := fun _ _ _ => joined_eq_ok_iff
        failure_iff := fun _ _ _ => joined_eq_failure_iff }

/-- A profile is not refused. -/
theorem Ends.status_ne {site : Site} {saved : Except String Place}
    {exchange : Except SupplicantError Nat × List (String × Outcome)} {seen : Seen}
    (h : Ends site saved exchange seen) : seen.response.status ≠ 400 := by
  cases saved with
  | error reason =>
      rw [(h.unsaved reason rfl).1]
      exact (by decide : 500 ≠ 400)
  | ok place =>
      cases outcome : exchange.1 with
      | ok id =>
          rw [(h.ok_iff place rfl id).mpr outcome]
          exact (by decide : 200 ≠ 400)
      | error e =>
          rw [(h.failure_iff place rfl e.message).mpr ⟨e, outcome, rfl⟩]
          exact (by decide : 502 ≠ 400)

/-- **A request for a network stops at the first stage that fails.** It is refused exactly if its
texts are no profile, and then nothing happens. Otherwise storing the profile fails, with its own
status and before anything is said to the supplicant; or exactly the two texts are found in the file
afterwards, and the response says whether the supplicant has gone through all its steps, with the
number of the network or with what was wrong. -/
theorem configure_stages {request : Request} {ssid psk : String} (asks : Asks request ssid psk)
    (channel : σ → String → Outcome × σ) (site : Site) (s : σ) :
    let seen := see channel site (site.handle request) s
    (seen.response.status = 400 ↔ ∃ e, Profile.ofTexts ssid psk = .error e) ∧
    (∀ e, Profile.ofTexts ssid psk = .error e → seen = ⟨.failure 400 e.message, site, []⟩) ∧
    ∀ profile, Profile.ofTexts ssid psk = .ok profile →
      let conversation := exchange channel site.service profile s
      Ends site ((Store.save site.store profile).mapError (·.message)) conversation seen ∧
      (∀ kept, Store.save site.store profile = .ok kept →
        (∃ stored, Store.load seen.site.store = .ok (some stored) ∧ stored.ssid.text = ssid ∧
          stored.psk.text = psk) ∧
        Joins site.service profile seen.said conversation.1) ∧
      ∀ saved, Ends site saved conversation
        (see channel site (site.configureStored profile saved) s) := by
  intro seen
  cases made : Profile.ofTexts ssid psk with
  | error e =>
      have refused : seen = ⟨.failure 400 e.message, site, []⟩ := by
        simp only [seen, handle_refused asks made]
        exact see_done channel site _ s
      refine ⟨?_, fun e' same => ?_, by simp⟩
      · rw [refused]
        exact iff_of_true rfl ⟨e, rfl⟩
      · cases same
        exact refused
  | ok profile =>
      have ends : Ends site ((Store.save site.store profile).mapError (·.message))
          (exchange channel site.service profile s) seen := by
        simp only [seen, handle_made asks made]
        exact ends_configureStored channel site profile _ s
      refine ⟨iff_of_false ends.status_ne (by simp), by simp, fun profile' same => ?_⟩
      cases same
      refine ⟨ends, fun kept saved => ?_,
        fun saved => ends_configureStored channel site profile saved s⟩
      obtain ⟨after, said⟩ := ends.kept kept (by rw [saved]; rfl)
      obtain ⟨name, pass⟩ := Profile.texts_of_ofTexts made
      refine ⟨⟨profile, ?_, name, pass⟩, ?_⟩
      · rw [after]
        exact Store.load_save saved
      · rw [said]
        exact joins_exchange channel site.service profile s

/-- A passphrase that is too short is refused; one that the supplicant does not take is stored. -/
theorem configure_stages_bad_passphrases :
    let site := Overlap.plainSite
    let short := see Script.answer site (site.handle (posting "cottage" "short")) nearMisses
    let refused :=
      see Script.answer site (site.handle (posting "cottage" "correct horse")) nearMisses
    Asks (posting "cottage" "short") "cottage" "short" ∧
      Asks (posting "cottage" "correct horse") "cottage" "correct horse" ∧
      short = ⟨.failure 400 "psk is 5 bytes, minimum is 8", site, []⟩ ∧
      refused.response =
        .failure 502 (SupplicantError.configurationRejected "psk" "OK ").message ∧
      ∃ stored, Store.load refused.site.store = .ok (some stored) ∧
        stored.ssid.text = "cottage" ∧ stored.psk.text = "correct horse" := by
  intro site short refused
  have tooShort : Profile.ofTexts "cottage" "short" = .error (.tooShort "psk" 5 8) := by decide
  have made : Profile.ofTexts "cottage" "correct horse" = .ok cottage := by decide
  obtain ⟨kept, saved⟩ : ∃ kept, Store.save site.store cottage = .ok kept := ⟨_, rfl⟩
  have fault : (exchange Script.answer site.service cottage nearMisses).1 =
      .error (.configurationRejected "psk" "OK ") := rfl
  have asksShort := asks_posting "cottage" "short"
  have asks := asks_posting "cottage" "correct horse"
  obtain ⟨-, refusal, -⟩ := configure_stages asksShort Script.answer site nearMisses
  obtain ⟨-, -, taken⟩ := configure_stages asks Script.answer site nearMisses
  obtain ⟨ends, stored, -⟩ := taken cottage made
  refine ⟨asksShort, asks, refusal _ tooShort, ?_, (stored kept saved).1⟩
  exact (ends.failure_iff kept (by rw [saved]; rfl) _).mpr ⟨_, fault, rfl⟩

end WifiStation.Http
