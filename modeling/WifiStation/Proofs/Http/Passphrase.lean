import WifiStation.Proofs.Http.Overlap
import WifiStation.Proofs.Supplicant.Passphrase

/-!
# WifiStation.Proofs.Http.Passphrase

What a request for a network shows of the passphrase in it: nothing but the one command that gives
it to the supplicant.

Between the page and the supplicant stands the file. Storing a profile fails or succeeds whatever
the passphrase is (`Store.save_congr`), so two requests that differ in the passphrase alone reach
the supplicant together or not at all; `Blind.service_configure` takes them from there.
-/

namespace WifiStation

open WifiStation.Supplicant

/-- Whether a profile can be stored, and why not, does not depend on the profile. -/
theorem Store.save_congr (place : Place) (p q : Profile) :
    (∃ e, save place p = .error e ∧ save place q = .error e) ∨
      ∃ kept kept', save place p = .ok kept ∧ save place q = .ok kept' := by
  cases place with
  | unreachable | directory => exact .inl ⟨_, rfl, rfl⟩
  | absent | file content => exact .inr ⟨_, _, rfl, rfl⟩

namespace Http

variable {σ ρ : Type}

/-- How two requests end between which the passphrases make no other difference. -/
structure Answered (rest : σ → ρ) (psk psk' : Passphrase)
    (r r' : (Response × Site) × (σ × List String)) : Prop where
  response : r.1.1 = r'.1.1
  /-- The service knows the link and the scan results. -/
  service : r.1.2.service = r'.1.2.service
  status : r.1.2.status = r'.1.2.status
  scan : r.1.2.scan = r'.1.2.scan
  other : Agree rest psk psk' r.2 r'.2

theorem Answered.refl (rest : σ → ρ) (psk psk' : Passphrase)
    (r : (Response × Site) × (σ × List String)) : Answered rest psk psk' r r :=
  ⟨rfl, rfl, rfl, rfl, .refl rest psk psk' r.2⟩

namespace Site

/-- The page for a profile, with what comes of storing it: the reason of a failure, or the file. -/
def configureStored (site : Site) (profile : Profile) :
    Except String Place → Dialogue (Response × Site)
  | .error reason => .done (.failure 500 reason, site)
  | .ok store => (site.service.configure profile).bind fun outcome =>
    .done (joined outcome, { site with store })

theorem configure_eq (site : Site) (profile : Profile) : site.configure profile =
    site.configureStored profile ((Store.save site.store profile).mapError (·.message)) := by
  rw [configure]
  cases Store.save site.store profile <;> rfl

/-- Only the page that takes a profile looks at the body of a request. -/
theorem handle_bodies {motive : Dialogue (Response × Site) → Dialogue (Response × Site) → Prop}
    (same : ∀ d, motive d d) (site : Site) (request : Request) (body body' : String)
    (page : motive (site.configurePage { request with body })
      (site.configurePage { request with body := body' })) :
    motive (site.handle { request with body }) (site.handle { request with body := body' }) := by
  simp only [handle]
  by_cases status : String.ofList (pathOf request.target.toList) = "/status"
  · simp only [if_pos status]
    exact same _
  by_cases scan : String.ofList (pathOf request.target.toList) = "/scan"
  · simp only [if_neg status, if_pos scan]
    exact same _
  by_cases configure : String.ofList (pathOf request.target.toList) = "/configure"
  · simp only [if_neg status, if_neg scan, if_pos configure]
    by_cases post : request.method = "POST"
    · simp only [if_pos post]
      exact page
    · simp only [if_neg post]
      exact same _
  · simp only [if_neg status, if_neg scan, if_neg configure]
    exact same _

/-- Where the page that takes a profile is. -/
theorem handle_post {request : Request} (post : request.method = "POST")
    (path : String.ofList (pathOf request.target.toList) = "/configure") (site : Site) :
    site.handle request = site.configurePage request := by
  have status : "/configure" ≠ "/status" := by decide
  have scan : "/configure" ≠ "/scan" := by decide
  rw [handle, path, if_neg status, if_neg scan, if_pos rfl, if_pos post]

/-- Requests with the same name of a network and two passphrases are refused alike, or ask for the
same network. -/
theorem requestedProfile_congr (request : Request) {ssid body body' : String}
    {psk psk' : Passphrase} (read : readTexts body = .ok (ssid, psk.text))
    (read' : readTexts body' = .ok (ssid, psk'.text)) :
    (∃ r, requestedProfile { request with body } = .error r ∧
        requestedProfile { request with body := body' } = .error r) ∨
      ∃ ssid, requestedProfile { request with body } = .ok ⟨ssid, psk⟩ ∧
        requestedProfile { request with body := body' } = .ok ⟨ssid, psk'⟩ := by
  simp only [requestedProfile, read, read', Profile.ofTexts, Passphrase.ofText_text]
  split
  · exact .inl ⟨_, rfl, rfl⟩
  · cases Ssid.ofText ssid with
    | error e => exact .inl ⟨_, rfl, rfl⟩
    | ok ssid => exact .inr ⟨ssid, rfl, rfl⟩

end Site

variable {channel : σ → String → Outcome × σ} {rest : σ → ρ}

/-- Whatever comes of storing the profiles, as long as it is the same for both. -/
theorem answered_configureStored (blind : Blind channel rest) (site : Site) (ssid : Ssid)
    (psk psk' : Passphrase) (disk : Except String Unit) (kept kept' : Place)
    (s : σ × List String) :
    Answered rest psk psk'
      (site.service.monitor.talk (noted channel)
        (site.configureStored ⟨ssid, psk⟩ (disk.map fun _ => kept)) s)
      (site.service.monitor.talk (noted channel)
        (site.configureStored ⟨ssid, psk'⟩ (disk.map fun _ => kept')) s) := by
  cases disk with
  | error reason => exact .refl rest psk psk' _
  | ok _ =>
      obtain ⟨result, agree⟩ := blind.service_configure site.service ssid psk psk' s
      simp only [Except.map, Site.configureStored, Monitor.talk_bind, Monitor.talk_done]
      exact ⟨congrArg Site.joined result, rfl, rfl, rfl, agree⟩

theorem answered_configure (blind : Blind channel rest) (site : Site) (ssid : Ssid)
    (psk psk' : Passphrase) (s : σ × List String) :
    Answered rest psk psk'
      (site.service.monitor.talk (noted channel) (site.configure ⟨ssid, psk⟩) s)
      (site.service.monitor.talk (noted channel) (site.configure ⟨ssid, psk'⟩) s) := by
  have stored := answered_configureStored blind site ssid psk psk'
  rw [Site.configure_eq, Site.configure_eq]
  rcases Store.save_congr site.store ⟨ssid, psk⟩ ⟨ssid, psk'⟩ with
    ⟨e, saved, saved'⟩ | ⟨kept, kept', saved, saved'⟩
  · rw [saved, saved']
    exact stored (.error e.message) site.store site.store s
  · rw [saved, saved']
    exact stored (.ok ()) kept kept' s

theorem answered_handle (blind : Blind channel rest) (site : Site) (request : Request)
    {ssid body body' : String} {psk psk' : Passphrase}
    (read : Site.readTexts body = .ok (ssid, psk.text))
    (read' : Site.readTexts body' = .ok (ssid, psk'.text)) (s : σ × List String) :
    Answered rest psk psk'
      (site.service.monitor.talk (noted channel) (site.handle { request with body }) s)
      (site.service.monitor.talk (noted channel)
        (site.handle { request with body := body' }) s) := by
  refine Site.handle_bodies
    (motive := fun d d' => Answered rest psk psk' (site.service.monitor.talk (noted channel) d s)
      (site.service.monitor.talk (noted channel) d' s))
    (fun _ => .refl rest psk psk' _) site request body body' ?_
  unfold Site.configurePage
  rcases Site.requestedProfile_congr request read read' with ⟨r, h, h'⟩ | ⟨ssid, h, h'⟩
  · rw [h, h']
    exact .refl rest psk psk' _
  · rw [h, h']
    exact answered_configure blind site ssid psk psk' s

/-! ### The passphrase in a request -/

/-- Nothing tells two passphrases apart that takes part in joining a network, but for one command:
neither the adapter nor the page, whatever comes of the commands and of the file. -/
structure Discreet (channel : σ → String → Outcome × σ) (rest : σ → ρ)
    (psk psk' : Passphrase) : Prop where
  adapter : ∀ (m : Monitor) (ssid : Ssid) (s : σ),
    let r := m.talk (noted channel) (Supplicant.configure ⟨ssid, psk⟩) (s, [])
    let r' := m.talk (noted channel) (Supplicant.configure ⟨ssid, psk'⟩) (s, [])
    r.1 = r'.1 ∧ Agree rest psk psk' r.2 r'.2
  disk : ∀ (site : Site) (ssid : Ssid) (disk : Except String Unit) (kept kept' : Place) (s : σ),
    Answered rest psk psk'
      (site.service.monitor.talk (noted channel)
        (site.configureStored ⟨ssid, psk⟩ (disk.map fun _ => kept)) (s, []))
      (site.service.monitor.talk (noted channel)
        (site.configureStored ⟨ssid, psk'⟩ (disk.map fun _ => kept')) (s, []))
  page : ∀ (site : Site) (request : Request) (ssid body body' : String) (s : σ),
    Site.readTexts body = .ok (ssid, psk.text) → Site.readTexts body' = .ok (ssid, psk'.text) →
    Answered rest psk psk'
      (site.service.monitor.talk (noted channel) (site.handle { request with body }) (s, []))
      (site.service.monitor.talk (noted channel)
        (site.handle { request with body := body' }) (s, []))

theorem discreet_of_blind (blind : Blind channel rest) (psk psk' : Passphrase) :
    Discreet channel rest psk psk' where
  adapter m ssid s := blind.talk_configure m ssid psk psk' (s, [])
  disk site ssid disk kept kept' s :=
    answered_configureStored blind site ssid psk psk' disk kept kept' (s, [])
  page site request _ _ _ s read read' := answered_handle blind site request read read' (s, [])

/-- The passphrase of a network is told in one command and shows nowhere else: in no result, error,
response, report or other command. -/
theorem passphrase_in_one_command (psk psk' : Passphrase) :
    (∀ (σ : Type) (next : σ → Except String String × σ), Discreet (scripted next) id psk psk') ∧
      Discreet Rehearsal.answer Rehearsal.blank psk psk' :=
  ⟨fun _ next => discreet_of_blind (blind_scripted next) psk psk',
    discreet_of_blind Rehearsal.blind_answer psk psk'⟩

/-- The network to try things out with, with another passphrase. -/
def homeAgain : Profile :=
  { home with psk := ⟨"drowssap", by decide, by decide, by decide⟩ }

/-- A supplicant that refuses a passphrase. -/
def refusing : Rehearsal where
  monitor := .ofChannels
  script := { replies := [some "0\n", some "OK\n", some "FAIL\n"] }

/-- What is told when the passphrase of a network is refused. -/
theorem told_refusing (profile : Profile) (m : Monitor) (control : m.hasControl = true) :
    (m.talk (noted Rehearsal.answer) (Supplicant.configure profile) (refusing, [])).2.2 =
      [addCommand, ssidCommand 0 profile.ssid, pskCommand 0 profile.psk] := by
  have number : networkId? (withoutNewline "0\n") = some 0 := by decide
  have agreed : withoutNewline "OK\n" = "OK" := by decide
  have refused : withoutNewline "FAIL\n" ≠ "OK" := by decide
  simp [Monitor.talk, control, Supplicant.configure, addNetwork, newNetwork, expectOk, send,
    Dialogue.andThen, Dialogue.bind, Dialogue.run, noted, overheard, Rehearsal.answer,
    Script.answer, refusing, number, agreed, refused, Except.map]

/-- A request for a profile is for the page that takes one. -/
theorem handle_asking (site : Site) (profile : Profile) :
    site.handle (asking profile) = site.configure profile := by
  have path : String.ofList (pathOf (asking profile).target.toList) = "/configure" := by
    change String.ofList (pathOf "/configure".toList) = "/configure"
    decide
  rw [Site.handle_post rfl path, Site.configurePage, requestedProfile_asking]

/-- Two requests whose passphrase is refused. -/
theorem passphrase_in_one_command_refused :
    let site := Overlap.plainSite
    let r := site.service.monitor.talk (noted Rehearsal.answer)
      (site.handle { asking home with body := (asking home).body }) (refusing, [])
    let r' := site.service.monitor.talk (noted Rehearsal.answer)
      (site.handle { asking home with body := (asking homeAgain).body }) (refusing, [])
    Site.readTexts (asking home).body = .ok (home.ssid.text, home.psk.text) ∧
      Site.readTexts (asking homeAgain).body = .ok (home.ssid.text, homeAgain.psk.text) ∧
      r.2.2 = [addCommand, ssidCommand 0 home.ssid, pskCommand 0 home.psk] ∧
      Answered Rehearsal.blank home.psk homeAgain.psk r r' := by
  intro site r r'
  have told : r.2.2 = [addCommand, ssidCommand 0 home.ssid, pskCommand 0 home.psk] := by
    have same : { asking home with body := (asking home).body } = asking home := rfl
    obtain ⟨kept, saved⟩ : ∃ kept, Store.save site.store home = .ok kept := ⟨_, rfl⟩
    have running : site.service.running = true := rfl
    simp only [r]
    rw [same, handle_asking, Site.configure, saved]
    dsimp only
    rw [Monitor.talk_bind, Monitor.talk_done, Service.configure, if_pos running]
    exact told_refusing home site.service.monitor rfl
  exact ⟨readTexts_asking home, readTexts_asking homeAgain, told,
    (passphrase_in_one_command home.psk homeAgain.psk).2.page site (asking home) _ _ _
      refusing (readTexts_asking home) (readTexts_asking homeAgain)⟩

end Http

end WifiStation
