import WifiStation.Http.Site
import WifiStation.Proofs.Profile.Kept
import WifiStation.Proofs.Supplicant.Radio

/-!
# WifiStation.Proofs.Http.Overlap

Several requests for a network at once.

A request stores its profile and then has the supplicant join the network. Each of the two is done
in one go, but between them anything may happen, also to other requests. `Overlap` takes requests
through these two turns in any order; two turns of one request in a row are the page as it stands
(`turn_turn`).

The file holds the profile of the request that was the last to store, and the radio is on the network
of the one that was the last to join. Nothing makes these the same request: file and radio agree
exactly if both ask for the same profile (`agree_iff`).
-/

namespace WifiStation.Http

open WifiStation.Supplicant

/-- How far a request for a network has come. -/
inductive Phase where
  | arrived
  /-- Its profile was stored, and the supplicant is to join the network. -/
  | stored (profile : Profile)
  | answered (response : Response)

/-- The status of the answer, once there is one. -/
def Phase.status? : Phase → Option Nat
  | arrived | stored _ => none
  | answered response => some response.status

/-- Requests on their way. -/
structure Overlap (σ : Type) where
  site : Site
  /-- The other end of the control channel, with the radio. -/
  other : σ × Radio
  phase : Nat → Phase := fun _ => .arrived
  /-- The request that was the last to store its profile. -/
  storedLast : Option Nat := none
  /-- The request that was the last to have its network joined. -/
  joinedLast : Option Nat := none

/-- A request is for a profile. -/
def AsksFor (requests : List Request) (i : Nat) (profile : Profile) : Prop :=
  ∃ request, requests[i]? = some request ∧ Site.requestedProfile request = .ok profile

/-- A request with two texts, whatever they are. -/
def posting (ssid psk : String) : Request where
  method := "POST"
  target := "/configure"
  contentType := some "application/json"
  body := (Json.object [("ssid", .string ssid), ("psk", .string psk)]).pretty

/-- The page finds both texts in the request. -/
theorem readTexts_posting (ssid psk : String) :
    Site.readTexts (posting ssid psk).body = .ok (ssid, psk) := by
  rw [Site.readTexts, posting, Json.pretty, String.toList_ofList,
    Tree.read_of_reads (Stored.reads_texts 0 ssid psk)]
  simp [Tree.pair, Tree.pairOfMembers, Tree.pairOf, Tree.field]

/-- The request for a profile. -/
def asking (profile : Profile) : Request := posting profile.ssid.text profile.psk.text

/-- The request for a profile has both texts of it. -/
theorem readTexts_asking (profile : Profile) :
    Site.readTexts (asking profile).body = .ok (profile.ssid.text, profile.psk.text) :=
  readTexts_posting profile.ssid.text profile.psk.text

/-- Every profile can be asked for. -/
theorem requestedProfile_asking (profile : Profile) :
    Site.requestedProfile (asking profile) = .ok profile := by
  have json : (asking profile).contentType.any MediaType.isJson = true := by
    change MediaType.isJson "application/json" = true
    decide
  simp [Site.requestedProfile, json, readTexts_asking]

/-- A profile is what is asked for with the request for it. -/
theorem AsksFor.eq_of_asking {requests : List Request} {i : Nat} {p q : Profile}
    (h : AsksFor requests i p) (known : requests[i]? = some (asking q)) : p = q := by
  obtain ⟨request, at_i, asked⟩ := h
  cases at_i.symm.trans known
  rw [requestedProfile_asking] at asked
  exact (Except.ok.inj asked).symm

/-- A network to try things out with. -/
def home : Profile :=
  ⟨⟨"home", by decide, by decide, by decide⟩, ⟨"password", by decide, by decide, by decide⟩⟩

/-- Another network. -/
def guest : Profile :=
  ⟨⟨"guest", by decide, by decide, by decide⟩, ⟨"password", by decide, by decide, by decide⟩⟩

namespace Overlap

variable {σ : Type}

/-- A request has come further. -/
def enter (o : Overlap σ) (i : Nat) (phase : Phase) : Overlap σ :=
  { o with phase := fun j => if j = i then phase else o.phase j }

/-- A request has stored its profile, and `kept` is there now. -/
def keep (o : Overlap σ) (i : Nat) (profile : Profile) (kept : Place) : Overlap σ :=
  { o.enter i (.stored profile) with
    site := { o.site with store := kept }, storedLast := some i }

/-- The first turn of a request. -/
def store (o : Overlap σ) (i : Nat) (request : Request) : Overlap σ :=
  match Site.requestedProfile request with
  | .error response => o.enter i (.answered response)
  | .ok profile =>
    match Store.save o.site.store profile with
    | .error e => o.enter i (.answered (.failure 500 e.message))
    | .ok kept => o.keep i profile kept

/-- The second turn of a request. -/
def join (channel : σ → String → Outcome × σ) (o : Overlap σ) (i : Nat) (profile : Profile) :
    Overlap σ :=
  let r := o.site.service.monitor.talk (tuned channel) (o.site.service.configure profile) o.other
  { o.enter i (.answered (Site.joined r.1)) with other := r.2, joinedLast := some i }

/-- A turn of a request; there is none for a request that does not exist or was answered. -/
def turn (channel : σ → String → Outcome × σ) (requests : List Request) (o : Overlap σ) (i : Nat) :
    Overlap σ :=
  match requests[i]?, o.phase i with
  | some request, .arrived => o.store i request
  | some _, .stored profile => o.join channel i profile
  | _, _ => o

/-- Turns one after the other. -/
def run (channel : σ → String → Outcome × σ) (requests : List Request) (o : Overlap σ)
    (turns : List Nat) : Overlap σ :=
  turns.foldl (turn channel requests) o

theorem phase_enter (o : Overlap σ) (i j : Nat) (phase : Phase) :
    (o.enter i phase).phase j = if j = i then phase else o.phase j := rfl

theorem phase_keep (o : Overlap σ) (i j : Nat) (profile : Profile) (kept : Place) :
    (o.keep i profile kept).phase j = if j = i then .stored profile else o.phase j := rfl

theorem phase_join (channel : σ → String → Outcome × σ) (o : Overlap σ) (i j : Nat)
    (profile : Profile) :
    (o.join channel i profile).phase j =
      if j = i then
        .answered (Site.joined (o.site.service.monitor.talk (tuned channel)
          (o.site.service.configure profile) o.other).1)
      else o.phase j := rfl

theorem turn_arrived {channel : σ → String → Outcome × σ} {requests : List Request} {o : Overlap σ}
    {i : Nat} {request : Request} (known : requests[i]? = some request)
    (arrived : o.phase i = .arrived) : o.turn channel requests i = o.store i request := by
  rw [turn, known, arrived]

theorem turn_stored {channel : σ → String → Outcome × σ} {requests : List Request} {o : Overlap σ}
    {i : Nat} {request : Request} {profile : Profile} (known : requests[i]? = some request)
    (stored : o.phase i = .stored profile) :
    o.turn channel requests i = o.join channel i profile := by
  rw [turn, known, stored]

theorem turn_answered {channel : σ → String → Outcome × σ} {requests : List Request} {o : Overlap σ}
    {i : Nat} {response : Response} (answered : o.phase i = .answered response) :
    o.turn channel requests i = o := by
  rw [turn, answered]
  cases requests[i]? <;> rfl

/-- Two turns of a request in a row are the page. -/
theorem turn_turn {channel : σ → String → Outcome × σ} {requests : List Request} {o : Overlap σ}
    {i : Nat} {request : Request} (known : requests[i]? = some request)
    (arrived : o.phase i = .arrived) :
    let r := o.site.service.monitor.talk (tuned channel) (o.site.configurePage request) o.other
    let o' := (o.turn channel requests i).turn channel requests i
    o'.phase i = .answered r.1.1 ∧ o'.site = r.1.2 ∧ o'.other = r.2 := by
  rw [turn_arrived known arrived, store, Site.configurePage]
  -- a request that is refused or cannot be stored is answered in its first turn
  cases asked : Site.requestedProfile request with
  | error response =>
      have answered : (o.enter i (.answered response)).phase i = .answered response := by
        rw [phase_enter, if_pos rfl]
      dsimp only
      rw [turn_answered answered, Monitor.talk_done]
      exact ⟨answered, rfl, rfl⟩
  | ok profile =>
      dsimp only
      rw [Site.configure]
      cases saved : Store.save o.site.store profile with
      | error e =>
          have answered : (o.enter i (.answered (.failure 500 e.message))).phase i =
              .answered (.failure 500 e.message) := by
            rw [phase_enter, if_pos rfl]
          dsimp only
          rw [turn_answered answered, Monitor.talk_done]
          exact ⟨answered, rfl, rfl⟩
      | ok kept =>
          have halfway : (o.keep i profile kept).phase i = .stored profile := by
            rw [phase_keep, if_pos rfl]
          dsimp only
          rw [turn_stored known halfway, join, Monitor.talk_bind, Monitor.talk_done]
          exact ⟨if_pos rfl, rfl, rfl⟩

/-! ### A request that overtakes another -/

/-- Nothing is in the way of a request for a profile. -/
theorem turn_keep {channel : σ → String → Outcome × σ} {requests : List Request} {o : Overlap σ}
    {i : Nat} {profile : Profile} (known : requests[i]? = some (asking profile))
    (arrived : o.phase i = .arrived) {kept : Place}
    (saved : Store.save o.site.store profile = .ok kept) :
    o.turn channel requests i = o.keep i profile kept := by
  rw [turn_arrived known arrived, store, requestedProfile_asking]
  dsimp only
  rw [saved]

/-- A network is joined if the supplicant is there and answers as it should. -/
theorem join_script {o : Overlap Script} (running : o.site.service.running = true)
    (control : o.site.service.monitor.hasControl = true) (i : Nat) (profile : Profile)
    {reply : String} {id : Nat} (number : networkId? (withoutNewline reply) = some id)
    {rest : List (Option String)} (replies : o.other.1.replies =
      some reply :: some "OK\n" :: some "OK\n" :: some "OK\n" :: some "OK\n" :: rest) :
    ((o.join Script.answer i profile).phase i).status? = some 200 ∧
      (o.join Script.answer i profile).other.1.replies = rest := by
  have done := run_configure_script profile number rest replies
  rw [phase_join, if_pos rfl]
  simp only [join, Service.configure, running, Monitor.talk, control, if_true, done]
  exact ⟨rfl, trivial⟩

/-- A site without a file. -/
def plainSite : Site :=
  { service := { monitor := .ofChannels }, apps := default, revision := "" }

/-- A supplicant that takes two networks. -/
def twoNetworks : Script where
  replies := [some "0\n", some "OK\n", some "OK\n", some "OK\n", some "OK\n",
    some "1\n", some "OK\n", some "OK\n", some "OK\n", some "OK\n"]

/-- The second request overtakes the first between its turns. Both succeed. -/
theorem overtaking (p q : Profile) {o : Overlap Script}
    (h : run Script.answer [asking p, asking q] { site := plainSite, other := (twoNetworks, {}) }
      [0, 1, 1, 0] = o) :
    (∀ i < 2, (o.phase i).status? = some 200) ∧ o.storedLast = some 1 ∧ o.joinedLast = some 0 := by
  have known₀ : [asking p, asking q][0]? = some (asking p) := rfl
  have known₁ : [asking p, asking q][1]? = some (asking q) := rfl
  obtain ⟨kept, saved⟩ : ∃ kept, Store.save plainSite.store p = .ok kept := ⟨_, rfl⟩
  obtain ⟨kept', saved'⟩ := Store.exists_save_again saved q
  let start : Overlap Script := { site := plainSite, other := (twoNetworks, {}) }
  have first : start.turn Script.answer [asking p, asking q] 0 = start.keep 0 p kept :=
    turn_keep known₀ rfl saved
  have second : (start.keep 0 p kept).turn Script.answer [asking p, asking q] 1 =
      (start.keep 0 p kept).keep 1 q kept' := turn_keep known₁ rfl saved'
  generalize hb : (start.keep 0 p kept).keep 1 q kept' = both at second
  have stored₁ : both.phase 1 = .stored q := by
    rw [← hb, phase_keep, if_pos rfl]
  have stored₀ : (both.join Script.answer 1 q).phase 0 = .stored p := by
    rw [phase_join, if_neg (by decide), ← hb, phase_keep, if_neg (by decide), phase_keep, if_pos rfl]
  rw [run, List.foldl_cons, first, List.foldl_cons, second, List.foldl_cons,
    turn_stored known₁ stored₁, List.foldl_cons, turn_stored known₀ stored₀, List.foldl_nil] at h
  -- storing changes neither the service nor the other end of the channel
  have running : both.site.service.running = true := by rw [← hb]; rfl
  have control : both.site.service.monitor.hasControl = true := by rw [← hb]; rfl
  have replies : both.other.1.replies = twoNetworks.replies := by rw [← hb]; rfl
  obtain ⟨ok₁, rest⟩ := join_script running control 1 q
    (by decide : networkId? (withoutNewline "0\n") = some 0) replies
  obtain ⟨ok₀, _⟩ := join_script (o := both.join Script.answer 1 q) running control 0 p
    (by decide : networkId? (withoutNewline "1\n") = some 1) rest
  subst h
  refine ⟨fun i hi => ?_, by rw [← hb]; rfl, rfl⟩
  rcases Nat.le_one_iff_eq_zero_or_eq_one.mp (Nat.le_of_lt_succ hi) with rfl | rfl
  · exact ok₀
  · rwa [phase_join, if_neg (by decide)]

/-! ### What the file holds and what the radio is on -/

/-- A request that is for no profile does not succeed. -/
theorem status_ne_of_refused {request : Request} {response : Response}
    (h : Site.requestedProfile request = .error response) : response.status ≠ 200 := by
  unfold Site.requestedProfile at h
  split at h
  · cases h
    decide
  · split at h
    · cases h
      decide
    · cases h
      decide
    · split at h
      · cases h
        exact (by decide : 400 ≠ 200)
      · cases h

theorem exists_of_joined {outcome : Except SupplicantError Nat}
    (h : (Site.joined outcome).status = 200) : ∃ id, outcome = .ok id := by
  cases outcome with
  | error e => exact absurd h (by decide : 502 ≠ 200)
  | ok id => exact ⟨id, rfl⟩

/-- The file holds what the last request to store is for, and the radio is on what the last request
to join is for if that succeeded; every request that succeeded did both. -/
structure Sound (requests : List Request) (o : Overlap σ) : Prop where
  stored : ∀ i profile, o.phase i = .stored profile →
    AsksFor requests i profile ∧ o.storedLast.isSome
  file : ∀ i, o.storedLast = some i →
    ∃ profile, AsksFor requests i profile ∧ Store.load o.site.store = .ok (some profile)
  radio : ∀ i, o.joinedLast = some i → o.phase i ≠ .arrived ∧
    ∃ profile, AsksFor requests i profile ∧
      ((o.phase i).status? = some 200 → o.other.2.On profile)
  answered : ∀ i, (o.phase i).status? = some 200 → o.storedLast.isSome ∧ o.joinedLast.isSome

/-- What a request that has only arrived comes to does not matter to the last that had its network
joined. -/
theorem Sound.radio_enter {requests : List Request} {o : Overlap σ} (h : o.Sound requests) {i : Nat}
    (arrived : o.phase i = .arrived) (phase : Phase) (j : Nat) (last : o.joinedLast = some j) :
    (o.enter i phase).phase j ≠ .arrived ∧ ∃ profile, AsksFor requests j profile ∧
      (((o.enter i phase).phase j).status? = some 200 → o.other.2.On profile) := by
  have joined := h.radio j last
  -- the last to join has come further than a request that has only arrived
  have other : j ≠ i := by
    rintro rfl
    exact joined.1 arrived
  rwa [phase_enter, if_neg other]

/-- A request is answered without success, and nothing else happens. -/
theorem Sound.refuse {requests : List Request} {o : Overlap σ} (h : o.Sound requests) {i : Nat}
    (arrived : o.phase i = .arrived) {response : Response} (failed : response.status ≠ 200) :
    (o.enter i (.answered response)).Sound requests where
  stored j profile hj := by
    rw [phase_enter] at hj
    split at hj
    · cases hj
    · exact h.stored j profile hj
  file := h.file
  radio := h.radio_enter arrived _
  answered j ok := by
    rw [phase_enter] at ok
    split at ok
    · exact absurd (Option.some.inj ok) failed
    · exact h.answered j ok

theorem Sound.keep {requests : List Request} {o : Overlap σ} (h : o.Sound requests) {i : Nat}
    (arrived : o.phase i = .arrived) {profile : Profile} (asks : AsksFor requests i profile)
    {kept : Place} (saved : Store.save o.site.store profile = .ok kept) :
    (o.keep i profile kept).Sound requests where
  stored j p hj := by
    refine ⟨?_, rfl⟩
    rw [phase_keep] at hj
    split at hj
    · rename_i same
      cases hj
      rwa [same]
    · exact (h.stored j p hj).1
  file j hj := by
    cases hj
    exact ⟨profile, asks, Store.load_save saved⟩
  radio := h.radio_enter arrived _
  answered j ok := by
    rw [phase_keep] at ok
    split at ok
    · cases ok
    · exact ⟨rfl, (h.answered j ok).2⟩

theorem Sound.join {channel : σ → String → Outcome × σ} {requests : List Request} {o : Overlap σ}
    (h : o.Sound requests) {i : Nat} {profile : Profile} (halfway : o.phase i = .stored profile) :
    (o.join channel i profile).Sound requests where
  stored j p hj := by
    rw [phase_join] at hj
    split at hj
    · cases hj
    · exact h.stored j p hj
  file := h.file
  radio j hj := by
    cases hj
    rw [phase_join, if_pos rfl]
    refine ⟨(nomatch ·), profile, (h.stored i profile halfway).1, fun ok => ?_⟩
    obtain ⟨id, done⟩ := exists_of_joined (Option.some.inj ok)
    exact Service.configure_tunes done
  answered j ok := by
    refine ⟨?_, rfl⟩
    rw [phase_join] at ok
    split at ok
    · exact (h.stored i profile halfway).2
    · exact (h.answered j ok).1

theorem Sound.turn {requests : List Request} {o : Overlap σ} (h : o.Sound requests)
    (channel : σ → String → Outcome × σ) (i : Nat) :
    (o.turn channel requests i).Sound requests := by
  cases phase : o.phase i with
  | answered response => rwa [turn_answered phase]
  | arrived =>
      cases known : requests[i]? with
      | none => rwa [Overlap.turn, known]
      | some request =>
          rw [turn_arrived known phase, store]
          cases asked : Site.requestedProfile request with
          | error response => exact h.refuse phase (status_ne_of_refused asked)
          | ok profile =>
              dsimp only
              cases saved : Store.save o.site.store profile with
              | error e => exact h.refuse phase (by decide : 500 ≠ 200)
              | ok kept => exact h.keep phase ⟨request, known, asked⟩ saved
  | stored profile =>
      obtain ⟨request, known, _⟩ := (h.stored i profile phase).1
      rw [turn_stored known phase]
      exact h.join phase

/-- Every run that starts with no request under way is sound. -/
theorem run_sound (channel : σ → String → Outcome × σ) (requests : List Request) (site : Site)
    (other : σ × Radio) (turns : List Nat) :
    (run channel requests { site, other } turns).Sound requests := by
  have start : Sound requests { site, other } :=
    ⟨fun _ _ h => (nomatch h), fun _ h => (nomatch h), fun _ h => (nomatch h),
      fun _ h => (nomatch h)⟩
  rw [run]
  generalize ({ site, other } : Overlap σ) = o at start ⊢
  induction turns generalizing o with
  | nil => exact start
  | cons i rest ih => exact ih _ (start.turn channel i)

/-- Requests that all succeed, in any order of their turns: the file holds the profile of the one
that was the last to store, and the radio is on the network of the one that was the last to join.
They agree if and only if both are for the same profile. -/
theorem agree_iff (channel : σ → String → Outcome × σ) (requests : List Request)
    (site : Site) (other : σ × Radio) (turns : List Nat) :
    let o := run channel requests { site, other } turns
    requests ≠ [] →
      (∀ i < requests.length, (o.phase i).status? = some 200) →
      ∃ i j p q, o.storedLast = some i ∧ o.joinedLast = some j ∧
        AsksFor requests i p ∧ AsksFor requests j q ∧
        Store.load o.site.store = .ok (some p) ∧ o.other.2.On q ∧
        ((∃ profile, Store.load o.site.store = .ok (some profile) ∧ o.other.2.On profile) ↔
          p = q) := by
  intro o some_request succeeded
  have sound : o.Sound requests := run_sound channel requests site other turns
  have both := sound.answered 0 (succeeded 0 (List.length_pos_iff.mpr some_request))
  obtain ⟨i, storedLast⟩ := Option.isSome_iff_exists.mp both.1
  obtain ⟨j, joinedLast⟩ := Option.isSome_iff_exists.mp both.2
  obtain ⟨p, asksP, loaded⟩ := sound.file i storedLast
  obtain ⟨_, q, asksQ, on⟩ := sound.radio j joinedLast
  have on_q : o.other.2.On q := by
    obtain ⟨_, known, _⟩ := asksQ
    exact on (succeeded j (List.getElem?_eq_some_iff.mp known).1)
  refine ⟨i, j, p, q, storedLast, joinedLast, asksP, asksQ, loaded, on_q, ?_⟩
  constructor
  · rintro ⟨profile, loaded', on'⟩
    cases loaded.symm.trans loaded'
    exact on'.unique on_q
  · rintro rfl
    exact ⟨p, loaded, on_q⟩

/-- Two requests of which the second overtakes the first; both succeed. -/
theorem agree_iff_overtaken :
    let o := run Script.answer [asking home, asking guest]
      { site := plainSite, other := (twoNetworks, {}) } [0, 1, 1, 0]
    (∀ i < 2, (o.phase i).status? = some 200) ∧
      ∃ i j p q, o.storedLast = some i ∧ o.joinedLast = some j ∧
        AsksFor [asking home, asking guest] i p ∧ AsksFor [asking home, asking guest] j q ∧
        Store.load o.site.store = .ok (some p) ∧ o.other.2.On q ∧
        ((∃ profile, Store.load o.site.store = .ok (some profile) ∧ o.other.2.On profile) ↔
          p = q) := by
  have agree := agree_iff Script.answer [asking home, asking guest] plainSite (twoNetworks, {})
    [0, 1, 1, 0]
  generalize ho : run Script.answer [asking home, asking guest]
    { site := plainSite, other := (twoNetworks, {}) } [0, 1, 1, 0] = o at agree ⊢
  obtain ⟨succeeded, _⟩ := overtaking home guest ho
  exact ⟨succeeded, agree (List.cons_ne_nil _ _) succeeded⟩

/-- After them the file holds another network than the radio is on. -/
theorem file_and_radio_differ :
    let o := run Script.answer [asking home, asking guest]
      { site := plainSite, other := (twoNetworks, {}) } [0, 1, 1, 0]
    (∀ i < 2, (o.phase i).status? = some 200) ∧
      ¬ ∃ profile, Store.load o.site.store = .ok (some profile) ∧ o.other.2.On profile := by
  have sound := run_sound Script.answer [asking home, asking guest] plainSite (twoNetworks, {})
    [0, 1, 1, 0]
  generalize ho : run Script.answer [asking home, asking guest]
    { site := plainSite, other := (twoNetworks, {}) } [0, 1, 1, 0] = o at sound ⊢
  obtain ⟨succeeded, storedLast, joinedLast⟩ := overtaking home guest ho
  refine ⟨succeeded, ?_⟩
  rintro ⟨profile, loaded, on⟩
  obtain ⟨p, asksP, held⟩ := sound.file 1 storedLast
  obtain ⟨_, q, asksQ, tuned⟩ := sound.radio 0 joinedLast
  cases loaded.symm.trans held
  have same : guest = home := by
    rw [← asksP.eq_of_asking rfl, ← asksQ.eq_of_asking rfl]
    exact on.unique (tuned (succeeded 0 (by decide)))
  exact absurd same (by decide)

end Overlap

end WifiStation.Http
