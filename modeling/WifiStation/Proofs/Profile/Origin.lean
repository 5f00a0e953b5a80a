import WifiStation.Http.Site

/-!
# WifiStation.Proofs.Profile.Origin

Where profiles come from, and that none of the ways there changes a text.

A profile is made of two texts that are given as they are, that stand in the body of a request, or
that stand in the file of the stored profile. The last two are read out of a tree, with or without
the checks of a profile: a reader that checks finds the texts that one without checks finds
(`Tree.pair_texts`). So `Origin.texts?` says what was given without looking at the checks, and a
profile that comes of it has these texts (`Origin.texts?_of_profile?`).
-/

namespace WifiStation

open WifiStation.Http

/-! ### Texts that pass a check -/

theorem Ssid.text_of_ofText {text : String} {s : Ssid} (h : ofText text = .ok s) :
    s.text = text := by
  unfold ofText at h
  split at h
  · cases h
  · split at h
    · split at h <;> cases h
      rfl
    · cases h

theorem Passphrase.text_of_ofText {text : String} {p : Passphrase} (h : ofText text = .ok p) :
    p.text = text := by
  unfold ofText at h
  split at h
  · split at h
    · split at h <;> cases h
      rfl
    · cases h
  · cases h

theorem Profile.texts_of_ofTexts {ssid psk : String} {p : Profile}
    (h : ofTexts ssid psk = .ok p) : p.ssid.text = ssid ∧ p.psk.text = psk := by
  unfold ofTexts at h
  split at h
  · cases h
  · rename_i name hs
    split at h
    · cases h
    · rename_i pass hp
      cases h
      exact ⟨Ssid.text_of_ofText hs, Passphrase.text_of_ofText hp⟩

/-! ### Records in a tree -/

namespace Tree

variable {ε ε' α β : Type} {ofFirst : String → Except ε α} {ofSecond : String → Except ε β}
  {first : α → String} {second : β → String}

/-- A field that passes a check has the text that is there without the check. -/
theorem field_text {of : String → Except ε α} {text : α → String}
    (keeps : ∀ {s a}, of s = .ok a → text a = s) {t : Tree} {a : α} (h : t.field of = .ok a) :
    t.field (Except.ok : String → Except ε' String) = .ok (text a) := by
  unfold field at h
  split at h
  · split at h
    · rename_i passed
      cases h
      rw [keeps passed]
      rfl
    · cases h
  · cases h

theorem pairOf_texts {name name' : String} {closed : Bool} {a : Option α} {b : Option β}
    {r : α × β} (h : (pairOf name name' closed a b : Except (ReadError ε) (α × β)) = .ok r) :
    (pairOf name name' closed (a.map first) (b.map second) :
      Except (ReadError ε') (String × String)) = .ok (first r.1, second r.2) := by
  cases a with
  | none => cases closed <;> cases h
  | some a =>
      cases b with
      | none => cases closed <;> cases h
      | some b =>
          cases closed with
          | false => cases h
          | true => cases h; rfl

variable (keepsFirst : ∀ {s a}, ofFirst s = .ok a → first a = s)
  (keepsSecond : ∀ {s b}, ofSecond s = .ok b → second b = s)

include keepsFirst keepsSecond

theorem pairOfMembers_texts {name name' : String} {closed : Bool} {a : Option α} {b : Option β}
    {members : List (TreeText × Tree)} {r : α × β}
    (h : pairOfMembers name name' ofFirst ofSecond closed a b members = .ok r) :
    pairOfMembers name name' (Except.ok : String → Except ε' String) Except.ok closed (a.map first)
      (b.map second) members = .ok (first r.1, second r.2) := by
  induction members generalizing a b with
  | nil => exact pairOf_texts h
  | cons m rest ih =>
      obtain ⟨_ | n, t⟩ := m
      · cases h
      · rw [pairOfMembers] at h ⊢
        by_cases hn : n = name
        · rw [if_pos hn] at h ⊢
          cases a with
          | some a => cases h
          | none =>
              cases hf : t.field ofFirst with
              | error e => rw [hf] at h; cases h
              | ok a =>
                  rw [hf] at h
                  rw [field_text keepsFirst hf]
                  exact ih h
        · rw [if_neg hn] at h ⊢
          by_cases hn' : n = name'
          · rw [if_pos hn'] at h ⊢
            cases b with
            | some b => cases h
            | none =>
                cases hf : t.field ofSecond with
                | error e => rw [hf] at h; cases h
                | ok b =>
                    rw [hf] at h
                    rw [field_text keepsSecond hf]
                    exact ih h
          · rw [if_neg hn'] at h ⊢
            exact ih h

theorem pairOfItems_texts {closed : Bool} {items : List Tree} {r : α × β}
    (h : pairOfItems ofFirst ofSecond closed items = .ok r) :
    pairOfItems (Except.ok : String → Except ε' String) Except.ok closed items =
      .ok (first r.1, second r.2) := by
  cases items with
  | nil => cases h
  | cons t ts =>
      rw [pairOfItems] at h ⊢
      cases hf : t.field ofFirst with
      | error e => rw [hf] at h; cases h
      | ok a =>
          rw [hf] at h
          rw [field_text keepsFirst hf]
          cases ts with
          | nil => cases h
          | cons u us =>
              dsimp only at h ⊢
              cases hg : u.field ofSecond with
              | error e => rw [hg] at h; cases h
              | ok b =>
                  rw [hg] at h
                  rw [field_text keepsSecond hg]
                  dsimp only at h ⊢
                  cases last : (us.isEmpty && closed) with
                  | false => rw [last] at h; cases h
                  | true => rw [last] at h; cases h; rfl

/-- A record that passes its checks has the texts that are there without them. -/
theorem pair_texts {name name' : String} {t : Tree} {r : α × β}
    (h : t.pair name name' ofFirst ofSecond = .ok r) :
    t.pair name name' (Except.ok : String → Except ε' String) Except.ok =
      .ok (first r.1, second r.2) := by
  cases t with
  | object members closed => exact pairOfMembers_texts keepsFirst keepsSecond h
  | array items closed => exact pairOfItems_texts keepsFirst keepsSecond h
  | null | bool | number | string | broken => cases h

end Tree

namespace Stored

/-- What the file has in the place of the profile. -/
def member? : Tree → Option Tree
  | .object members _ => (members.find? (·.1 = some profileName)).map Prod.snd
  | .array (t :: _) _ => some t
  | _ => none

/-- The texts in the place of the profile, whatever they are. -/
def texts? (content : String) : Option (String × String) :=
  (member? (Tree.read content.toList).1).bind fun t =>
    (t.pair "ssid" "psk" Except.ok Except.ok : Except (ReadError Empty) _).toOption

theorem pair_of_optionalOf {t : Tree} {p : Profile} (h : optionalOf t = .ok (some p)) :
    t.pair "ssid" "psk" (Except.ok : String → Except Empty String) Except.ok =
      .ok (p.ssid.text, p.psk.text) := by
  unfold optionalOf at h
  split at h
  · cases h
  · cases hp : profileOf t with
    | error e => rw [hp] at h; cases h
    | ok q =>
        rw [hp] at h
        cases h
        rw [profileOf] at hp
        cases pair : t.pair "ssid" "psk" Ssid.ofText Passphrase.ofText with
        | error e => rw [pair] at hp; cases hp
        | ok r =>
            rw [pair] at hp
            cases hp
            exact Tree.pair_texts Ssid.text_of_ofText Passphrase.text_of_ofText pair

/-- Once there is a profile, no later member of the file changes it. -/
theorem ofMembers_found {closed : Bool} {found : Option Profile}
    {members : List (TreeText × Tree)} {r : Option Profile}
    (h : ofMembers closed (some found) members = .ok r) : r = found := by
  induction members with
  | nil => cases closed <;> cases h; rfl
  | cons m rest ih =>
      obtain ⟨_ | n, t⟩ := m
      · cases h
      · rw [ofMembers] at h
        split at h
        · cases h
        · exact ih h

theorem exists_of_ofMembers {closed : Bool} {members : List (TreeText × Tree)} {p : Profile}
    (h : ofMembers closed none members = .ok (some p)) :
    ∃ t, member? (.object members closed) = some t ∧ optionalOf t = .ok (some p) := by
  induction members with
  | nil => cases closed <;> cases h
  | cons m rest ih =>
      obtain ⟨_ | n, t⟩ := m
      · cases h
      · rw [ofMembers] at h
        by_cases hn : n = profileName
        · rw [if_pos hn] at h
          cases ht : optionalOf t with
          | error e => rw [ht] at h; cases h
          | ok found =>
              rw [ht] at h
              cases ofMembers_found h
              exact ⟨t, by simp [member?, hn], ht⟩
        · rw [if_neg hn] at h
          obtain ⟨u, there, hu⟩ := ih h
          exact ⟨u, by simpa [member?, hn] using there, hu⟩

theorem exists_of_ofTree {t : Tree} {p : Profile} (h : ofTree t = .ok (some p)) :
    ∃ u, member? t = some u ∧ optionalOf u = .ok (some p) := by
  cases t with
  | object members closed => exact exists_of_ofMembers h
  | array items closed =>
      cases items with
      | nil => cases closed <;> cases h
      | cons u us =>
          rw [ofTree] at h
          cases hu : optionalOf u with
          | error e => rw [hu] at h; cases h
          | ok found =>
              rw [hu] at h
              dsimp only at h
              split at h <;> cases h
              exact ⟨u, rfl, hu⟩
  | null | bool | number | string | broken => cases h

/-- A profile that is read from a file has the texts that stand in it. -/
theorem texts?_of_read {content : String} {p : Profile} (h : read content = .ok (some p)) :
    texts? content = some (p.ssid.text, p.psk.text) := by
  rw [read] at h
  dsimp only at h
  cases ht : ofTree (Tree.read content.toList).1 with
  | error e => rw [ht] at h; cases h
  | ok found =>
      rw [ht] at h
      dsimp only at h
      split at h <;> cases h
      obtain ⟨u, there, hu⟩ := exists_of_ofTree ht
      rw [texts?, there, Option.bind_some, pair_of_optionalOf hu]
      rfl

end Stored

/-! ### Origins -/

/-- A way to a profile. -/
inductive Origin where
  /-- Two texts. -/
  | texts (ssid psk : String)
  /-- A request for a network. -/
  | page (request : Request)
  /-- A file with a stored profile. -/
  | file (content : String)

namespace Origin

/-- The name and the passphrase that are given, whatever they are. -/
def texts? : Origin → Option (String × String)
  | texts ssid psk => some (ssid, psk)
  | page request => (Site.readTexts request.body).toOption
  | file content => Stored.texts? content

/-- What comes of it. -/
def profile? : Origin → Option Profile
  | texts ssid psk => (Profile.ofTexts ssid psk).toOption
  | page request => (Site.requestedProfile request).toOption
  | file content => (Stored.read content).toOption.join

theorem toOption_eq_some {ε α : Type} {r : Except ε α} {a : α} (h : r.toOption = some a) :
    r = .ok a := by
  cases r <;> cases h
  rfl

theorem texts?_of_requestedProfile {request : Request} {p : Profile}
    (h : Site.requestedProfile request = .ok p) :
    (page request).texts? = some (p.ssid.text, p.psk.text) := by
  unfold Site.requestedProfile at h
  split at h
  · cases h
  · split at h
    · cases h
    · cases h
    · rename_i ssid psk read
      split at h
      · cases h
      · rename_i made
        cases h
        obtain ⟨rfl, rfl⟩ := Profile.texts_of_ofTexts made
        rw [texts?, read]
        rfl

/-- A profile has the texts that were given for it. -/
theorem texts?_of_profile? {o : Origin} {p : Profile} (h : o.profile? = some p) :
    o.texts? = some (p.ssid.text, p.psk.text) := by
  cases o with
  | texts ssid psk =>
      obtain ⟨rfl, rfl⟩ := Profile.texts_of_ofTexts (toOption_eq_some h)
      rfl
  | page request => exact texts?_of_requestedProfile (toOption_eq_some h)
  | file content => exact Stored.texts?_of_read (toOption_eq_some (Option.join_eq_some_iff.mp h))

end Origin

end WifiStation
