import WifiStation.Proofs.Supplicant.Radio
import WifiStation.Proofs.Text.Words
import WifiStation.Supplicant.Rehearsal

/-!
# WifiStation.Proofs.Supplicant.Passphrase

What the passphrase of a network can be seen in.

Two configurations that differ in the passphrase alone are laid side by side. A channel is `Blind`
if it makes nothing of a command beyond its first word: then a dialogue keeps two runs together that
are together at its start (`Blind.run`), and so does a command whose text alone differs
(`Blind.ask`). The dialogues of the two configurations are the same up to the one command that
carries the passphrase, and from its outcome on (`configure_eq`), so all that tells the two runs
apart is the text of that command (`Blind.configure`).

Channels are blind because a failure keeps the first word of its command and no more: one that draws
its replies from a script (`blind_scripted`), and the socket of a rehearsed supplicant, whatever
waits at it and whatever arrives (`Rehearsal.blind_answer`).
-/

namespace WifiStation.Supplicant

open WifiStation.Text

variable {σ ρ α β γ ε : Type}

/-! ### The first word of a command -/

/-- The first word of a command with a passphrase does not depend on the passphrase. -/
theorem verb_pskCommand (id : Nat) (psk : Passphrase) :
    verb (pskCommand id psk) = "SET_NETWORK" := by
  have text : (pskCommand id psk).toList = "SET_NETWORK".toList ++ ' ' ::
      (Nat.toDigits 10 id ++ " psk \"".toList ++ psk.text.toList ++ ['"']) := by
    simp [pskCommand, toString_text]
  have word : IsWord "SET_NETWORK".toList := by decide
  rw [verb, text, ← List.nil_append (_ ++ _), word?_of_gap Blanks.nil word rfl]
  exact String.ofList_toList

/-! ### Channels that make nothing of a command beyond its first word -/

/-- A channel with a listener that keeps the commands. -/
def noted (channel : σ → String → Outcome × σ) :
    σ × List String → String → Outcome × (σ × List String) :=
  overheard (fun told command _ => told ++ [command]) channel

/-- Commands with the same first word come to the same, if the channel is in the same state apart
from what it keeps of the commands it got. -/
structure Blind (channel : σ → String → Outcome × σ) (rest : σ → ρ) : Prop where
  outcome : ∀ {s s' : σ} {command command' : String}, rest s = rest s' →
    verb command = verb command' → (channel s command).1 = (channel s' command').1
  after : ∀ {s s' : σ} {command command' : String}, rest s = rest s' →
    verb command = verb command' → rest (channel s command).2 = rest (channel s' command').2

/-- Two runs that are together are together after a dialogue, and were told the same in it. -/
theorem Blind.run {channel : σ → String → Outcome × σ} {rest : σ → ρ} (blind : Blind channel rest)
    (d : Dialogue α) {s s' : σ} (h : rest s = rest s') (told told' : List String) :
    let r := d.run (noted channel) (s, told)
    let r' := d.run (noted channel) (s', told')
    r.1 = r'.1 ∧ rest r.2.1 = rest r'.2.1 ∧
      ∃ more, r.2.2 = told ++ more ∧ r'.2.2 = told' ++ more := by
  induction d generalizing s s' told told' with
  | done a => exact ⟨rfl, h, [], (List.append_nil _).symm, (List.append_nil _).symm⟩
  | ask command next ih =>
      obtain ⟨result, after, more, hears, hears'⟩ :=
        ih (channel s command).1 (blind.after h rfl) (told ++ [command]) (told' ++ [command])
      rw [List.append_assoc] at hears hears'
      rw [blind.outcome h rfl] at result after hears hears'
      simp only [Dialogue.run, noted, overheard]
      rw [blind.outcome h rfl]
      exact ⟨result, after, _, hears, hears'⟩

/-- Two runs that are together and get commands with the same first word. -/
theorem Blind.ask {channel : σ → String → Outcome × σ} {rest : σ → ρ} (blind : Blind channel rest)
    {command command' : String} (same : verb command = verb command')
    (next : Outcome → Dialogue α) (s : σ) (told : List String) :
    let r := (Dialogue.ask command next).run (noted channel) (s, told)
    let r' := (Dialogue.ask command' next).run (noted channel) (s, told)
    r.1 = r'.1 ∧ rest r.2.1 = rest r'.2.1 ∧
      ∃ more, r.2.2 = told ++ command :: more ∧ r'.2.2 = told ++ command' :: more := by
  obtain ⟨result, after, more, hears, hears'⟩ := blind.run (next (channel s command).1)
    (blind.after rfl same) (told ++ [command]) (told ++ [command'])
  rw [List.append_assoc] at hears hears'
  rw [blind.outcome rfl same] at result after hears hears'
  simp only [Dialogue.run, noted, overheard]
  rw [blind.outcome rfl same]
  exact ⟨result, after, more, hears, hears'⟩

/-! ### Channels that are blind -/

/-- A channel whose state says by itself what comes of the next command: a text, or the reason of a
failure. -/
def scripted (next : σ → Except String String × σ) (s : σ) (command : String) : Outcome × σ :=
  let r := next s
  (r.1.mapError (commandFailure command), r.2)

theorem commandFailure_congr {command command' : String} (h : verb command = verb command')
    (reason : String) : commandFailure command reason = commandFailure command' reason := by
  rw [commandFailure, commandFailure, h]

theorem blind_scripted (next : σ → Except String String × σ) : Blind (scripted next) id where
  outcome := by
    intro s s' command command' together same
    cases (together : s = s')
    have failure : commandFailure command = commandFailure command' :=
      funext (commandFailure_congr same)
    rw [scripted, scripted, failure]
  after := by
    intro s s' command command' together _
    cases (together : s = s')
    rfl

namespace ControlChannel

/-- The channel with a command that waits. -/
def awaiting (c : ControlChannel) (command : String) : ControlChannel :=
  { c with waiting := some command }

/-- Until a reply arrives the channel differs from another in the command that waits, and in nothing
after that. -/
theorem arrivals_awaiting (c : ControlChannel) (command command' : String) (ds : List Datagram) :
    (∃ outcome after, (c.awaiting command).arrivals ds = (after, some outcome) ∧
        (c.awaiting command').arrivals ds = (after, some outcome)) ∨
      ((c.awaiting command).arrivals ds = (c.awaiting command, none) ∧
        (c.awaiting command').arrivals ds = (c.awaiting command', none)) := by
  induction ds with
  | nil => exact .inr ⟨rfl, rfl⟩
  | cons d ds ih =>
      by_cases event : isEventText d.text
      · simpa only [arrivals, step, awaiting, if_pos event, Option.none_or] using ih
      · simp only [arrivals, step, awaiting, if_neg event, Option.some_or]
        exact .inl ⟨_, _, rfl, rfl⟩

/-- What a request comes to depends on the first word of its command. -/
theorem request_congr (c : ControlChannel) {command command' : String}
    (same : verb command = verb command') (ds : List Datagram) :
    c.request command ds = c.request command' ds := by
  have sent : ∀ command, (c.step (.send command)).1 = { c with unread := [] }.awaiting command :=
    fun _ => rfl
  unfold request
  rw [sent, sent]
  rcases arrivals_awaiting { c with unread := [] } command command' ds with
    ⟨outcome, after, h, h'⟩ | ⟨h, h'⟩
  · rw [h, h']
  · rw [h, h']
    simp only [step, awaiting, commandFailure_congr same]

end ControlChannel

/-! ### What is left of the other end when the commands it got are forgotten -/

/-- Without the commands that came. -/
def Script.blank (s : Script) : Script := { s with commands := [] }

/-- Without the texts that came. -/
def Sockets.blank (s : Sockets) : Sockets := { s with peer := { s.peer with received := [] } }

/-- Without the texts of the commands that came. -/
def Rehearsal.blank (r : Rehearsal) : Rehearsal :=
  { r with script := r.script.blank, sockets := r.sockets.map Sockets.blank }

@[simp] theorem Script.blank_blank (s : Script) : s.blank.blank = s.blank := rfl

@[simp] theorem Sockets.blank_comp_blank : Sockets.blank ∘ Sockets.blank = Sockets.blank := rfl

/-- What the script answers depends neither on what came before nor on more of the command than its
first word. -/
theorem Script.answer_blank (s : Script) {command command' : String}
    (same : verb command = verb command') :
    (s.blank.answer command').1 = (s.answer command).1 ∧
      (s.blank.answer command').2.blank = (s.answer command).2.blank := by
  refine ⟨?_, rfl⟩
  simp only [Script.answer, Script.blank, commandFailure_congr same]

theorem Sockets.request_blank (s : Sockets) {command command' : String}
    (same : verb command = verb command') :
    (s.blank.request command').1 = (s.request command).1 ∧
      (s.blank.request command').2.blank = (s.request command).2.blank := by
  unfold Sockets.request
  cases control : s.control with
  | none => simp only [Sockets.blank, control, and_self]
  | some c => simp only [Sockets.blank, control, Peer.hear, c.request_congr same, and_self]

namespace Rehearsal

/-- The socket for commands with its other end, if it is open. -/
def openControl? (r : Rehearsal) : Option Sockets := r.sockets.filter (·.control.isSome)

theorem openControl?_blank (r : Rehearsal) : r.blank.openControl? = r.openControl?.map .blank :=
  Option.filter_map

theorem answer_of_some {r : Rehearsal} {s : Sockets} (h : r.openControl? = some s)
    (command : String) : r.answer command =
      ((s.request command).1, { r with sockets := some (s.request command).2 }) := by
  rw [openControl?] at h
  rw [answer, h]

theorem answer_of_none {r : Rehearsal} (h : r.openControl? = none) (command : String) :
    r.answer command =
      ((r.script.answer command).1, { r with script := (r.script.answer command).2 }) := by
  rw [openControl?] at h
  rw [answer, h]

theorem answer_blank (r : Rehearsal) {command command' : String}
    (same : verb command = verb command') :
    (r.blank.answer command').1 = (r.answer command).1 ∧
      (r.blank.answer command').2.blank = (r.answer command).2.blank := by
  cases h : r.openControl? with
  | none =>
      have h' : r.blank.openControl? = none := by rw [openControl?_blank, h, Option.map_none]
      obtain ⟨outcome, after⟩ := r.script.answer_blank same
      rw [answer_of_none h, answer_of_none h']
      refine ⟨outcome, ?_⟩
      simp only [blank, after, Option.map_map, Sockets.blank_comp_blank]
  | some s =>
      have h' : r.blank.openControl? = some s.blank := by
        rw [openControl?_blank, h, Option.map_some]
      obtain ⟨outcome, after⟩ := s.request_blank same
      rw [answer_of_some h, answer_of_some h']
      refine ⟨outcome, ?_⟩
      simp only [blank, after, Option.map_some, Script.blank_blank]

/-- A rehearsed supplicant answers by script or over its socket, and is blind either way. -/
theorem blind_answer : Blind answer blank where
  outcome := by
    intro r r' command command' together same
    rw [← (r.answer_blank same).1, together, (r'.answer_blank rfl).1]
  after := by
    intro r r' command command' together same
    rw [← (r.answer_blank same).2, together, (r'.answer_blank rfl).2]

end Rehearsal

/-! ### Configurations -/

/-- What is told in two runs is the same, but for the text of one command that gives a network its
passphrase. -/
def Told (psk psk' : Passphrase) (told told' : List String) : Prop :=
  told = told' ∨ ∃ id before after, told = before ++ pskCommand id psk :: after ∧
    told' = before ++ pskCommand id psk' :: after

theorem Dialogue.bind_assoc (d : Dialogue α) (f : α → Dialogue β) (g : β → Dialogue γ) :
    (d.bind f).bind g = d.bind fun a => (f a).bind g := by
  induction d with
  | done a => rfl
  | ask command next ih => exact congrArg (Dialogue.ask command) (funext ih)

theorem Dialogue.andThen_assoc (d : Dialogue (Except ε α)) (f : α → Dialogue (Except ε β))
    (g : β → Dialogue (Except ε γ)) :
    (d.andThen f).andThen g = d.andThen fun a => (f a).andThen g := by
  rw [Dialogue.andThen, Dialogue.andThen, Dialogue.bind_assoc, Dialogue.andThen]
  congr 1
  funext r
  cases r <;> rfl

/-- A new network with its name; what is left is to give it a passphrase. -/
def named (ssid : Ssid) : Dialogue (Except SupplicantError Nat) :=
  newNetwork.andThen fun id =>
    (expectOk (ssidCommand id ssid) "ssid").andThen fun _ => .done (.ok id)

/-- How a configuration goes on when the network has its passphrase. -/
def completed (id : Nat) : Dialogue (Except SupplicantError Nat) :=
  (expectOk (modeCommand id stationMode) "mode").andThen fun _ =>
    (selectNetwork id).andThen fun _ => .done (.ok id)

/-- Of a configuration, only the text of one command depends on the passphrase. -/
theorem configure_eq (ssid : Ssid) (psk : Passphrase) : configure ⟨ssid, psk⟩ =
    (named ssid).andThen fun id => (expectOk (pskCommand id psk) "psk").andThen fun _ =>
      completed id := by
  simp only [configure, addNetwork, named, completed, Dialogue.andThen_assoc]
  rfl

/-- How two runs end between which the passphrases make no other difference. -/
structure Agree (rest : σ → ρ) (psk psk' : Passphrase) (s s' : σ × List String) : Prop where
  rest : rest s.1 = rest s'.1
  told : Told psk psk' s.2 s'.2

theorem Agree.refl (rest : σ → ρ) (psk psk' : Passphrase) (s : σ × List String) :
    Agree rest psk psk' s s :=
  ⟨rfl, .inl rfl⟩

theorem Blind.configure {channel : σ → String → Outcome × σ} {rest : σ → ρ}
    (blind : Blind channel rest) (ssid : Ssid) (psk psk' : Passphrase) (s : σ × List String) :
    let r := (Supplicant.configure ⟨ssid, psk⟩).run (noted channel) s
    let r' := (Supplicant.configure ⟨ssid, psk'⟩).run (noted channel) s
    r.1 = r'.1 ∧ Agree rest psk psk' r.2 r'.2 := by
  simp only [configure_eq, Dialogue.andThen, Dialogue.run_bind]
  cases (named ssid).run (noted channel) s with
  | mk id n =>
      cases id with
      | error e => exact ⟨rfl, .refl rest psk psk' n⟩
      | ok id =>
          have same : verb (pskCommand id psk) = verb (pskCommand id psk') := by
            rw [verb_pskCommand, verb_pskCommand]
          obtain ⟨result, after, more, told, told'⟩ := blind.ask same _ n.1 n.2
          exact ⟨result, after, .inr ⟨id, n.2, more, told, told'⟩⟩

/-- Without a channel a configuration fails with its first command. -/
theorem unheard_configure (profile : Profile) :
    (configure profile).unheard = .error .notStarted := rfl

theorem Blind.talk_configure {channel : σ → String → Outcome × σ} {rest : σ → ρ}
    (blind : Blind channel rest) (m : Monitor) (ssid : Ssid) (psk psk' : Passphrase)
    (s : σ × List String) :
    let r := m.talk (noted channel) (Supplicant.configure ⟨ssid, psk⟩) s
    let r' := m.talk (noted channel) (Supplicant.configure ⟨ssid, psk'⟩) s
    r.1 = r'.1 ∧ Agree rest psk psk' r.2 r'.2 := by
  unfold Monitor.talk
  split
  · exact blind.configure ssid psk psk' s
  · rw [unheard_configure, unheard_configure]
    exact ⟨rfl, .refl rest psk psk' s⟩

/-- A service that has stopped refuses every network. -/
theorem Blind.service_configure {channel : σ → String → Outcome × σ} {rest : σ → ρ}
    (blind : Blind channel rest) (service : Service) (ssid : Ssid) (psk psk' : Passphrase)
    (s : σ × List String) :
    let r := service.monitor.talk (noted channel) (service.configure ⟨ssid, psk⟩) s
    let r' := service.monitor.talk (noted channel) (service.configure ⟨ssid, psk'⟩) s
    r.1 = r'.1 ∧ Agree rest psk psk' r.2 r'.2 := by
  unfold Service.configure
  split
  · exact blind.talk_configure service.monitor ssid psk psk' s
  · exact ⟨rfl, .refl rest psk psk' _⟩

end WifiStation.Supplicant
