import WifiStation.Proofs.Text.Number
import WifiStation.Supplicant.Script
import WifiStation.Supplicant.Service

/-!
# WifiStation.Proofs.Supplicant.Radio

What a configuration does at the other end of the control channel.

The supplicant keeps its own table of networks. `Radio` is that table as the commands that it
accepted have made it: a command is read from its text alone (`Order.read?`) and counts if the reply
says so, whatever else the supplicant does. A channel is tuned by letting the radio listen to it
(`tuned`). Whoever listens to a channel changes nothing of what is said over it (`run_overheard`).

A configuration that succeeds leaves the radio on a network with exactly the name and the passphrase
of the profile (`configure_tunes`): each of its five dialogues is inverted once, and the text of each
command is read back to the order it was written for.
-/

namespace WifiStation.Supplicant

open WifiStation.Text

/-! ### Orders -/

/-- What a command asks of the table of networks. -/
inductive Order where
  /-- A new network, whose number is in the reply. -/
  | add
  | set (id : Nat) (field value : String)
  | select (id : Nat)
  deriving DecidableEq, Repr

/-- The text up to a space, and the text behind it. -/
def cut (s : List Char) : List Char × List Char :=
  (s.takeWhile (· ≠ ' '), (s.dropWhile (· ≠ ' ')).drop 1)

/-- The order of a command; there is none in commands about other things. -/
def Order.read? (command : String) : Option Order :=
  let (verb, rest) := cut command.toList
  if verb = "ADD_NETWORK".toList then some .add
  else if verb = "SET_NETWORK".toList then
    let (id, rest) := cut rest
    let (field, value) := cut rest
    (digits? 10 id).map fun id => .set id (String.ofList field) (String.ofList value)
  else if verb = "SELECT_NETWORK".toList then (digits? 10 rest).map .select
  else none

theorem cut_space {w : List Char} (h : ∀ c ∈ w, c ≠ ' ') (rest : List Char) :
    cut (w ++ ' ' :: rest) = (w, rest) := by
  have whole : ∀ c ∈ w, decide (c ≠ ' ') = true := fun c hc => decide_eq_true (h c hc)
  rw [cut, List.takeWhile_append_of_pos whole, List.dropWhile_append_of_pos whole]
  simp

theorem ne_space_of_number (n : Nat) : ∀ c ∈ Nat.toDigits 10 n, c ≠ ' ' := by
  rintro c hc rfl
  exact absurd (isDigit_toDigits n _ hc) (by decide)

/-- A command that sets a field is read as that. -/
theorem read?_set (id : Nat) {command field value : String} (h : ∀ c ∈ field.toList, c ≠ ' ')
    (text : command.toList = "SET_NETWORK".toList ++ ' ' ::
      (Nat.toDigits 10 id ++ ' ' :: (field.toList ++ ' ' :: value.toList))) :
    Order.read? command = some (.set id field value) := by
  rw [Order.read?, text, cut_space (by simp)]
  dsimp only
  rw [cut_space (ne_space_of_number id)]
  dsimp only
  rw [cut_space h, digits?_toDigits]
  simp

/-- A text between double quotes, as a value stands in a command. -/
def inQuotes (text : String) : String := "\"" ++ text ++ "\""

/-- The pieces of a command's text that are fixed stand for themselves. -/
theorem toString_text (s : String) : toString s = s := rfl

theorem read?_ssidCommand (id : Nat) (ssid : Ssid) :
    Order.read? (ssidCommand id ssid) = some (.set id "ssid" (inQuotes ssid.text)) :=
  read?_set id (by simp) (by simp [ssidCommand, inQuotes, toString_text])

theorem read?_pskCommand (id : Nat) (psk : Passphrase) :
    Order.read? (pskCommand id psk) = some (.set id "psk" (inQuotes psk.text)) :=
  read?_set id (by simp) (by simp [pskCommand, inQuotes, toString_text])

theorem read?_modeCommand (id mode : Nat) :
    Order.read? (modeCommand id mode) = some (.set id "mode" (toString mode)) :=
  read?_set id (by simp) (by simp [modeCommand, toString_text])

theorem read?_selectCommand (id : Nat) : Order.read? (selectCommand id) = some (.select id) := by
  have text : (selectCommand id).toList =
      "SELECT_NETWORK".toList ++ ' ' :: Nat.toDigits 10 id := by
    simp [selectCommand, toString_text]
  rw [Order.read?, text, cut_space (by simp)]
  simp [digits?_toDigits]

/-! ### The radio -/

/-- The table of networks, and which of them is to be joined. -/
structure Radio where
  /-- The fields of a network. -/
  networks : Nat → String → Option String := fun _ _ => none
  selected : Option Nat := none

namespace Radio

/-- With a new network, of which nothing is known. -/
def add (r : Radio) (id : Nat) : Radio :=
  { r with networks := fun i => if i = id then fun _ => none else r.networks i }

/-- With a field of a network. -/
def set (r : Radio) (id : Nat) (field value : String) : Radio :=
  { r with networks := fun i f => if i = id ∧ f = field then some value else r.networks i f }

/-- With a network as the one to join. -/
def select (r : Radio) (id : Nat) : Radio := { r with selected := some id }

/-- Takes an order that is accepted, with the reply to it. -/
def obey (r : Radio) (reply : String) : Order → Radio
  | .add =>
    match networkId? reply with
    | some id => r.add id
    | none => r
  | .set id field value => if reply = "OK" then r.set id field value else r
  | .select id => if reply = "OK" then r.select id else r

/-- Hears a command with what came of it. -/
def hear (r : Radio) (command : String) (outcome : Outcome) : Radio :=
  match Order.read? command, outcome with
  | some order, .ok reply => r.obey (withoutNewline reply) order
  | _, _ => r

/-- The field of the network that is to be joined. -/
def field? (r : Radio) (field : String) : Option String :=
  r.selected.bind fun id => r.networks id field

/-- The radio is on the network of a profile. -/
structure On (r : Radio) (profile : Profile) : Prop where
  ssid : r.field? "ssid" = some (inQuotes profile.ssid.text)
  psk : r.field? "psk" = some (inQuotes profile.psk.text)

theorem inQuotes_injective {a b : String} (h : inQuotes a = inQuotes b) : a = b := by
  have texts := congrArg String.toList h
  simp only [inQuotes, String.toList_append] at texts
  exact String.toList_inj.mp (List.append_cancel_left (List.append_cancel_right texts))

/-- The radio is on one network at most. -/
theorem On.unique {r : Radio} {p q : Profile} (hp : r.On p) (hq : r.On q) : p = q := by
  have ssid : p.ssid.text = q.ssid.text :=
    inQuotes_injective (Option.some.inj (hp.ssid.symm.trans hq.ssid))
  have psk : p.psk.text = q.psk.text :=
    inQuotes_injective (Option.some.inj (hp.psk.symm.trans hq.psk))
  cases p with
  | mk ps pp =>
      cases q with
      | mk qs qp =>
          cases ps; cases pp; cases qs; cases qp
          cases ssid
          cases psk
          rfl

end Radio

/-! ### Listening to a channel -/

variable {σ κ α β ε : Type}

/-- A channel with a listener beside its state, which hears each command with what came of it. -/
def overheard (hear : κ → String → Outcome → κ) (channel : σ → String → Outcome × σ)
    (s : σ × κ) (command : String) : Outcome × (σ × κ) :=
  let r := channel s.1 command
  (r.1, (r.2, hear s.2 command r.1))

/-- Listening changes neither the result nor the state. -/
theorem run_overheard (hear : κ → String → Outcome → κ) (channel : σ → String → Outcome × σ)
    (d : Dialogue α) (s : σ × κ) :
    (d.run (overheard hear channel) s).1 = (d.run channel s.1).1 ∧
      (d.run (overheard hear channel) s).2.1 = (d.run channel s.1).2 := by
  induction d generalizing s with
  | done a => exact ⟨rfl, rfl⟩
  | ask command next ih => exact ih _ _

/-! ### Talking over a tuned channel -/

/-- A channel that the radio listens to. -/
def tuned (channel : σ → String → Outcome × σ) :
    σ × Radio → String → Outcome × (σ × Radio) :=
  overheard Radio.hear channel

/-- A dialogue that goes on from a success: if it succeeds, so did the first part, and the second
ran on what the first has left. -/
theorem run_andThen_ok {channel : σ → String → Outcome × σ} {d : Dialogue (Except ε α)}
    {f : α → Dialogue (Except ε β)} {s : σ} {b : β}
    (h : ((d.andThen f).run channel s).1 = .ok b) :
    ∃ a, (d.run channel s).1 = .ok a ∧ ((f a).run channel (d.run channel s).2).1 = .ok b ∧
      ((d.andThen f).run channel s).2 = ((f a).run channel (d.run channel s).2).2 := by
  rw [Dialogue.andThen, Dialogue.run_bind] at h ⊢
  cases hd : (d.run channel s).1 with
  | error e =>
      rw [hd] at h
      cases h
  | ok a =>
      rw [hd] at h
      exact ⟨a, rfl, h, rfl⟩

/-- A command that is answered has been heard with its answer. -/
theorem send_ok {channel : σ → String → Outcome × σ} {s : σ × Radio} {command reply : String}
    {order : Order} (read : Order.read? command = some order)
    (h : ((send command true).run (tuned channel) s).1 = .ok reply) :
    ((send command true).run (tuned channel) s).2.2 = s.2.obey reply order := by
  change (channel s.1 command).1.map withoutNewline = .ok reply at h
  change s.2.hear command (channel s.1 command).1 = s.2.obey reply order
  cases answer : (channel s.1 command).1 with
  | error e =>
      rw [answer] at h
      cases h
  | ok text =>
      rw [answer] at h
      cases h
      simp only [Radio.hear, read]

theorem newNetwork_ok {channel : σ → String → Outcome × σ} {s : σ × Radio} {id : Nat}
    (h : (newNetwork.run (tuned channel) s).1 = .ok id) :
    (newNetwork.run (tuned channel) s).2.2 = s.2.add id := by
  obtain ⟨reply, sent, h, after⟩ := run_andThen_ok h
  have asks : Order.read? addCommand = some .add := by decide
  rw [newNetwork, after, Dialogue.run_done, send_ok asks sent]
  rw [Dialogue.run_done] at h
  cases number : networkId? reply with
  | none =>
      rw [number] at h
      cases h
  | some id' =>
      rw [number] at h
      cases h
      rw [Radio.obey, number]

/-- A command that was accepted has been obeyed. -/
theorem expectOk_ok {channel : σ → String → Outcome × σ} {s : σ × Radio} {command step : String}
    {order : Order} (read : Order.read? command = some order) {u : Unit}
    (h : ((expectOk command step).run (tuned channel) s).1 = .ok u) :
    ((expectOk command step).run (tuned channel) s).2.2 = s.2.obey "OK" order := by
  obtain ⟨reply, sent, h, after⟩ := run_andThen_ok h
  rw [expectOk, after, Dialogue.run_done, send_ok read sent]
  rw [Dialogue.run_done] at h
  by_cases accepted : reply = "OK"
  · rw [accepted]
  · rw [if_neg accepted] at h
    cases h

theorem addNetwork_ok {channel : σ → String → Outcome × σ} {s : σ × Radio} {profile : Profile}
    {mode id : Nat} (h : ((addNetwork profile mode).run (tuned channel) s).1 = .ok id) :
    ((addNetwork profile mode).run (tuned channel) s).2.2 =
      (((s.2.add id).set id "ssid" (inQuotes profile.ssid.text)).set id "psk"
        (inQuotes profile.psk.text)).set id "mode" (toString mode) := by
  obtain ⟨id', added, h, after⟩ := run_andThen_ok h
  obtain ⟨_, named, h, after₁⟩ := run_andThen_ok h
  obtain ⟨_, keyed, h, after₂⟩ := run_andThen_ok h
  obtain ⟨_, moded, h, after₃⟩ := run_andThen_ok h
  cases h
  -- from the last command, which leaves the radio, back to the first
  rw [addNetwork, after, after₁, after₂, after₃, Dialogue.run_done,
    expectOk_ok (read?_modeCommand id mode) moded, expectOk_ok (read?_pskCommand id profile.psk) keyed,
    expectOk_ok (read?_ssidCommand id profile.ssid) named, newNetwork_ok added]
  rfl

/-- A configuration that succeeds leaves the radio on the network of the profile. -/
theorem configure_tunes {channel : σ → String → Outcome × σ} {s : σ × Radio} {profile : Profile}
    {id : Nat} (h : ((configure profile).run (tuned channel) s).1 = .ok id) :
    ((configure profile).run (tuned channel) s).2.2.On profile := by
  obtain ⟨id', added, h, after⟩ := run_andThen_ok h
  obtain ⟨_, selected, h, after₁⟩ := run_andThen_ok h
  cases h
  have obeyed := expectOk_ok (read?_selectCommand id) selected
  rw [configure, after, after₁, Dialogue.run_done, selectNetwork, obeyed, addNetwork_ok added]
  constructor
  · simp [Radio.field?, Radio.obey, Radio.select, Radio.set]
  · simp [Radio.field?, Radio.obey, Radio.select, Radio.set]

/-- A configuration succeeds if the supplicant gives a number and then agrees four times. -/
theorem run_configure_script (profile : Profile) {reply : String} {id : Nat}
    (number : networkId? (withoutNewline reply) = some id) (rest : List (Option String))
    {s : Script × Radio} (replies : s.1.replies =
      some reply :: some "OK\n" :: some "OK\n" :: some "OK\n" :: some "OK\n" :: rest) :
    ((configure profile).run (tuned Script.answer) s).1 = .ok id ∧
      ((configure profile).run (tuned Script.answer) s).2.1.replies = rest := by
  have agreed : withoutNewline "OK\n" = "OK" := by decide
  simp [configure, addNetwork, newNetwork, selectNetwork, expectOk, send, Dialogue.andThen,
    Dialogue.bind, Dialogue.run, tuned, overheard, Script.answer, replies, number, agreed, Except.map]

/-! ### Through the service -/

theorem Dialogue.unheard_bind (d : Dialogue α) (f : α → Dialogue β) :
    (d.bind f).unheard = (f d.unheard).unheard := by
  induction d with
  | done a => rfl
  | ask command next ih => exact ih _

theorem Monitor.talk_done (m : Monitor) (channel : σ → String → Outcome × σ) (a : α) (s : σ) :
    m.talk channel (.done a) s = (a, s) := by
  rw [Monitor.talk]
  split <;> rfl

theorem Monitor.talk_bind (m : Monitor) (channel : σ → String → Outcome × σ) (d : Dialogue α)
    (f : α → Dialogue β) (s : σ) :
    m.talk channel (d.bind f) s =
      m.talk channel (f (m.talk channel d s).1) (m.talk channel d s).2 := by
  unfold Monitor.talk
  split
  · exact Dialogue.run_bind channel d f s
  · rw [Dialogue.unheard_bind]

/-- Who listens to the channel changes nothing for the monitor either. -/
theorem Monitor.talk_overheard (m : Monitor) (hear : κ → String → Outcome → κ)
    (channel : σ → String → Outcome × σ) (d : Dialogue α) (s : σ × κ) :
    m.talk channel d s.1 =
      ((m.talk (overheard hear channel) d s).1, (m.talk (overheard hear channel) d s).2.1) := by
  rw [Monitor.talk, Monitor.talk]
  by_cases control : m.hasControl = true
  · rw [if_pos control, if_pos control]
    have same := run_overheard hear channel d s
    exact Prod.ext same.1.symm same.2.symm
  · rw [if_neg control, if_neg control]

/-- A network that was joined is the one that the radio is on. -/
theorem Service.configure_tunes {s : Service} {channel : σ → String → Outcome × σ}
    {other : σ × Radio} {profile : Profile} {id : Nat}
    (h : (s.monitor.talk (tuned channel) (s.configure profile) other).1 = .ok id) :
    (s.monitor.talk (tuned channel) (s.configure profile) other).2.2.On profile := by
  cases running : s.running with
  | false =>
      rw [Service.configure, running, if_neg Bool.false_ne_true, Monitor.talk_done] at h
      cases h
  | true =>
      rw [Service.configure, running, if_pos rfl] at h ⊢
      cases control : s.monitor.hasControl with
      | false =>
          rw [Monitor.talk, control] at h
          cases h
      | true =>
          rw [Monitor.talk, control] at h ⊢
          exact Supplicant.configure_tunes h

end WifiStation.Supplicant
