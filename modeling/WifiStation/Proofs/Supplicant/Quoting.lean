import WifiStation.Proofs.Profile.Kept
import WifiStation.Proofs.Profile.Origin
import WifiStation.Proofs.Supplicant.Radio

/-!
# WifiStation.Proofs.Supplicant.Quoting

No text of a profile gets out of the quotes that it stands in.

A network is made with four commands at most (`addNetwork_commands`), and two of them carry a text
of the profile between double quotes. The characters in front of the text are fixed, letters, digits
and spaces; a profile has neither quotes nor control characters, and that is all that is needed:
the two quotes of the command are the only ones (`quotes_inQuotes`), so the text is what stands
between them, and a reader of the command finds the network and the text again
(`assignment?_ssidCommand`), so different pairs have different commands (`eq_of_same_command`).
Where the profile comes from does not matter; see `Origin`.
-/

namespace WifiStation.Supplicant

open WifiStation.Text

variable {σ α β ε : Type}

/-! ### The commands of a dialogue -/

/-- The commands that a dialogue sends over a channel, in order. -/
def commandsOf (channel : σ → String → Outcome × σ) : Dialogue α → σ → List String
  | .done _, _ => []
  | .ask command next, s =>
    command :: commandsOf channel (next (channel s command).1) (channel s command).2

theorem commandsOf_bind (channel : σ → String → Outcome × σ) (d : Dialogue α)
    (f : α → Dialogue β) (s : σ) :
    commandsOf channel (d.bind f) s = commandsOf channel d s ++
      commandsOf channel (f (d.run channel s).1) (d.run channel s).2 := by
  induction d generalizing s with
  | done a => rfl
  | ask command next ih => exact congrArg (command :: ·) (ih _ _)

/-- After a success the commands of the second dialogue follow. -/
theorem commandsOf_andThen_ok {channel : σ → String → Outcome × σ} {d : Dialogue (Except ε α)}
    {s : σ} {a : α} (h : (d.run channel s).1 = .ok a) (f : α → Dialogue (Except ε β)) :
    commandsOf channel (d.andThen f) s =
      commandsOf channel d s ++ commandsOf channel (f a) (d.run channel s).2 := by
  rw [Dialogue.andThen, commandsOf_bind, h]

/-- After a failure nothing more is sent. -/
theorem commandsOf_andThen_error {channel : σ → String → Outcome × σ}
    {d : Dialogue (Except ε α)} {s : σ} {e : ε} (h : (d.run channel s).1 = .error e)
    (f : α → Dialogue (Except ε β)) :
    commandsOf channel (d.andThen f) s = commandsOf channel d s := by
  rw [Dialogue.andThen, commandsOf_bind, h]
  exact List.append_nil _

/-- A dialogue of one command, gone on from: the command, and the others if it succeeds. -/
theorem commandsOf_andThen_prefix {channel : σ → String → Outcome × σ}
    {d : Dialogue (Except ε α)} {s : σ} {command : String}
    (one : commandsOf channel d s = [command])
    {f : α → Dialogue (Except ε β)} {others : List String}
    (more : ∀ a, commandsOf channel (f a) (d.run channel s).2 <+: others) :
    commandsOf channel (d.andThen f) s <+: command :: others := by
  cases h : (d.run channel s).1 with
  | error e =>
      rw [commandsOf_andThen_error h, one]
      exact List.prefix_append [command] others
  | ok a =>
      rw [commandsOf_andThen_ok h, one]
      exact (List.prefix_cons_inj command).mpr (more a)

theorem commandsOf_send (channel : σ → String → Outcome × σ) (command : String) (strip : Bool)
    (s : σ) : commandsOf channel (send command strip) s = [command] := rfl

theorem commandsOf_expectOk (channel : σ → String → Outcome × σ) (command step : String) (s : σ) :
    commandsOf channel (expectOk command step) s = [command] := by
  rw [expectOk, Dialogue.andThen, commandsOf_bind, commandsOf_send]
  cases ((send command true).run channel s).1 <;> rfl

theorem commandsOf_newNetwork (channel : σ → String → Outcome × σ) (s : σ) :
    commandsOf channel newNetwork s = [addCommand] := by
  rw [newNetwork, Dialogue.andThen, commandsOf_bind, commandsOf_send]
  cases ((send addCommand true).run channel s).1 <;> rfl

/-- The number of a new network is one that is allowed. -/
theorem le_of_newNetwork {channel : σ → String → Outcome × σ} {s : σ} {id : Nat}
    (h : (newNetwork.run channel s).1 = .ok id) : id ≤ maxNetworkId := by
  obtain ⟨reply, -, h, -⟩ := run_andThen_ok h
  rw [Dialogue.run_done] at h
  cases number : networkId? reply with
  | none => rw [number] at h; cases h
  | some id' =>
      rw [number] at h
      cases h
      exact of_decide_eq_true (Option.filter_eq_some_iff.mp number).2

/-- Whatever the supplicant answers, no other commands are sent to make a network. -/
theorem addNetwork_commands (channel : σ → String → Outcome × σ) (p : Profile) (mode : Nat)
    (s : σ) :
    ∃ id ≤ maxNetworkId, commandsOf channel (addNetwork p mode) s <+:
      [addCommand, ssidCommand id p.ssid, pskCommand id p.psk, modeCommand id mode] := by
  cases h : (newNetwork.run channel s).1 with
  | error e =>
      refine ⟨0, Nat.zero_le _, ?_⟩
      rw [addNetwork, commandsOf_andThen_error h, commandsOf_newNetwork]
      exact List.prefix_append [addCommand] _
  | ok id =>
      refine ⟨id, le_of_newNetwork h, ?_⟩
      rw [addNetwork, commandsOf_andThen_ok h, commandsOf_newNetwork]
      refine (List.prefix_cons_inj _).mpr ?_
      refine commandsOf_andThen_prefix (commandsOf_expectOk ..) fun _ => ?_
      refine commandsOf_andThen_prefix (commandsOf_expectOk ..) fun _ => ?_
      exact commandsOf_andThen_prefix (commandsOf_expectOk ..) fun _ => List.nil_prefix

/-! ### Values in quotes -/

theorem isPlain_iff {c : Char} : isPlain c = true ↔ c ≠ '"' ∧ isControl c = false := by
  simp [isPlain]

theorem isPlain_of_isDigit {c : Char} (h : isDigit c = true) : isPlain c = true := by
  rw [isDigit, Bool.and_eq_true, decide_eq_true_eq, decide_eq_true_eq] at h
  refine isPlain_iff.mpr ⟨?_, ?_⟩
  · rintro rfl
    exact absurd h.1 (by decide)
  · simp only [isControl, Bool.or_eq_false_iff, Bool.and_eq_false_iff, decide_eq_false_iff_not]
    omega

/-- A command that sets a field of a network, up to the value: fixed words, a number, and the name
of the field, with a space behind each. -/
def setFront (id : Nat) (field : String) : String := s!"SET_NETWORK {id} {field} "

theorem toList_setFront (id : Nat) (field : String) : (setFront id field).toList =
    "SET_NETWORK ".toList ++ (Nat.toDigits 10 id ++ ' ' :: (field.toList ++ [' '])) := by
  simp [setFront, toString_text]

theorem isPlain_setFront (id : Nat) {field : String} (plain : field.toList.all isPlain = true) :
    ∀ c ∈ (setFront id field).toList, isPlain c = true := by
  have word : "SET_NETWORK ".toList.all isPlain = true := by decide
  have space : isPlain ' ' = true := by decide
  have digits : ∀ c ∈ Nat.toDigits 10 id, isPlain c = true := fun c hc =>
    isPlain_of_isDigit (isDigit_toDigits id c hc)
  rw [List.all_eq_true] at word plain
  rw [toList_setFront, List.forall_mem_append, List.forall_mem_append, List.forall_mem_cons,
    List.forall_mem_append, List.forall_mem_singleton]
  exact ⟨word, digits, space, plain, space⟩

/-- A command that sets a field of a network to a value in quotes: behind the name of the field
stand one space and a quote, the other quote stands at the end, and there are no more of them. -/
structure Quotes (field : String) (id : Nat) (value command : String) : Prop where
  text : command = setFront id field ++ inQuotes value
  count : command.toList.count '"' = 2
  printable : ∀ c ∈ command.toList, isControl c = false

theorem quotes_inQuotes {field value : String} (id : Nat)
    (plainField : field.toList.all isPlain = true) (plain : value.toList.all isPlain = true) :
    Quotes field id value (setFront id field ++ inQuotes value) := by
  have chars : (setFront id field ++ inQuotes value).toList =
      (setFront id field).toList ++ '"' :: (value.toList ++ ['"']) := by simp [inQuotes]
  have front := isPlain_setFront id plainField
  have inner := List.all_eq_true.mp plain
  refine ⟨rfl, ?_, ?_⟩
  · have outside : (setFront id field).toList.count '"' = 0 :=
      List.count_eq_zero.mpr fun h => (isPlain_iff.mp (front _ h)).1 rfl
    have inside : value.toList.count '"' = 0 :=
      List.count_eq_zero.mpr fun h => (isPlain_iff.mp (inner _ h)).1 rfl
    rw [chars]
    simp [List.count_append, outside, inside]
  · have quote : isControl '"' = false := by decide
    rw [chars, List.forall_mem_append, List.forall_mem_cons, List.forall_mem_append,
      List.forall_mem_singleton]
    exact ⟨fun c hc => (isPlain_iff.mp (front c hc)).2, quote,
      fun c hc => (isPlain_iff.mp (inner c hc)).2, quote⟩

theorem quotes_ssidCommand (id : Nat) (ssid : Ssid) :
    Quotes "ssid" id ssid.text (ssidCommand id ssid) := by
  have text : ssidCommand id ssid = setFront id "ssid" ++ inQuotes ssid.text :=
    String.toList_inj.mp (by simp [ssidCommand, setFront, inQuotes, toString_text])
  rw [text]
  exact quotes_inQuotes id (by decide) ssid.plain

theorem quotes_pskCommand (id : Nat) (psk : Passphrase) :
    Quotes "psk" id psk.text (pskCommand id psk) := by
  have text : pskCommand id psk = setFront id "psk" ++ inQuotes psk.text :=
    String.toList_inj.mp (by simp [pskCommand, setFront, inQuotes, toString_text])
  rw [text]
  exact quotes_inQuotes id (by decide) psk.plain

theorem printable_addCommand : ∀ c ∈ addCommand.toList, isControl c = false := by
  have plain : addCommand.toList.all isPlain = true := by decide
  intro c hc
  exact (isPlain_iff.mp (List.all_eq_true.mp plain c hc)).2

theorem printable_modeCommand (id mode : Nat) :
    ∀ c ∈ (modeCommand id mode).toList, isControl c = false := by
  have text : (modeCommand id mode).toList =
      (setFront id "mode").toList ++ Nat.toDigits 10 mode := by
    simp [modeCommand, setFront, toString_text]
  rw [text, List.forall_mem_append]
  exact ⟨fun c hc => (isPlain_iff.mp (isPlain_setFront id (by decide) c hc)).2,
    fun c hc => (isPlain_iff.mp (isPlain_of_isDigit (isDigit_toDigits mode c hc))).2⟩

/-! ### Reading back -/

/-- The text between two quotes at its ends. -/
def unquote? (s : String) : Option String :=
  match s.toList with
  | '"' :: rest => if rest.getLast? = some '"' then some (String.ofList rest.dropLast) else none
  | _ => none

@[simp] theorem unquote?_inQuotes (text : String) : unquote? (inQuotes text) = some text := by
  have chars : (inQuotes text).toList = '"' :: (text.toList ++ ['"']) := by simp [inQuotes]
  rw [unquote?, chars]
  simp

/-- The network and the text in a command that sets a field to a text in quotes. -/
def assignment? (field command : String) : Option (Nat × String) :=
  match Order.read? command with
  | some (.set id f value) => if f = field then (unquote? value).map (id, ·) else none
  | _ => none

theorem assignment?_ssidCommand (id : Nat) (ssid : Ssid) :
    assignment? "ssid" (ssidCommand id ssid) = some (id, ssid.text) := by
  simp [assignment?, read?_ssidCommand]

theorem assignment?_pskCommand (id : Nat) (psk : Passphrase) :
    assignment? "psk" (pskCommand id psk) = some (id, psk.text) := by
  simp [assignment?, read?_pskCommand]

/-- Commands that are read back to what they were written for are different for different pairs. -/
theorem eq_of_same_command {field : String} {command : Nat → α → String} {text : α → String}
    (back : ∀ id a, assignment? field (command id a) = some (id, text a)) {id id' : Nat} {a b : α}
    (same : command id a = command id' b) : id = id' ∧ text a = text b := by
  have read := back id a
  rw [same, back] at read
  obtain ⟨number, value⟩ := Prod.mk.inj (Option.some.inj read)
  exact ⟨number.symm, value.symm⟩

theorem ssidCommand_inj {id id' : Nat} {a b : Ssid} :
    ssidCommand id a = ssidCommand id' b ↔ id = id' ∧ a.text = b.text := by
  refine ⟨eq_of_same_command assignment?_ssidCommand, fun ⟨number, text⟩ => ?_⟩
  rw [number, ssidCommand, ssidCommand, text]

theorem pskCommand_inj {id id' : Nat} {a b : Passphrase} :
    pskCommand id a = pskCommand id' b ↔ id = id' ∧ a.text = b.text := by
  refine ⟨eq_of_same_command assignment?_pskCommand, fun ⟨number, text⟩ => ?_⟩
  rw [number, pskCommand, pskCommand, text]

/-! ### No way out of the quotes -/

/-- **No text reaches the supplicant as anything but a value.** Wherever a profile comes from, it
has the texts that were given. Whatever the supplicant answers, the commands that make a network for it
hold no control character and are no others than these four, two of which hold a text: between the
only two quotes of the command, and just as it was given. So the number of the network and the text
can be read out of the command, and no two pairs of them have one command. -/
theorem no_command_injection (o : Origin) (p : Profile) (made : o.profile? = some p) :
    ∃ ssid psk, o.texts? = some (ssid, psk) ∧
      (∀ (σ : Type) (channel : σ → String → Outcome × σ) (s : σ) (mode : Nat),
        (∀ command ∈ commandsOf channel (addNetwork p mode) s,
          ∀ c ∈ command.toList, isControl c = false) ∧
        ∃ id ≤ maxNetworkId, commandsOf channel (addNetwork p mode) s <+:
          [addCommand, ssidCommand id p.ssid, pskCommand id p.psk, modeCommand id mode]) ∧
      ∀ id, Quotes "ssid" id ssid (ssidCommand id p.ssid) ∧
        Quotes "psk" id psk (pskCommand id p.psk) ∧
        assignment? "ssid" (ssidCommand id p.ssid) = some (id, ssid) ∧
        assignment? "psk" (pskCommand id p.psk) = some (id, psk) ∧
        ∀ id' (q : Profile),
          (ssidCommand id p.ssid = ssidCommand id' q.ssid ↔ id = id' ∧ ssid = q.ssid.text) ∧
          (pskCommand id p.psk = pskCommand id' q.psk ↔ id = id' ∧ psk = q.psk.text) := by
  refine ⟨p.ssid.text, p.psk.text, Origin.texts?_of_profile? made, fun σ channel s mode => ?_,
    fun id => ⟨quotes_ssidCommand id p.ssid, quotes_pskCommand id p.psk,
      assignment?_ssidCommand id p.ssid, assignment?_pskCommand id p.psk,
      fun id' q => ⟨ssidCommand_inj, pskCommand_inj⟩⟩⟩
  obtain ⟨id, allowed, sent⟩ := addNetwork_commands channel p mode s
  refine ⟨fun command hc => ?_, id, allowed, sent⟩
  have one := sent.subset hc
  simp only [List.mem_cons, List.not_mem_nil, or_false] at one
  rcases one with rfl | rfl | rfl | rfl
  · exact printable_addCommand
  · exact (quotes_ssidCommand id p.ssid).printable
  · exact (quotes_pskCommand id p.psk).printable
  · exact printable_modeCommand id mode

/-- A network whose texts look like more of a command. -/
def forged : Profile where
  ssid := ⟨"x psk y mode 1\\", by decide, by decide, by decide⟩
  psk := ⟨"SELECT_NETWORK 0", by decide, by decide, by decide⟩

theorem no_command_injection_forged :
    let o := Origin.file (Stored.render (some forged))
    o.profile? = some forged ∧ o.texts? = some ("x psk y mode 1\\", "SELECT_NETWORK 0") ∧
      Quotes "ssid" 7 "x psk y mode 1\\" (ssidCommand 7 forged.ssid) ∧
      assignment? "psk" (pskCommand 7 forged.psk) = some (7, "SELECT_NETWORK 0") := by
  intro o
  have made : o.profile? = some forged := by
    change (Stored.read (Stored.render (some forged))).toOption.join = some forged
    rw [Stored.read_render]
    rfl
  obtain ⟨ssid, psk, texts, -, commands⟩ := no_command_injection o forged made
  have given : (ssid, psk) = (forged.ssid.text, forged.psk.text) :=
    Option.some.inj (texts.symm.trans (Origin.texts?_of_profile? made))
  cases given
  obtain ⟨name, -, -, back, -⟩ := commands 7
  exact ⟨made, texts, name, back⟩

end WifiStation.Supplicant
