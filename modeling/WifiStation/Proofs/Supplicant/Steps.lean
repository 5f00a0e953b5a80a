import WifiStation.Proofs.Supplicant.Passphrase

/-!
# WifiStation.Proofs.Supplicant.Steps

A configuration stops at the first step that goes wrong.

A channel is `logged` by a listener that keeps what is said, each command with what came of it.
A `Step` is a command with its name and the replies that it accepts, and a configuration has five of
them (`steps`), all but the first about the number that the first was answered with. What is said
in a configuration `Halts`: the steps are gone through in order, up to the first with a fault.

`run_configure` says so of the dialogue, command by command. What follows is read off `Halts`: which
commands are sent, when, and what the result is (`Halts.commands`, `Halts.taken_iff`,
`Halts.fine_iff`, `Halts.fault_iff`).
-/

namespace WifiStation.Supplicant

open WifiStation.Text

variable {σ α β ε : Type}

/-! ### What is said -/

/-- A channel with a listener that keeps what is said: each command with what came of it. -/
def logged (channel : σ → String → Outcome × σ) :
    σ × List (String × Outcome) → String → Outcome × (σ × List (String × Outcome)) :=
  overheard (fun said command outcome => said ++ [(command, outcome)]) channel

/-! ### Steps -/

/-- A command, its name in errors, and the replies that are accepted. -/
structure Step where
  command : String
  name : String
  accepts : String → Bool

/-- What is wrong with the outcome of a step. -/
def Step.fault? (step : Step) : Outcome → Option SupplicantError
  | .error e => some e
  | .ok reply =>
    if step.accepts (withoutNewline reply) then none
    else some (.configurationRejected step.name (withoutNewline reply))

/-- A step that is to be answered with `OK`. -/
def Step.agreed (command name : String) : Step := ⟨command, name, (· = "OK")⟩

/-- The first step is to be answered with the number of a network. -/
def Step.numbered : Step := ⟨addCommand, addCommand, fun reply => (networkId? reply).isSome⟩

/-- What a new network is filled in with, and that it is to be joined: each command with its
name. -/
def orders (p : Profile) (id : Nat) : List (String × String) :=
  [(ssidCommand id p.ssid, "ssid"), (pskCommand id p.psk, "psk"),
    (modeCommand id stationMode, "mode"), (selectCommand id, "SELECT_NETWORK")]

/-- The steps of a configuration, if the new network has this number. -/
def steps (p : Profile) (id : Nat) : List Step :=
  .numbered :: (orders p id).map fun x => .agreed x.1 x.2

/-- Steps are gone through until one goes wrong. -/
inductive Halts : List Step → List (String × Outcome) → Option SupplicantError → Prop where
  | complete : Halts [] [] none
  | accepted {step : Step} {outcome : Outcome} {rest : List Step}
      {said : List (String × Outcome)} {fault : Option SupplicantError}
      (fine : step.fault? outcome = none) (others : Halts rest said fault) :
      Halts (step :: rest) ((step.command, outcome) :: said) fault
  | wrong {step : Step} {outcome : Outcome} {e : SupplicantError} (rest : List Step)
      (fault : step.fault? outcome = some e) :
      Halts (step :: rest) [(step.command, outcome)] (some e)

/-- A step was taken, and this is what was wrong with its outcome. -/
def CameOf (plan : List Step) (said : List (String × Outcome)) (i : Nat)
    (fault : Option SupplicantError) : Prop :=
  ∃ step command outcome, plan[i]? = some step ∧ said[i]? = some (command, outcome) ∧
    step.fault? outcome = fault

theorem cameOf_zero {step : Step} {rest : List Step} {command : String} {outcome : Outcome}
    {others : List (String × Outcome)} {fault : Option SupplicantError} :
    CameOf (step :: rest) ((command, outcome) :: others) 0 fault ↔ step.fault? outcome = fault := by
  constructor
  · intro ⟨_, _, _, atStep, atOutcome, same⟩
    cases atStep
    cases atOutcome
    exact same
  · intro same
    exact ⟨step, command, outcome, rfl, rfl, same⟩

namespace Halts

variable {plan : List Step} {said : List (String × Outcome)} {fault : Option SupplicantError}

/-- The commands that are sent are the first of the plan. -/
theorem commands (h : Halts plan said fault) :
    said.map Prod.fst <+: plan.map Step.command := by
  induction h with
  | complete => exact List.prefix_refl _
  | accepted _ _ ih => exact (List.prefix_cons_inj _).mpr ih
  | wrong rest _ => exact List.prefix_append [_] (rest.map Step.command)

/-- A step is taken if all steps before it were accepted, and only then. -/
theorem taken_iff (h : Halts plan said fault) (i : Nat) (inside : i < plan.length) :
    i < said.length ↔ ∀ j < i, CameOf plan said j none := by
  induction h generalizing i with
  | complete => cases inside
  | accepted fine others ih =>
      cases i with
      | zero => exact iff_of_true (Nat.succ_pos _) fun j below => absurd below (Nat.not_lt_zero j)
      | succ i =>
          have later := ih i (Nat.lt_of_succ_lt_succ inside)
          rw [List.length_cons, Nat.succ_lt_succ_iff, later, Nat.forall_lt_succ_left]
          exact ⟨fun before => ⟨cameOf_zero.mpr fine, before⟩, And.right⟩
  | wrong rest fault =>
      cases i with
      | zero => exact iff_of_true (Nat.succ_pos _) fun j below => absurd below (Nat.not_lt_zero j)
      | succ i =>
          refine iff_of_false (fun taken => Nat.not_lt_zero i (Nat.lt_of_succ_lt_succ taken)) ?_
          intro all
          cases fault.symm.trans (cameOf_zero.mp (all 0 (Nat.succ_pos i)))

/-- Nothing is wrong if all steps were accepted, and only then. -/
theorem fine_iff (h : Halts plan said fault) :
    fault = none ↔ ∀ j < plan.length, CameOf plan said j none := by
  induction h with
  | complete => exact iff_of_true rfl fun j below => absurd below (Nat.not_lt_zero j)
  | accepted fine others ih =>
      rw [List.length_cons, Nat.forall_lt_succ_left, ih]
      exact ⟨fun later => ⟨cameOf_zero.mpr fine, later⟩, And.right⟩
  | wrong rest fault =>
      rw [List.length_cons, Nat.forall_lt_succ_left]
      refine iff_of_false (fun none => nomatch none) fun all => ?_
      cases fault.symm.trans (cameOf_zero.mp all.1)

/-- What is wrong is what is wrong with the first step that was not accepted. -/
theorem fault_iff (h : Halts plan said fault) (e : SupplicantError) :
    fault = some e ↔ ∃ j, (∀ k < j, CameOf plan said k none) ∧ CameOf plan said j (some e) := by
  induction h with
  | complete =>
      refine iff_of_false (fun none => nomatch none) fun ⟨j, _, step, _, _, inside, _⟩ => ?_
      cases inside
  | accepted fine others ih =>
      rw [ih]
      constructor
      · intro ⟨j, before, here⟩
        exact ⟨j + 1, Nat.forall_lt_succ_left.mpr ⟨cameOf_zero.mpr fine, before⟩, here⟩
      · intro ⟨j, before, here⟩
        cases j with
        | zero => cases fine.symm.trans (cameOf_zero.mp here)
        | succ j => exact ⟨j, (Nat.forall_lt_succ_left.mp before).2, here⟩
  | wrong rest fault =>
      constructor
      · intro same
        refine ⟨0, fun k below => absurd below (Nat.not_lt_zero k), ?_⟩
        exact cameOf_zero.mpr (fault.trans same)
      · intro ⟨j, before, here⟩
        cases j with
        | zero => exact fault.symm.trans (cameOf_zero.mp here)
        | succ j => cases fault.symm.trans (cameOf_zero.mp (before 0 (Nat.succ_pos j)))

end Halts

/-! ### Going through steps -/

/-- Commands that are to be answered with `OK`, with their names; the result is given. -/
def inOrder (id : Nat) : List (String × String) → Dialogue (Except SupplicantError Nat)
  | [] => .done (.ok id)
  | (command, name) :: rest => (expectOk command name).andThen fun _ => inOrder id rest

theorem configure_eq_inOrder (p : Profile) :
    configure p = newNetwork.andThen fun id => inOrder id (orders p id) := by
  simp only [configure, addNetwork, selectNetwork, Dialogue.andThen_assoc]
  rfl

/-- A command is sent, and the reply is judged. -/
theorem run_judged (channel : σ → String → Outcome × σ) (command : String)
    (judge : String → Except SupplicantError α) (s : σ × List (String × Outcome)) :
    ((send command true).andThen fun reply => .done (judge reply)).run (logged channel) s =
      ((channel s.1 command).1.bind fun reply => judge (withoutNewline reply),
        (channel s.1 command).2, s.2 ++ [(command, (channel s.1 command).1)]) := by
  have sent : (send command true).run (logged channel) s =
      ((channel s.1 command).1.map withoutNewline, (channel s.1 command).2,
        s.2 ++ [(command, (channel s.1 command).1)]) := rfl
  rw [Dialogue.andThen, Dialogue.run_bind, sent]
  cases (channel s.1 command).1 with
  | error e => rfl
  | ok reply => rfl

/-- A command that is to be answered with `OK` is one step. -/
theorem run_expectOk (channel : σ → String → Outcome × σ) (command name : String)
    (s : σ × List (String × Outcome)) :
    (expectOk command name).run (logged channel) s =
      (((Step.agreed command name).fault? (channel s.1 command).1).elim (.ok ()) .error,
        (channel s.1 command).2, s.2 ++ [(command, (channel s.1 command).1)]) := by
  rw [expectOk, run_judged]
  cases (channel s.1 command).1 with
  | error e => rfl
  | ok reply =>
      by_cases agreed : withoutNewline reply = "OK"
      · simp [Except.bind, Step.fault?, Step.agreed, agreed]
      · simp [Except.bind, Step.fault?, Step.agreed, agreed]

theorem run_inOrder (channel : σ → String → Outcome × σ) (id : Nat)
    (rest : List (String × String)) (s : σ × List (String × Outcome)) :
    ∃ more fault, Halts (rest.map fun x => .agreed x.1 x.2) more fault ∧
      ((inOrder id rest).run (logged channel) s).2.2 = s.2 ++ more ∧
      ((inOrder id rest).run (logged channel) s).1 = fault.elim (.ok id) .error := by
  induction rest generalizing s with
  | nil => exact ⟨[], none, .complete, (List.append_nil _).symm, rfl⟩
  | cons x rest ih =>
      obtain ⟨command, name⟩ := x
      have first := run_expectOk channel command name s
      rw [inOrder, Dialogue.andThen, Dialogue.run_bind, first]
      cases fault : (Step.agreed command name).fault? (channel s.1 command).1 with
      | some e => exact ⟨_, some e, .wrong _ fault, rfl, rfl⟩
      | none =>
          -- the rest is said behind this command
          obtain ⟨more, last, halts, said, result⟩ := ih (_, s.2 ++ [(command, _)])
          exact ⟨_, last, .accepted fault halts, said.trans (List.append_assoc ..), result⟩

/-! ### The number of the network -/

theorem networkId?_withoutNewline (reply : String) :
    networkId? (withoutNewline reply) = networkId? reply := by
  rw [withoutNewline]
  by_cases newline : reply.toList.getLast? = some '\n'
  · obtain ⟨text, chars⟩ := List.getLast?_eq_some_iff.mp newline
    have blanks : Blanks ['\n'] := by decide
    rw [if_pos newline, networkId?, networkId?, String.toList_ofList, chars,
      List.dropLast_concat, trim_append_blanks text blanks]
  · rw [if_neg newline]

/-- The steps of a configuration are gone through until one goes wrong. -/
theorem run_configure (p : Profile) (channel : σ → String → Outcome × σ) (s : σ) :
    let r := (configure p).run (logged channel) (s, [])
    ∃ id fault, Halts (steps p id) r.2.2 fault ∧ r.1 = fault.elim (.ok id) .error ∧
      ∀ reply n, r.2.2.head?.map Prod.snd = some (.ok reply) → networkId? reply = some n →
        n = id := by
  dsimp only
  rw [configure_eq_inOrder, Dialogue.andThen, Dialogue.run_bind, newNetwork, run_judged]
  cases outcome : (channel s addCommand).1 with
  | error e =>
      refine ⟨0, some e, .wrong _ rfl, rfl, fun reply n said _ => ?_⟩
      cases said
  | ok reply =>
      cases number : networkId? (withoutNewline reply) with
      | none =>
          -- nothing more is sent, so it does not matter which number the plan is about
          have wrong : Step.numbered.fault? (.ok reply) =
              some (.configurationRejected addCommand (withoutNewline reply)) := by
            simp [Step.fault?, Step.numbered, number]
          simp only [Except.bind, number, Dialogue.run_done]
          refine ⟨0, _, .wrong _ wrong, rfl, fun reply' n said other => ?_⟩
          cases said
          rw [← networkId?_withoutNewline, number] at other
          cases other
      | some id =>
          have fine : Step.numbered.fault? (.ok reply) = none := by
            simp [Step.fault?, Step.numbered, number]
          simp only [Except.bind, number]
          -- the other steps are about this number
          obtain ⟨more, fault, halts, said, result⟩ := run_inOrder channel id (orders p id)
            ((channel s addCommand).2, [(addCommand, .ok reply)])
          refine ⟨id, fault, ?_, result, fun reply' n first other => ?_⟩
          · exact said ▸ .accepted fine halts
          · have first : ([(addCommand, Except.ok reply)] ++ more).head?.map Prod.snd =
                some (.ok reply') := said ▸ first
            cases first
            rw [← networkId?_withoutNewline, number] at other
            exact (Option.some.inj other).symm

/-! ### What stays -/

/-- Whoever answers a command, the monitor stays as it is. -/
theorem Rehearsal.monitor_answer (r : Rehearsal) (command : String) :
    (r.answer command).2.monitor = r.monitor := by
  rw [Rehearsal.answer]
  split <;> rfl

theorem Rehearsal.monitor_run (d : Dialogue α) (r : Rehearsal) :
    (d.run answer r).2.monitor = r.monitor := by
  induction d generalizing r with
  | done a => rfl
  | ask command next ih => exact (ih _ _).trans (r.monitor_answer command)

theorem Rehearsal.monitor_talk (r : Rehearsal) (d : Dialogue α) :
    (r.talk d).2.monitor = r.monitor := by
  rw [Rehearsal.talk, Monitor.talk]
  split
  · exact Rehearsal.monitor_run d r
  · rfl

/-! ### The whole configuration -/

/-- **A configuration stops at the first step that goes wrong.** Whatever channel there is, and
whatever it makes of the commands: those that are sent are the first of five, and all but the first
are about the number in the first reply. A command is sent exactly if each before it was accepted,
the first with a number up to 255 that may have blanks around it, the others with `OK` and at most
a newline behind it. The result is the number if all five were accepted, and otherwise what was
wrong with the first that was not. Without a channel nothing is sent. What is known of the link and
what was found by scanning stay as they are. -/
theorem configure_stops_at_fault (p : Profile) (m : Monitor)
    (channel : σ → String → Outcome × σ) (s : σ) :
    let r := m.talk (logged channel) (configure p) (s, [])
    let said := r.2.2
    m.talk channel (configure p) s = (r.1, r.2.1) ∧
    (m.hasControl = false → said = [] ∧ r.1 = .error .notStarted) ∧
    (m.hasControl = true → ∃ id,
      let plan := steps p id
      (∀ reply n, said.head?.map Prod.snd = some (.ok reply) → networkId? reply = some n →
        n = id) ∧
      said.map Prod.fst <+: plan.map Step.command ∧
      (∀ i < plan.length, i < said.length ↔ ∀ j < i, CameOf plan said j none) ∧
      (∀ n, r.1 = .ok n ↔ n = id ∧ ∀ j < plan.length, CameOf plan said j none) ∧
      ∀ e, r.1 = .error e ↔
        ∃ j, (∀ k < j, CameOf plan said k none) ∧ CameOf plan said j (some e)) ∧
    ∀ whole : Rehearsal, (whole.talk (configure p)).2.monitor = whole.monitor := by
  intro r said
  refine ⟨m.talk_overheard _ channel (configure p) (s, []), fun deaf => ?_, fun control => ?_,
    fun whole => whole.monitor_talk _⟩
  · have unheard : r = ((configure p).unheard, (s, [])) := by
      simp only [r, Monitor.talk, deaf, Bool.false_eq_true, if_false]
    exact ⟨congrArg (·.2.2) unheard, congrArg (·.1) unheard⟩
  · have heard : r = (configure p).run (logged channel) (s, []) := if_pos control
    obtain ⟨id, fault, halts, result, number⟩ := run_configure p channel s
    rw [← heard] at halts result number
    refine ⟨id, number, halts.commands, halts.taken_iff, fun n => ?_, fun e => ?_⟩
    · rw [result, ← halts.fine_iff]
      cases fault with
      | none => simp [eq_comm]
      | some e => simp
    · rw [result, ← halts.fault_iff]
      cases fault with
      | none => simp
      | some e' => simp

/-- A network to try the steps out with. -/
def cottage : Profile where
  ssid := ⟨"cottage", by decide, by decide, by decide⟩
  psk := ⟨"correct horse", by decide, by decide, by decide⟩

/-- Replies that are what is expected and that are almost so. -/
def nearMisses : Script := ⟨[some " +7 \n", some "OK\n", some "OK \n", some "OK"], []⟩

/-- A number between blanks is taken and a newline is dropped, but no blank: the third command is
the last. -/
theorem configure_stops_at_fault_near_miss :
    let r := Monitor.ofChannels.talk (logged Script.answer) (configure cottage) (nearMisses, [])
    Monitor.ofChannels.hasControl = true ∧
      r.2.2.map Prod.fst = [addCommand, ssidCommand 7 cottage.ssid, pskCommand 7 cottage.psk] ∧
      r.1 = .error (.configurationRejected "psk" "OK ") := by
  intro r
  obtain ⟨-, -, heard, -⟩ :=
    configure_stops_at_fault cottage .ofChannels Script.answer nearMisses
  obtain ⟨id, number, -, -, -, wrong⟩ := heard rfl
  have seven : 7 = id := number " +7 \n" 7 rfl (by decide)
  subst seven
  refine ⟨rfl, rfl, (wrong _).mpr ⟨2, ?_, _, _, .ok "OK \n", rfl, rfl, rfl⟩⟩
  rw [Nat.forall_lt_succ_left, Nat.forall_lt_succ_left]
  refine ⟨⟨_, _, .ok " +7 \n", rfl, rfl, rfl⟩, ⟨_, _, .ok "OK\n", rfl, rfl, rfl⟩, ?_⟩
  exact fun k below => absurd below (Nat.not_lt_zero k)

end WifiStation.Supplicant
