/-!
# WifiStation.Proofs.Runs

Machines that take one input at a time, and what they put out over a whole run.

A machine is given by its step alone. `runFrom_induction` lifts what a step preserves, of the state
together with everything put out so far, to runs of any length; it is the induction behind the
statements about runs of clients and of the control socket.
-/

namespace WifiStation

variable {State Input Output : Type}

/-- Takes inputs one after the other and collects what is put out. -/
def runFrom (step : State → Input → State × List Output) (s : State) :
    List Input → State × List Output
  | [] => (s, [])
  | input :: rest =>
    let done := step s input
    let others := runFrom step done.1 rest
    (others.1, done.2 ++ others.2)

/-- A run can be taken up where it stopped. -/
theorem runFrom_append (step : State → Input → State × List Output) (s : State)
    (inputs more : List Input) :
    runFrom step s (inputs ++ more) =
      ((runFrom step (runFrom step s inputs).1 more).1,
        (runFrom step s inputs).2 ++ (runFrom step (runFrom step s inputs).1 more).2) := by
  induction inputs generalizing s with
  | nil => rfl
  | cons input rest ih => simp only [List.cons_append, runFrom, ih, List.append_assoc]

/-- Lift a relation between a state and all that was put out before it from one step to runs. -/
theorem runFrom_induction {step : State → Input → State × List Output}
    {motive : State → List Output → Prop}
    (keeps : ∀ s out input, motive s out → motive (step s input).1 (out ++ (step s input).2))
    {s : State} (start : motive s []) (inputs : List Input) :
    motive (runFrom step s inputs).1 (runFrom step s inputs).2 := by
  -- the output of the steps before is an argument of the induction
  have from_any : ∀ (inputs : List Input) (s : State) (out : List Output), motive s out →
      motive (runFrom step s inputs).1 (out ++ (runFrom step s inputs).2) := by
    intro inputs
    induction inputs with
    | nil =>
        intro s out h
        rwa [runFrom, List.append_nil]
    | cons input rest ih =>
        intro s out h
        rw [runFrom, ← List.append_assoc]
        exact ih _ _ (keeps s out input h)
  exact from_any inputs s [] start

end WifiStation
