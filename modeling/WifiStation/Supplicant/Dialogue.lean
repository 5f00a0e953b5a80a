import WifiStation.Supplicant.Error
import WifiStation.Text.Split

/-!
# WifiStation.Supplicant.Dialogue

Talking to the supplicant, one command at a time.

A `Dialogue` is a result, or a command with how to go on from its outcome. It does not say where
the outcomes come from:

* `Dialogue.run` takes them from a channel, whose state it threads through.
* `Dialogue.unheard` is what results without a channel, where no command is sent and each fails.

So what a dialogue sends depends on nothing but the outcomes before it.
-/

namespace WifiStation.Supplicant

open WifiStation.Text

/-- What comes of a command: a text or a failure. -/
abbrev Outcome := Except SupplicantError String

/-- A result, or a command with how to go on from its outcome. -/
inductive Dialogue (α : Type) where
  | done (a : α)
  | ask (command : String) (next : Outcome → Dialogue α)

namespace Dialogue

variable {α β σ ε : Type}

/-- Goes on from a result with another dialogue. -/
def bind : Dialogue α → (α → Dialogue β) → Dialogue β
  | done a, f => f a
  | ask command next, f => ask command fun outcome => (next outcome).bind f

instance : Monad Dialogue where
  pure := done
  bind := bind

/-- Goes on from a success with another dialogue. -/
def andThen (d : Dialogue (Except ε α)) (f : α → Dialogue (Except ε β)) :
    Dialogue (Except ε β) :=
  d.bind fun
    | .ok a => f a
    | .error e => done (.error e)

/-- The result over a channel, which answers a command and changes its state. -/
def run (channel : σ → String → Outcome × σ) : Dialogue α → σ → α × σ
  | done a, s => (a, s)
  | ask command next, s =>
    let r := channel s command
    (next r.1).run channel r.2

/-- The result without a channel. -/
def unheard : Dialogue α → α
  | done a => a
  | ask _ next => (next (.error .notStarted)).unheard

@[simp] theorem run_done (channel : σ → String → Outcome × σ) (a : α) (s : σ) :
    (done a).run channel s = (a, s) := rfl

@[simp] theorem run_bind (channel : σ → String → Outcome × σ) (d : Dialogue α)
    (f : α → Dialogue β) (s : σ) :
    (d.bind f).run channel s = (f (d.run channel s).1).run channel (d.run channel s).2 := by
  induction d generalizing s with
  | done a => rfl
  | ask command next ih => exact ih _ _

end Dialogue

/-! ### Commands -/

/-- The first word of a command, which may be shown; what follows may be secret. -/
def verb (command : String) : String :=
  match word? command.toList with
  | some (w, _) => String.ofList w
  | none => ""

/-- The failure of a command. -/
def commandFailure (command reason : String) : SupplicantError := .command (verb command) reason

/-- Without a newline at the end. -/
def withoutNewline (reply : String) : String :=
  if reply.toList.getLast? = some '\n' then String.ofList reply.toList.dropLast else reply

/-- Sends a command and takes the reply, without a newline at its end if `strip` says so. -/
def send (command : String) (strip : Bool) : Dialogue Outcome :=
  .ask command fun outcome => .done (if strip then outcome.map withoutNewline else outcome)

/-- Sends a command that is to be answered with `OK`. -/
def expectOk (command step : String) : Dialogue (Except SupplicantError Unit) :=
  (send command true).andThen fun reply =>
    .done (if reply = "OK" then .ok () else .error (.configurationRejected step reply))

end WifiStation.Supplicant
