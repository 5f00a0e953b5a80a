import WifiStation.Proofs.Runs
import WifiStation.Proofs.Supplicant.LateReply

/-!
# WifiStation.Proofs.Supplicant.ReplyWait

Records that come between the replies, and how long a request waits.

Events may arrive at the socket that commands are sent over. A `TimedChannel` is a control channel
with a clock: commands are sent, datagrams arrive and time goes by, in any order. The timer is set
once, when a command is sent, and a record neither ends the wait nor sets the timer again. So a run
has the same outcomes without the records as with them (`alike_withoutRecords`), no outcome is a
record (`keeps_run`), and the outcome of a request is the first reply that comes in time, or the
failure to get one (`outcome_iff`).

A command counts as sent from the moment at which the socket is drained for it, and a datagram that
arrives when the time is up counts as late.
-/

namespace WifiStation.Supplicant

open WifiStation.Text

/-- A control channel with its timer. -/
structure TimedChannel where
  channel : ControlChannel
  /-- How much time is left for the reply, if a command waits for one. -/
  left : Nat := 0

namespace TimedChannel

/-- What can happen while a channel is used. -/
inductive Happening where
  /-- A command is sent, unless another one waits for its reply. The timer goes off `late`
  milliseconds after it should. -/
  | request (command : String) (late : Nat)
  | arrive (d : Datagram)
  /-- Milliseconds go by. -/
  | pass (ms : Nat)

/-- Something happens at the socket; there is an outcome if it ends the request. -/
def hear (t : TimedChannel) (input : ControlInput) : TimedChannel × List Outcome :=
  let r := t.channel.step input
  ({ t with channel := r.1 }, r.2.toList)

/-- The timer goes off once no time is left. -/
def expire (t : TimedChannel) : TimedChannel × List Outcome :=
  if t.left = 0 then t.hear .timeout else (t, [])

/-- One happening. The timer is set when a command is sent, and never again. -/
def step (t : TimedChannel) : Happening → TimedChannel × List Outcome
  | .request command late =>
    if t.channel.waiting.isSome then (t, [])
    else { (t.hear (.send command)).1 with left := t.channel.timeoutMs + late }.expire
  | .arrive d => t.hear (.arrive d)
  | .pass ms => { t with left := t.left - ms }.expire

/-- A datagram that is a record and no reply. -/
def Happening.isRecord : Happening → Bool
  | arrive d => isEventText d.text
  | _ => false

/-- A datagram that is no record. -/
def Happening.isReply : Happening → Bool
  | arrive d => !isEventText d.text
  | _ => false

/-- The milliseconds that go by with it. -/
def Happening.ms : Happening → Nat
  | pass ms => ms
  | _ => 0

/-- The time that goes by. -/
def elapsed : List Happening → Nat
  | [] => 0
  | x :: rest => x.ms + elapsed rest

/-- What happens, apart from the records that arrive. -/
def withoutRecords (xs : List Happening) : List Happening := xs.filter fun x => !x.isRecord

/-- No reply arrives. -/
def Quiet (xs : List Happening) : Prop := ∀ h ∈ xs, h.isReply = false

/-- A reply comes in time, and it is the first. -/
def Replied (limit : Nat) (xs : List Happening) (text : String) : Prop :=
  ∃ earlier d later, xs = earlier ++ .arrive d :: later ∧ Quiet earlier ∧
    elapsed earlier < limit ∧ isEventText d.text = false ∧ d.text = text

/-- The time is up, and no reply has come. -/
def Expired (limit : Nat) (xs : List Happening) : Prop :=
  ∃ earlier later, xs = earlier ++ later ∧ Quiet earlier ∧ limit ≤ elapsed earlier

/-- A reply comes in time, or the time is up, or neither yet. -/
theorem cases_wait (limit : Nat) (xs : List Happening) :
    (∃ text, Replied limit xs text) ∨ Expired limit xs ∨ Quiet xs ∧ elapsed xs < limit := by
  by_cases expired : Expired limit xs
  · exact .inr (.inl expired)
  have inTime : ∀ earlier later, xs = earlier ++ later → Quiet earlier →
      elapsed earlier < limit := by
    intro earlier later split quiet
    exact Nat.lt_of_not_le fun up => expired ⟨earlier, later, split, quiet, up⟩
  cases found : xs.find? Happening.isReply with
  | none =>
      have quiet : Quiet xs := by simpa [Quiet] using List.find?_eq_none.mp found
      exact .inr (.inr ⟨quiet, inTime xs [] (List.append_nil xs).symm quiet⟩)
  | some h =>
      obtain ⟨reply, earlier, later, split, before⟩ := List.find?_eq_some_iff_append.mp found
      have quiet : Quiet earlier := by simpa [Quiet] using before
      cases h with
      | arrive d =>
          exact .inl ⟨d.text, earlier, d, later, split, quiet, inTime earlier _ split quiet,
            by simpa [Happening.isReply] using reply, rfl⟩
      | request command late => cases reply
      | pass ms => cases reply

/-! ### A wait -/

/-- A command waits for its reply, and there is time left. -/
structure Waits (t : TimedChannel) (command : String) : Prop where
  waiting : t.channel.waiting = some command
  left_pos : 0 < t.left

/-- The failure of a command whose time is up. -/
def noReply (t : TimedChannel) (command : String) : SupplicantError :=
  commandFailure command s!"no reply within {duration t.channel.timeoutMs}"

theorem expire_of_pos {t : TimedChannel} (h : 0 < t.left) : t.expire = (t, []) :=
  if_neg (Nat.ne_of_gt h)

theorem expire_of_zero {t : TimedChannel} {command : String}
    (waiting : t.channel.waiting = some command) (up : t.left = 0) :
    t.expire.2 = [.error (t.noReply command)] := by
  simp [expire, up, hear, ControlChannel.step, waiting, noReply]

theorem step_reply {t : TimedChannel} {command : String} (h : t.Waits command) {d : Datagram}
    (plain : isEventText d.text = false) : (t.step (.arrive d)).2 = [.ok d.text] := by
  simp [step, hear, Line.step_arrive_of_some h.waiting, plain]

/-- While a command waits, time goes by, and records and other requests change nothing. -/
theorem step_quiet {t : TimedChannel} {command : String} (h : t.Waits command) {x : Happening}
    (quiet : x.isReply = false) (inTime : x.ms < t.left) :
    t.step x = ({ t with left := t.left - x.ms }, []) := by
  cases x with
  | request other late => simp [step, h.waiting, Happening.ms]
  | arrive d =>
      have record : isEventText d.text = true := by simpa [Happening.isReply] using quiet
      simp [step, hear, Line.step_arrive_of_some h.waiting, record, Happening.ms]
  | pass ms => exact expire_of_pos (Nat.sub_pos_of_lt inTime)

/-- The time is up with this, and only time can do that. -/
theorem step_up {t : TimedChannel} {command : String} (h : t.Waits command) {x : Happening}
    (up : t.left ≤ x.ms) : (t.step x).2 = [.error (t.noReply command)] := by
  have some_left := h.left_pos
  cases x with
  | pass ms =>
      exact expire_of_zero (t := { t with left := t.left - ms }) h.waiting
        (Nat.sub_eq_zero_of_le up)
  | request other late => exact absurd up (Nat.not_le_of_lt some_left)
  | arrive d => exact absurd up (Nat.not_le_of_lt some_left)

theorem Waits.later {t : TimedChannel} {command : String} (h : t.Waits command) {ms : Nat}
    (inTime : ms < t.left) : Waits { t with left := t.left - ms } command :=
  ⟨h.waiting, Nat.sub_pos_of_lt inTime⟩

theorem run_quiet {t : TimedChannel} {command : String} (h : t.Waits command) {xs : List Happening}
    (quiet : Quiet xs) (inTime : elapsed xs < t.left) :
    runFrom step t xs = ({ t with left := t.left - elapsed xs }, []) := by
  induction xs generalizing t with
  | nil => rfl
  | cons x rest ih =>
      obtain ⟨first, others⟩ := List.forall_mem_cons.mp quiet
      have sum : x.ms + elapsed rest < t.left := inTime
      have now : x.ms < t.left := Nat.lt_of_le_of_lt (Nat.le_add_right _ _) sum
      have onward := ih (h.later now) others (Nat.lt_sub_of_add_lt (by omega))
      rw [runFrom, step_quiet h first now, onward, elapsed, Nat.sub_sub, List.nil_append]

theorem run_replied {t : TimedChannel} {command : String} (h : t.Waits command)
    {xs : List Happening} {text : String} (replied : Replied t.left xs text) :
    (runFrom step t xs).2.head? = some (.ok text) := by
  obtain ⟨earlier, d, later, rfl, quiet, inTime, plain, rfl⟩ := replied
  simp [runFrom_append, run_quiet h quiet inTime, runFrom, step_reply (h.later inTime) plain]

theorem run_expired {t : TimedChannel} {command : String} (h : t.Waits command)
    {xs : List Happening} (expired : Expired t.left xs) :
    (runFrom step t xs).2.head? = some (.error (t.noReply command)) := by
  obtain ⟨earlier, later, rfl, quiet, up⟩ := expired
  induction earlier generalizing t with
  | nil => exact absurd up (Nat.not_le_of_lt h.left_pos)
  | cons x rest ih =>
      obtain ⟨first, others⟩ := List.forall_mem_cons.mp quiet
      have sum : t.left ≤ x.ms + elapsed rest := up
      rw [List.cons_append, runFrom]
      -- the time is up with the first of them, or less time is left for the others
      rcases Nat.lt_or_ge x.ms t.left with now | past
      · have onward := ih (h.later now) others (Nat.sub_le_of_le_add (by omega))
        rw [step_quiet h first now, List.nil_append]
        exact onward
      · rw [step_up h past]
        rfl

/-! ### Records -/

/-- Two channels that differ in what has arrived unread, at most. -/
structure Alike (a b : TimedChannel) : Prop where
  waiting : a.channel.waiting = b.channel.waiting
  timeoutMs : a.channel.timeoutMs = b.channel.timeoutMs
  left : a.left = b.left

theorem Alike.refl (t : TimedChannel) : t.Alike t := ⟨rfl, rfl, rfl⟩

theorem alike_hear {a b : TimedChannel} (h : a.Alike b) (input : ControlInput) :
    (a.hear input).1.Alike (b.hear input).1 ∧ (a.hear input).2 = (b.hear input).2 := by
  cases input with
  | send command => exact ⟨⟨rfl, h.timeoutMs, h.left⟩, rfl⟩
  | arrive d =>
      cases waits : b.channel.waiting with
      | none =>
          have waits' := h.waiting.trans waits
          rw [hear, hear, Line.step_arrive_of_none waits, Line.step_arrive_of_none waits']
          exact ⟨⟨h.waiting, h.timeoutMs, h.left⟩, rfl⟩
      | some command =>
          have waits' := h.waiting.trans waits
          rw [hear, hear, Line.step_arrive_of_some waits, Line.step_arrive_of_some waits']
          split
          · exact ⟨⟨h.waiting, h.timeoutMs, h.left⟩, rfl⟩
          · exact ⟨⟨rfl, h.timeoutMs, h.left⟩, rfl⟩
  | timeout =>
      rw [hear, hear, ControlChannel.step, ControlChannel.step, h.waiting, h.timeoutMs]
      split
      · exact ⟨⟨h.waiting, h.timeoutMs, h.left⟩, rfl⟩
      · exact ⟨⟨rfl, rfl, h.left⟩, rfl⟩

theorem alike_expire {a b : TimedChannel} (h : a.Alike b) :
    a.expire.1.Alike b.expire.1 ∧ a.expire.2 = b.expire.2 := by
  rw [expire, expire, h.left]
  split
  · exact alike_hear h .timeout
  · exact ⟨h, rfl⟩

/-- What has arrived unread has no part in what comes of a step. -/
theorem alike_step {a b : TimedChannel} (h : a.Alike b) (x : Happening) :
    (a.step x).1.Alike (b.step x).1 ∧ (a.step x).2 = (b.step x).2 := by
  cases x with
  | request command late =>
      rw [step, step, h.waiting]
      split
      · exact ⟨h, rfl⟩
      · refine alike_expire ⟨rfl, h.timeoutMs, ?_⟩
        rw [h.timeoutMs]
  | arrive d => exact alike_hear h (.arrive d)
  | pass ms =>
      refine alike_expire ⟨h.waiting, h.timeoutMs, ?_⟩
      rw [h.left]

/-- A record is left unread, or skipped. -/
theorem step_isRecord {x : Happening} (h : x.isRecord = true) (t : TimedChannel) :
    (t.step x).1.Alike t ∧ (t.step x).2 = [] := by
  cases x with
  | request command late => cases h
  | pass ms => cases h
  | arrive d =>
      have record : isEventText d.text = true := h
      cases waits : t.channel.waiting with
      | none =>
          rw [step, hear, Line.step_arrive_of_none waits]
          exact ⟨⟨rfl, rfl, rfl⟩, rfl⟩
      | some command =>
          rw [step, hear, Line.step_arrive_of_some waits, if_pos record]
          exact ⟨⟨rfl, rfl, rfl⟩, rfl⟩

/-- Without the records everything comes out as it does with them. -/
theorem alike_withoutRecords {a b : TimedChannel} (h : a.Alike b) (xs : List Happening) :
    (runFrom step a (withoutRecords xs)).1.Alike (runFrom step b xs).1 ∧
      (runFrom step a (withoutRecords xs)).2 = (runFrom step b xs).2 := by
  induction xs generalizing a b with
  | nil => exact ⟨h, rfl⟩
  | cons x rest ih =>
      cases record : x.isRecord with
      | true =>
          -- only one of the two hears the record, and they are alike still
          obtain ⟨same, silent⟩ := step_isRecord record b
          have onward : a.Alike (b.step x).1 :=
            ⟨h.waiting.trans same.waiting.symm, h.timeoutMs.trans same.timeoutMs.symm,
              h.left.trans same.left.symm⟩
          have bare : withoutRecords (x :: rest) = withoutRecords rest := by
            simp [withoutRecords, record]
          simpa [runFrom, bare, silent] using ih onward
      | false =>
          obtain ⟨onward, outcomes⟩ := alike_step h x
          have bare : withoutRecords (x :: rest) = x :: withoutRecords rest := by
            simp [withoutRecords, record]
          simpa [runFrom, bare, outcomes] using ih onward

/-! ### What every step keeps -/

/-- The time for a reply stays what it is, and no outcome is a record. -/
structure Keeps (timeoutMs : Nat) (t : TimedChannel) (outcomes : List Outcome) : Prop where
  timeoutMs : t.channel.timeoutMs = timeoutMs
  noRecord : ∀ text, .ok text ∈ outcomes → isEventText text = false

theorem keeps_hear (t : TimedChannel) (input : ControlInput) :
    Keeps t.channel.timeoutMs (t.hear input).1 (t.hear input).2 := by
  cases input with
  | send command => exact ⟨rfl, by simp [hear, ControlChannel.step]⟩
  | timeout =>
      rw [hear, ControlChannel.step]
      split
      · exact ⟨rfl, by simp⟩
      · exact ⟨rfl, by simp⟩
  | arrive d =>
      cases waits : t.channel.waiting with
      | none =>
          rw [hear, Line.step_arrive_of_none waits]
          exact ⟨rfl, by simp⟩
      | some command =>
          rw [hear, Line.step_arrive_of_some waits]
          split
          · exact ⟨rfl, by simp⟩
          · rename_i plain
            exact ⟨rfl, by simpa using plain⟩

theorem keeps_expire {t : TimedChannel} {timeoutMs : Nat} (same : t.channel.timeoutMs = timeoutMs) :
    Keeps timeoutMs t.expire.1 t.expire.2 := by
  subst same
  rw [expire]
  split
  · exact keeps_hear t .timeout
  · exact ⟨rfl, by simp⟩

theorem keeps_step (t : TimedChannel) (x : Happening) :
    Keeps t.channel.timeoutMs (t.step x).1 (t.step x).2 := by
  cases x with
  | request command late =>
      rw [step]
      split
      · exact ⟨rfl, by simp⟩
      · exact keeps_expire rfl
  | arrive d => exact keeps_hear t (.arrive d)
  | pass ms => exact keeps_expire rfl

theorem keeps_run (t : TimedChannel) (xs : List Happening) :
    Keeps t.channel.timeoutMs (runFrom step t xs).1 (runFrom step t xs).2 := by
  refine runFrom_induction (fun s out x before => ?_) ⟨rfl, by simp⟩ xs
  have now := keeps_step s x
  refine ⟨now.timeoutMs.trans before.timeoutMs, fun text taken => ?_⟩
  rcases List.mem_append.mp taken with old | new
  · exact before.noRecord text old
  · exact now.noRecord text new

/-! ### A request -/

/-- A request is answered, or its time is up, or it waits still. -/
theorem run_request {t : TimedChannel} (free : t.channel.waiting = none) (command : String)
    (late : Nat) (xs : List Happening) :
    let first := (runFrom step t (.request command late :: xs)).2.head?
    let limit := t.channel.timeoutMs + late
    (∀ text, Replied limit xs text → first = some (.ok text)) ∧
      (Expired limit xs → first = some (.error (t.noReply command))) ∧
      (Quiet xs → elapsed xs < limit → first = none) := by
  intro first limit
  let asked : TimedChannel := { (t.hear (.send command)).1 with left := limit }
  have waiting : asked.channel.waiting = some command := rfl
  have done : t.step (.request command late) = asked.expire := by simp [step, free, asked, limit]
  rcases Nat.eq_zero_or_pos limit with noTime | someTime
  · -- the timer goes off at once
    have up : first = some (.error (t.noReply command)) := by
      simp [first, runFrom, done, expire_of_zero waiting noTime]
      rfl
    refine ⟨?_, fun _ => up, ?_⟩
    · rintro text ⟨earlier, d, later, -, -, inTime, -⟩
      omega
    · intro _ inTime
      omega
  · have waits : asked.Waits command := ⟨waiting, someTime⟩
    have onward : first = (runFrom step asked xs).2.head? := by
      simp [first, runFrom, done, expire_of_pos waits.left_pos]
    rw [onward]
    refine ⟨?_, ?_, ?_⟩
    · intro text replied
      exact run_replied waits replied
    · intro expired
      exact run_expired waits expired
    · intro quiet inTime
      rw [run_quiet waits quiet inTime]
      rfl

/-- The outcome of a request is the first reply that comes in time, or the failure to get one. -/
theorem outcome_iff {t : TimedChannel} (free : t.channel.waiting = none) (command : String)
    (late : Nat) (xs : List Happening) :
    let first := (runFrom step t (.request command late :: xs)).2.head?
    let limit := t.channel.timeoutMs + late
    (∀ text, first = some (.ok text) ↔ Replied limit xs text) ∧
      ∀ e, first = some (.error e) ↔ e = t.noReply command ∧ Expired limit xs := by
  intro first limit
  -- the three ways to wait exclude each other, as their outcomes differ
  obtain ⟨answered, failed, waitsOn⟩ := run_request free command late xs
  refine ⟨fun text => ⟨fun got => ?_, answered text⟩, fun e => ⟨fun got => ?_, ?_⟩⟩
  · rcases cases_wait limit xs with ⟨other, replied⟩ | expired | ⟨quiet, inTime⟩
    · cases (answered other replied).symm.trans got
      exact replied
    · cases (failed expired).symm.trans got
    · cases (waitsOn quiet inTime).symm.trans got
  · rcases cases_wait limit xs with ⟨other, replied⟩ | expired | ⟨quiet, inTime⟩
    · cases (answered other replied).symm.trans got
    · cases (failed expired).symm.trans got
      exact ⟨rfl, expired⟩
    · cases (waitsOn quiet inTime).symm.trans got
  · rintro ⟨rfl, expired⟩
    exact failed expired

/-- The outcome of a request at some place of a run. -/
theorem outcome_at (t : TimedChannel) (before rest : List Happening) :
    (runFrom step t (before ++ rest)).2[(runFrom step t before).2.length]? =
      (runFrom step (runFrom step t before).1 rest).2.head? := by
  rw [runFrom_append, List.getElem?_append_right (Nat.le_refl _), Nat.sub_self,
    List.head?_eq_getElem?]

/-- Records on the control socket have no part in what comes of requests: without them every request
has the same outcome, and no outcome is a record. A request has the first reply that comes in time,
and the failure to get one if the time runs out before. -/
theorem records_unseen (t : TimedChannel) (xs : List Happening) :
    let run := runFrom step t
    let bare := withoutRecords xs
    ((run bare).2 = (run xs).2 ∧ (run bare).1.channel.waiting = (run xs).1.channel.waiting) ∧
      (∀ text, .ok text ∈ (run xs).2 → isEventText text = false) ∧
      ∀ before command late after, xs = before ++ .request command late :: after →
        (run before).1.channel.waiting = none →
          let outcome := (run xs).2[(run before).2.length]?
          let limit := t.channel.timeoutMs + late
          (run bare).2[(run (withoutRecords before)).2.length]? = outcome ∧
            (∀ text, outcome = some (.ok text) ↔ Replied limit after text) ∧
            ∀ e, outcome = some (.error e) ↔
              e = commandFailure command s!"no reply within {duration t.channel.timeoutMs}" ∧
                Expired limit after := by
  intro run bare
  obtain ⟨alike, same⟩ := alike_withoutRecords (Alike.refl t) xs
  refine ⟨⟨same, alike.waiting⟩, (keeps_run t xs).noRecord, ?_⟩
  rintro before command late after rfl free
  constructor
  · -- as many requests have ended before this one
    rw [same, (alike_withoutRecords (Alike.refl t) before).2]
  · have iffs := outcome_iff free command late after
    rw [noReply, (keeps_run t before).timeoutMs] at iffs
    rwa [← outcome_at t before] at iffs

/-- Records that keep coming neither hold up the end of one request nor answer the next. -/
theorem records_unseen_burst :
    let record : Datagram := Utf8.encode "<2>CTRL-EVENT-SCAN-RESULTS ".toList
    let pong : Datagram := Utf8.encode "PONG\n".toList
    let t : TimedChannel := { channel := { timeoutMs := 50 } }
    let before : List Happening :=
      [.request "SCAN" 0, .arrive record, .pass 30, .arrive record, .pass 20]
    let after : List Happening := [.arrive record, .pass 49, .arrive record, .arrive pong]
    let run := runFrom step t
    (run before).1.channel.waiting = none ∧
      (run (before ++ .request "PING" 0 :: after)).2[(run before).2.length]? =
        some (.ok "PONG\n") ∧
      (run (withoutRecords (before ++ .request "PING" 0 :: after))).2[
        (run (withoutRecords before)).2.length]? = some (.ok "PONG\n") := by
  intro record pong t before after run
  have recordText : isEventText record.text = true := by
    rw [Datagram.text_encode (by decide)]
    decide
  have text : pong.text = "PONG\n" := Datagram.text_encode (by decide)
  have plain : isEventText pong.text = false := by
    rw [text]
    decide
  have free : (run before).1.channel.waiting = none := by
    simp only [run, before, t, runFrom, step, hear, expire, ControlChannel.step, recordText]
    simp
  have quiet : Quiet [.arrive record, .pass 49, .arrive record] := by
    simp [Quiet, Happening.isReply, recordText]
  have replied : Replied 50 after "PONG\n" :=
    ⟨[.arrive record, .pass 49, .arrive record], pong, [], rfl, quiet, by decide, plain, text⟩
  obtain ⟨bare, outcome, -⟩ := (records_unseen t _).2.2 before "PING" 0 after rfl free
  have ponged := (outcome "PONG\n").mpr replied
  exact ⟨free, ponged, bare.trans ponged⟩

/-! ### Requests of a channel -/

theorem run_arrivals (t : TimedChannel) (ds : List Datagram) :
    (runFrom step t (ds.map .arrive)).1 = { t with channel := (t.channel.arrivals ds).1 } ∧
      (runFrom step t (ds.map .arrive)).2.head? = (t.channel.arrivals ds).2 := by
  induction ds generalizing t with
  | nil => exact ⟨rfl, rfl⟩
  | cons d rest ih =>
      obtain ⟨channel, outcome⟩ := ih (t.hear (.arrive d)).1
      refine ⟨channel, ?_⟩
      have first : (t.step (.arrive d)).2.head? = (t.channel.step (.arrive d)).2 := by
        simp [step, hear]
      rw [List.map_cons, runFrom, List.head?_append, first]
      exact congrArg _ outcome

/-- A command that datagrams leave without an outcome is left as it was. -/
theorem arrivals_of_none {c : ControlChannel} {command : String} (waits : c.waiting = some command)
    {ds : List Datagram} (h : (c.arrivals ds).2 = none) : (c.arrivals ds).1 = c := by
  induction ds with
  | nil => rfl
  | cons d rest ih =>
      cases record : isEventText d.text with
      | true =>
          have skipped : c.step (.arrive d) = (c, none) := by
            rw [Line.step_arrive_of_some waits, if_pos record]
          rw [ControlChannel.arrivals, skipped] at h ⊢
          exact ih h
      | false =>
          rw [ControlChannel.arrivals, Line.step_arrive_of_some waits, record] at h
          cases h

/-- What a channel makes of a command and of the datagrams that arrive in time is a run. -/
theorem request_eq_run {c : ControlChannel} (free : c.waiting = none)
    (timeout_pos : 0 < c.timeoutMs) (command : String) (arriving : List Datagram) :
    (runFrom step { channel := c }
        (.request command 0 :: (arriving.map .arrive ++ [.pass c.timeoutMs]))).2.head? =
      some (c.request command arriving).1 := by
  let asked : TimedChannel := ⟨(c.step (.send command)).1, c.timeoutMs⟩
  have waits : asked.Waits command := ⟨rfl, timeout_pos⟩
  have sent : step { channel := c } (.request command 0) = (asked, []) := by
    rw [step, if_neg (by simp [free])]
    exact expire_of_pos timeout_pos
  obtain ⟨channel, outcome⟩ := run_arrivals asked arriving
  have opened : (c.step (.send command)).1 = asked.channel := rfl
  rw [runFrom, sent, List.nil_append, runFrom_append, List.head?_append, outcome, channel]
  cases heard : (asked.channel.arrivals arriving).2 with
  | some result => simp only [ControlChannel.request, opened, heard, Option.some_or]
  | none =>
      have same := arrivals_of_none waits.waiting heard
      simp only [ControlChannel.request, opened, heard, Option.none_or, same]
      rw [runFrom, step_up (x := .pass c.timeoutMs) waits (Nat.le_refl _)]
      rfl

/-- Without the records among them the datagrams make the same outcome. -/
theorem request_filter {c : ControlChannel} (free : c.waiting = none)
    (timeout_pos : 0 < c.timeoutMs) (command : String) (arriving : List Datagram) :
    (c.request command (arriving.filter fun d => !isEventText d.text)).1 =
      (c.request command arriving).1 := by
  apply Option.some.inj
  rw [← request_eq_run free timeout_pos, ← request_eq_run free timeout_pos]
  have same := (alike_withoutRecords (Alike.refl { channel := c })
    (.request command 0 :: (arriving.map .arrive ++ [.pass c.timeoutMs]))).2
  rw [← same]
  simp [withoutRecords, Happening.isRecord, List.filter_map, Function.comp_def]

end TimedChannel

end WifiStation.Supplicant
