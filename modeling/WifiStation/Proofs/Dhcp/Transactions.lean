import Mathlib.Data.List.Induction
import WifiStation.Proofs.Dhcp.ClientShape

/-!
# WifiStation.Proofs.Dhcp.Transactions

Each transaction of a client takes one answer at most.

A `Moment` is one input of a client with what came of it, and a `history` is the moments of a run.
A transaction id is picked with a packet that is sent for the first time. While the client waits for
an answer, the packet that it keeps is `Pending`: it was sent for the first time at some moment, and
since then nothing else was sent and nothing that was received made a difference. A packet that
makes a difference (`Moment.heeded?`) is a reply to the pending one, and ends it: the client then
waits for another packet or for none (`Moment.Course`). So replies that were heeded have ids that
were picked before, and the client does not wait for any of these ids again.
-/

namespace WifiStation.Dhcp

open WifiStation.Net

namespace Client

/-! ### Histories -/

/-- The id that a client is given for a transaction, should it begin one. -/
def Input.fresh? : Input → Option UInt32
  | .start _ _ _ fresh | .packet _ _ fresh | .timeout _ fresh => some fresh
  | .stop | .failure => none

/-- One input of a client, and what came of it. -/
structure Moment where
  before : Client
  input : Input
  result : Client × List Action

namespace Moment

/-- The packets that are sent. -/
def sent (m : Moment) : List Packet := m.result.2.filterMap Action.packet?

/-- The packets that are sent for the first time. -/
def opened (m : Moment) : List Packet := m.sent.filter (m.before.outstanding ≠ some ·)

/-- The transaction id that is picked. -/
def picked? (m : Moment) : Option UInt32 := if m.opened = [] then none else m.input.fresh?

/-- The packet that is received, if it makes a difference: the client acts, or changes. -/
def heeded? (m : Moment) : Option Packet :=
  match m.input with
  | .packet p _ _ => if m.result = (m.before, []) then none else some p
  | _ => none

end Moment

/-- All that happens to a client. -/
def history (c : Client) : List Input → List Moment
  | [] => []
  | input :: rest => ⟨c, input, c.step input⟩ :: history (c.step input).1 rest

/-- The transaction ids that are picked in a history. -/
def picks (log : List Moment) : List UInt32 := log.filterMap Moment.picked?

/-- The packets that are heeded in a history. -/
def heeded (log : List Moment) : List Packet := log.filterMap Moment.heeded?

/-- A packet was sent for the first time, and since then nothing else was sent and nothing was
heeded. -/
def Pending (log : List Moment) (q : Packet) : Prop :=
  ∃ earlier m since, log = earlier ++ m :: since ∧ q ∈ m.opened ∧
    ∀ m' ∈ since, m'.heeded? = none ∧ ∀ q' ∈ m'.sent, q' = q

theorem history_snoc (c : Client) (inputs : List Input) (input : Input) :
    c.history (inputs ++ [input]) =
      c.history inputs ++ [⟨(c.run inputs).1, input, (c.run inputs).1.step input⟩] := by
  induction inputs generalizing c with
  | nil => rfl
  | cons first rest ih => exact congrArg _ (ih _)

/-- A moment of a history comes after a run whose history is what was before. -/
theorem exists_run_of_history {c : Client} {inputs : List Input} {before after : List Moment}
    {m : Moment} (h : c.history inputs = before ++ m :: after) :
    ∃ earlier, before = c.history earlier ∧ m.before = (c.run earlier).1 ∧
      m.result = m.before.step m.input := by
  induction before generalizing c inputs with
  | nil =>
      cases inputs with
      | nil => cases h
      | cons input rest =>
          obtain ⟨rfl, -⟩ := List.cons.inj h
          exact ⟨[], rfl, rfl, rfl⟩
  | cons first before ih =>
      cases inputs with
      | nil => cases h
      | cons input rest =>
          obtain ⟨rfl, tail⟩ := List.cons.inj h
          obtain ⟨earlier, rfl, here, result⟩ := ih tail
          exact ⟨input :: earlier, rfl, here, result⟩

/-! ### What a moment can be -/

/-- What a moment is to the transactions of a client. -/
inductive Moment.Course (m : Moment) : Prop where
  /-- A transaction begins. -/
  | opens (q : Packet) (sent : m.sent = [q]) (opened : m.opened = [q])
      (picked : m.picked? = some q.xid) (kept : m.result.1.outstanding = some q)
  /-- The client goes on waiting. -/
  | waits (waits : m.before.Negotiating) (deaf : m.heeded? = none) (picked : m.picked? = none)
      (sent : ∀ q ∈ m.sent, m.before.outstanding = some q)
      (kept : m.result.1.outstanding = m.before.outstanding)
  /-- The client waits for nothing. -/
  | rests (picked : m.picked? = none) (calm : ¬ m.result.1.Negotiating)

namespace Moment

/-- No id is picked for a packet that is sent again. -/
theorem picked?_of_known {m : Moment} (h : ∀ q ∈ m.sent, m.before.outstanding = some q) :
    m.picked? = none := by
  have none_new : m.opened = [] :=
    List.filter_eq_nil_iff.mpr fun q hq new => of_decide_eq_true new (h q hq)
  rw [picked?, if_pos none_new]

/-- What is sent for the first time begins a transaction with the id that was given for it. -/
theorem course_opens {m : Moment} {q : Packet} (sent : m.sent = [q])
    (new : m.before.outstanding ≠ some q) (given : m.input.fresh? = some q.xid)
    (kept : m.result.1.outstanding = some q) : m.Course := by
  have opened : m.opened = [q] := by
    rw [Moment.opened, sent]
    exact List.filter_cons_of_pos (decide_eq_true new)
  refine .opens q sent opened ?_ kept
  rw [picked?, opened, if_neg (List.cons_ne_nil _ _), given]

/-- Where nothing is sent and nothing changes, the client goes on as it was. -/
theorem course_of_same {m : Moment} (same : m.result = (m.before, [])) : m.Course := by
  have known : ∀ q ∈ m.sent, m.before.outstanding = some q := by
    rw [sent, same]
    exact fun _ none => nomatch none
  by_cases waits : m.before.Negotiating
  · refine .waits waits ?_ (picked?_of_known known) known (by rw [same])
    rw [heeded?]
    split
    · exact if_pos same
    · rfl
  · exact .rests (picked?_of_known known) (by rwa [same])

end Moment

/-- A packet that is kept is not of a kind that belongs to another phase. -/
theorem Shape.outstanding_ne {c : Client} (h : c.Shape) {q : Packet} {phase : Phase} {kind : Kind}
    (kinds : q.options.kind = some kind) (here : c.phase = phase)
    (other : ¬ (phase = .discovering ∧ kind = .discover ∨ phase = .requesting ∧ kind = .request)) :
    c.outstanding ≠ some q := by
  intro kept
  refine other ?_
  rcases h.kind_outstanding kept with ⟨at_, same⟩ | ⟨at_, same⟩
  · cases here.symm.trans at_
    cases kinds.symm.trans same
    exact .inl ⟨rfl, rfl⟩
  · cases here.symm.trans at_
    cases kinds.symm.trans same
    exact .inr ⟨rfl, rfl⟩

theorem sent_dropLease (c : Client) : c.dropLease.2.filterMap Action.packet? = [] := by
  rw [dropLease]
  cases c.lease <;> rfl

/-- A client that is refused sends a new DISCOVER. -/
theorem sent_refused (c : Client) (now : Nat) (fresh : UInt32) :
    (c.dropLease.2 ++ (c.dropLease.1.discover now fresh).2).filterMap Action.packet? =
      [.ofClient .discover fresh c.mac] := by
  rw [List.filterMap_append, sent_dropLease]
  rfl

/-- Every moment of a client in shape begins a transaction, goes on waiting, or waits for
nothing. -/
theorem Shape.course {c : Client} {input : Input} {r : Client × List Action} (h : c.Shape)
    (change : Change c input r) : Moment.Course ⟨c, input, r⟩ := by
  cases change with
  | started ifindex mac now fresh idle =>
      exact Moment.course_opens rfl (h.outstanding_ne rfl idle (by decide)) rfl rfl
  | stopped => exact .rests rfl (not_negotiating (.inl rfl))
  | failed =>
      by_cases waits : c.Negotiating
      · exact .waits waits rfl rfl (fun _ none => nomatch none) rfl
      · exact .rests rfl waits
  | offered p now fresh server hears phase =>
      exact Moment.course_opens rfl (h.outstanding_ne rfl phase (by decide)) rfl rfl
  | leased => exact .rests rfl (not_negotiating (.inr rfl))
  | refused p now fresh hears phase =>
      exact Moment.course_opens (sent_refused c now fresh)
        (h.outstanding_ne rfl phase (by decide)) rfl rfl
  | renewed now fresh lease due phase =>
      exact Moment.course_opens rfl (h.outstanding_ne rfl phase (by decide)) rfl rfl
  | resent now fresh due waits =>
      have known : ∀ q ∈ (c.outstanding.map Action.send).toList.filterMap Action.packet?,
          c.outstanding = some q := by
        cases c.outstanding with
        | none => exact fun _ none => nomatch none
        | some p => exact fun q same => congrArg some (List.eq_of_mem_singleton same).symm
      exact .waits waits rfl (Moment.picked?_of_known known) known rfl
  | gaveUp now fresh due waits =>
      have known : ∀ q ∈ { c with failed := true, deadline := none }.dropLease.2.filterMap
          Action.packet?, c.outstanding = some q := by
        rw [sent_dropLease]
        exact fun _ none => nomatch none
      exact .waits waits rfl (Moment.picked?_of_known known) known rfl
  | running | resting | ignored | waiting => exact Moment.course_of_same rfl

/-- A packet that is heeded is a reply in the current transaction, and means something there. -/
theorem heeded_expects {c : Client} {input : Input} {r : Client × List Action}
    (change : Change c input r) {p : Packet} (h : (⟨c, input, r⟩ : Moment).heeded? = some p) :
    c.Hears p ∧ c.Expects p := by
  cases change with
  | started | running | stopped | resting | failed | renewed | resent | gaveUp | waiting => cases h
  | offered q now fresh server hears phase kind named =>
      obtain ⟨-, same⟩ := Option.ite_none_left_eq_some.mp h
      cases same
      exact ⟨hears, .inl ⟨phase, kind, by rw [named]; rfl⟩⟩
  | leased q now fresh hears phase kind =>
      obtain ⟨-, same⟩ := Option.ite_none_left_eq_some.mp h
      cases same
      exact ⟨hears, .inr ⟨phase, .inl kind⟩⟩
  | refused q now fresh hears phase kind =>
      obtain ⟨-, same⟩ := Option.ite_none_left_eq_some.mp h
      cases same
      exact ⟨hears, .inr ⟨phase, .inr kind⟩⟩
  | ignored q now fresh =>
      obtain ⟨other, -⟩ := Option.ite_none_left_eq_some.mp h
      exact absurd rfl other

theorem Expects.negotiating {c : Client} {p : Packet} (h : c.Expects p) : c.Negotiating :=
  h.imp And.left And.left

/-- An address is configured for an ACK that is heeded, and nothing is sent then. -/
theorem heeded_of_configures {c : Client} {input : Input} {r : Client × List Action}
    (change : Change c input r) (configures : r.2.any Action.isConfigure = true) :
    (⟨c, input, r⟩ : Moment).sent = [] ∧
      ∃ p, (⟨c, input, r⟩ : Moment).heeded? = some p ∧ p.options.kind = some .ack := by
  rcases change.lease with ⟨p, now, fresh, rfl, hears, phase, kind, -, -⟩ | ⟨-, none⟩
  · cases change with
    | offered _ _ _ _ _ discovering => cases phase.symm.trans discovering
    | leased =>
        have acts : c.configure p now ≠ (c, []) := fun same =>
          List.cons_ne_nil _ _ (congrArg Prod.snd same)
        exact ⟨rfl, p, if_neg acts, kind⟩
    | refused _ _ _ _ _ nak => cases kind.symm.trans nak
    | ignored _ _ _ deaf => exact absurd ⟨hears, .inr ⟨phase, .inl kind⟩⟩ deaf
  · cases configures.symm.trans none

/-! ### Whole runs -/

theorem picks_snoc (log : List Moment) (m : Moment) :
    picks (log ++ [m]) = picks log ++ m.picked?.toList := by
  rw [picks, List.filterMap_append]
  cases h : m.picked? <;> simp [picks, h]

theorem heeded_snoc (log : List Moment) (m : Moment) :
    heeded (log ++ [m]) = heeded log ++ m.heeded?.toList := by
  rw [heeded, List.filterMap_append]
  cases h : m.heeded? <;> simp [heeded, h]

theorem Pending.snoc {log : List Moment} {q : Packet} (h : Pending log q) {m : Moment}
    (deaf : m.heeded? = none) (sent : ∀ q' ∈ m.sent, q' = q) : Pending (log ++ [m]) q := by
  obtain ⟨earlier, first, since, rfl, opened, quiet⟩ := h
  refine ⟨earlier, first, since ++ [m], by simp, opened, fun m' hm' => ?_⟩
  rcases List.mem_append.mp hm' with old | new
  · exact quiet m' old
  · rw [List.mem_singleton.mp new]
    exact ⟨deaf, sent⟩

/-- The packet that a waiting client keeps has the id of the current transaction. -/
theorem Shape.xid {c : Client} (h : c.Shape) (phase : c.Negotiating) {q : Packet}
    (kept : c.outstanding = some q) : q.xid = c.xid := by
  obtain ⟨p, waits⟩ := h.of_negotiating phase
  cases kept.symm.trans waits.outstanding
  exact waits.xid

/-- What a client and its history have to do with each other. -/
structure Tracks (c : Client) (log : List Moment) : Prop where
  budget : 1 ≤ c.maxAttempts
  shape : c.Shape
  pending : c.Negotiating → ∃ q, c.outstanding = some q ∧ Pending log q ∧ q.xid ∈ picks log
  /-- If no id was picked twice, the client does not wait for one that was answered. -/
  spent : (picks log).Nodup → ∀ p ∈ heeded log,
    p.xid ∈ picks log ∧ (c.Negotiating → p.xid ≠ c.xid)
  once : (picks log).Nodup → ((heeded log).map Packet.xid).Nodup

theorem tracks_new (maxAttempts retransmitMs : Nat) : (new maxAttempts retransmitMs).Tracks [] where
  budget := Nat.le_max_right _ _
  shape := .idle rfl rfl rfl rfl
  pending waits := absurd waits (not_negotiating (.inl rfl))
  spent _ _ none := nomatch none
  once _ := List.nodup_nil

/-- The packet that is awaited after a moment. -/
theorem Moment.Course.pending {c : Client} {input : Input} {r : Client × List Action}
    {log : List Moment} (course : Moment.Course ⟨c, input, r⟩)
    (before : c.Negotiating → ∃ q, c.outstanding = some q ∧ Pending log q ∧ q.xid ∈ picks log)
    (waits : r.1.Negotiating) :
    ∃ q, r.1.outstanding = some q ∧ Pending (log ++ [⟨c, input, r⟩]) q ∧
      q.xid ∈ picks (log ++ [⟨c, input, r⟩]) := by
  rw [picks_snoc]
  cases course with
  | opens q sent opened picked kept =>
      refine ⟨q, kept, ⟨log, _, [], rfl, ?_, fun _ none => nomatch none⟩, ?_⟩
      · rw [opened]
        exact List.mem_singleton_self q
      · rw [picked]
        exact List.mem_append_right _ (List.mem_singleton_self _)
  | waits waited deaf picked sent kept =>
      obtain ⟨q, outstanding, pending, known⟩ := before waited
      refine ⟨q, kept.trans outstanding, pending.snoc deaf fun q' hq' => ?_,
        List.mem_append_left _ known⟩
      exact Option.some.inj ((sent q' hq').symm.trans outstanding)
  | rests picked calm => exact absurd waits calm

/-- An id that was picked before is not the one that is awaited after a moment, unless it was
awaited before and nothing was heeded. -/
theorem Moment.Course.xid_ne {c : Client} {input : Input} {r : Client × List Action}
    (course : Moment.Course ⟨c, input, r⟩) (shape : c.Shape) (shape' : r.1.Shape)
    {ids : List UInt32} {x : UInt32} (known : x ∈ ids)
    (distinct : (ids ++ (⟨c, input, r⟩ : Moment).picked?.toList).Nodup)
    (other : (⟨c, input, r⟩ : Moment).heeded? = none → c.Negotiating → x ≠ c.xid)
    (waits : r.1.Negotiating) : x ≠ r.1.xid := by
  cases course with
  | opens q sent opened picked kept =>
      rw [picked] at distinct
      rintro rfl
      refine (List.nodup_append.mp distinct).2.2 _ known _ (List.mem_singleton_self _) ?_
      exact (shape'.xid waits kept).symm
  | waits waited deaf picked sent kept =>
      obtain ⟨q, outstanding⟩ := shape.of_negotiating waited
      have same : c.xid = r.1.xid :=
        (shape.xid waited outstanding.outstanding).symm.trans
          (shape'.xid waits (kept.trans outstanding.outstanding))
      rw [← same]
      exact other deaf waited
  | rests picked calm => exact absurd waits calm

/-- Every input keeps a client and its history together. -/
theorem Tracks.step {c : Client} {log : List Moment} (h : c.Tracks log) (input : Input) :
    (c.step input).1.Tracks (log ++ [⟨c, input, c.step input⟩]) := by
  have change := c.step_change input
  generalize c.step input = r at change ⊢
  have shape := change.shape h.budget h.shape
  have course := h.shape.course change
  -- a packet that is heeded is a reply to the pending one
  have awaited : ∀ p, (⟨c, input, r⟩ : Moment).heeded? = some p →
      c.Negotiating ∧ p.xid = c.xid ∧ p.xid ∈ picks log := by
    intro p hp
    obtain ⟨hears, expects⟩ := heeded_expects change hp
    obtain ⟨q, kept, -, known⟩ := h.pending expects.negotiating
    have same : p.xid = q.xid := hears.2.1.trans (h.shape.xid expects.negotiating kept).symm
    exact ⟨expects.negotiating, hears.2.1, same ▸ known⟩
  refine ⟨change.settings.1 ▸ h.budget, shape, course.pending h.pending, ?_, ?_⟩
  · rw [picks_snoc, heeded_snoc]
    intro distinct p hp
    have before := (List.nodup_append.mp distinct).1
    rcases List.mem_append.mp hp with old | new
    · obtain ⟨known, other⟩ := h.spent before p old
      exact ⟨List.mem_append_left _ known,
        course.xid_ne h.shape shape known distinct fun _ => other⟩
    · have hp := Option.mem_toList.mp new
      obtain ⟨-, -, known⟩ := awaited p hp
      refine ⟨List.mem_append_left _ known, course.xid_ne h.shape shape known distinct ?_⟩
      intro deaf
      cases deaf.symm.trans hp
  · rw [picks_snoc, heeded_snoc, List.map_append]
    intro distinct
    have before := (List.nodup_append.mp distinct).1
    refine List.nodup_append.mpr ⟨h.once before, ?_, ?_⟩
    · cases (⟨c, input, r⟩ : Moment).heeded? with
      | none => exact List.nodup_nil
      | some p => exact List.nodup_cons.mpr ⟨List.not_mem_nil, List.nodup_nil⟩
    · rintro _ old _ new rfl
      obtain ⟨p, hp, rfl⟩ := List.mem_map.mp old
      obtain ⟨p', hp', same⟩ := List.mem_map.mp new
      obtain ⟨waits, current, -⟩ := awaited p' (Option.mem_toList.mp hp')
      exact (h.spent before p hp).2 waits (same.symm.trans current)

theorem run_tracks (maxAttempts retransmitMs : Nat) (inputs : List Input) :
    ((new maxAttempts retransmitMs).run inputs).1.Tracks
      ((new maxAttempts retransmitMs).history inputs) := by
  induction inputs using List.reverseRecOn with
  | nil => exact tracks_new maxAttempts retransmitMs
  | append_singleton inputs input ih =>
      rw [run_snoc, history_snoc]
      exact ih.step input

/-! ### Answers -/

/-- A packet that is heeded is a reply to the one that is pending then. -/
theorem pending_of_heeded {maxAttempts retransmitMs : Nat} {inputs : List Input}
    {before after : List Moment} {m : Moment} {p : Packet}
    (split : (new maxAttempts retransmitMs).history inputs = before ++ m :: after)
    (hp : m.heeded? = some p) :
    ∃ q, Pending before q ∧ q.xid = p.xid ∧
      (q.options.kind = some .discover ∧ p.options.kind = some .offer ∨
        q.options.kind = some .request ∧
          (p.options.kind = some .ack ∨ p.options.kind = some .nak)) := by
  obtain ⟨earlier, rfl, here, result⟩ := exists_run_of_history split
  have tracks := run_tracks maxAttempts retransmitMs earlier
  rw [← here] at tracks
  have change := result ▸ m.before.step_change m.input
  obtain ⟨hears, expects⟩ := heeded_expects change hp
  obtain ⟨q, kept, pending, -⟩ := tracks.pending expects.negotiating
  have same : q.xid = p.xid := (tracks.shape.xid expects.negotiating kept).trans hears.2.1.symm
  refine ⟨q, pending, same, ?_⟩
  rcases expects with ⟨phase, offer, -⟩ | ⟨phase, kind⟩
  · rcases tracks.shape.kind_outstanding kept with ⟨-, discover⟩ | ⟨other, -⟩
    · exact .inl ⟨discover, offer⟩
    · cases phase.symm.trans other
  · rcases tracks.shape.kind_outstanding kept with ⟨other, -⟩ | ⟨-, request⟩
    · cases phase.symm.trans other
    · exact .inr ⟨request, kind⟩

/-- What is pending behind a moment that heeded something and sent nothing was sent for the first
time after it. -/
theorem Pending.after {before between : List Moment} {m : Moment} {p q : Packet}
    (h : Pending (before ++ m :: between) q) (heeds : m.heeded? = some p) (silent : m.sent = []) :
    q ∈ between.flatMap Moment.opened := by
  obtain ⟨earlier, first, since, split, opened, quiet⟩ := h
  have other : m ≠ first := by
    rintro rfl
    rw [Moment.opened, silent] at opened
    cases opened
  rcases List.append_eq_append_iff.mp split with ⟨more, -, tail⟩ | ⟨more, -, tail⟩
  · cases more with
    | nil => exact absurd (List.cons.inj tail).1 other
    | cons _ more =>
        rw [(List.cons.inj tail).2]
        exact List.mem_flatMap.mpr ⟨first, by simp, opened⟩
  · cases more with
    | nil => exact absurd (List.cons.inj tail).1.symm other
    | cons _ more =>
        have behind : m ∈ since := by
          rw [(List.cons.inj tail).2]
          simp
        cases (quiet m behind).1.symm.trans heeds

/-- Each transaction is answered once. In every run of a client, if no id is picked twice, no two
packets that make a difference have the same id. A packet that makes a difference is a reply to the
packet that was sent last, in its transaction and of a kind that answers it, and since that packet
was first sent nothing else has made a difference. Between two addresses that are configured, a new
REQUEST is sent. -/
theorem answered_once (maxAttempts retransmitMs : Nat) (inputs : List Input)
    (distinct : (picks ((new maxAttempts retransmitMs).history inputs)).Nodup) :
    let log := (new maxAttempts retransmitMs).history inputs
    ((heeded log).map Packet.xid).Nodup ∧
    (∀ before m after p, log = before ++ m :: after → m.heeded? = some p →
      ∃ q, Pending before q ∧ q.xid = p.xid ∧
        (q.options.kind = some .discover ∧ p.options.kind = some .offer ∨
          q.options.kind = some .request ∧
            (p.options.kind = some .ack ∨ p.options.kind = some .nak))) ∧
    ∀ before m between m' after, log = before ++ m :: (between ++ m' :: after) →
      m.result.2.any Action.isConfigure = true → m'.result.2.any Action.isConfigure = true →
      ∃ q ∈ between.flatMap Moment.opened, q.options.kind = some .request := by
  intro log
  refine ⟨(run_tracks maxAttempts retransmitMs inputs).once distinct,
    fun _ _ _ _ => pending_of_heeded, fun before m between m' after split first second => ?_⟩
  have split' : log = (before ++ m :: between) ++ m' :: after := by
    rw [split, List.append_assoc, List.cons_append]
  obtain ⟨-, -, -, result⟩ := exists_run_of_history split
  obtain ⟨-, -, -, result'⟩ := exists_run_of_history split'
  obtain ⟨silent, p, hp, -⟩ := heeded_of_configures (result ▸ m.before.step_change m.input) first
  obtain ⟨-, p', hp', ack⟩ :=
    heeded_of_configures (result' ▸ m'.before.step_change m'.input) second
  obtain ⟨q, pending, -, ⟨-, offer⟩ | ⟨request, -⟩⟩ := pending_of_heeded split' hp'
  · cases ack.symm.trans offer
  · exact ⟨q, pending.after hp silent, request⟩

/-- An address is acquired and renewed; the offer and both ACKs are replayed, also after the client
was stopped and started again. -/
def replayed : List Input :=
  [.start 5 .zero 0 1, .packet (answerTo .offer 1) 10 2, .packet (answerTo .offer 1) 11 9,
    .packet (answerTo .ack 2) 20 9, .packet (answerTo .ack 2) 21 9, .timeout 1800020 3,
    .packet (answerTo .ack 2) 1800030 9, .packet (answerTo .ack 3) 1800040 9,
    .packet (answerTo .ack 3) 1800050 9, .stop, .packet (answerTo .ack 3) 1800060 9,
    .start 5 .zero 1800070 4, .packet (answerTo .offer 1) 1800080 9]

theorem answered_once_replayed :
    let log := (new 4 3000).history replayed
    picks log = [1, 2, 3, 4] ∧ (heeded log).map Packet.xid = [1, 2, 3] ∧
      ((heeded log).map Packet.xid).Nodup := by
  intro log
  have ids : picks log = [1, 2, 3, 4] := by decide
  have distinct : (picks log).Nodup := by rw [ids]; decide
  obtain ⟨once, -⟩ := answered_once 4 3000 replayed distinct
  exact ⟨ids, by decide, once⟩

end Client

end WifiStation.Dhcp
