import WifiStation.Proofs.Dhcp.Server

/-!
# WifiStation.Proofs.Dhcp.Ledger

A server that keeps one map, and why its answers are those of the server with three indexes.

A `Ledger` maps a client to its address and expiry and never looks at the clock to tidy up: an
entry whose time is over stays where it is and counts for nothing. The ledger's answers are written
out without any of the server's functions, so they are the specification that `answers_eq_ledger`
holds the server to, packet by packet.

The simulation relation `Server.Simulates` says that table and ledger have the same live bindings.
Eager and lazy expiry differ in when an entry disappears, not in which entries are live, and an
entry that is not live at one time is not live later; this is where time has to move forward.
-/

namespace WifiStation.Dhcp

open WifiStation.Net

/-! ### The ledger -/

/-- The bindings of a server as one map. -/
structure Ledger where
  entries : Keyed Mac Binding

namespace Ledger

/-- No bindings. -/
def empty : Ledger := ⟨.empty⟩

/-- The entry of a client, unless its time is over. -/
def live (l : Ledger) (now : Nat) (client : Mac) : Option Binding :=
  (l.entries.get? client).filter (now < ·.expiresAt)

/-- Whether a live entry uses an address. -/
def inUse (l : Ledger) (now : Nat) (addr : Ipv4) : Bool :=
  l.entries.entries.any fun e => e.2.addr == addr && decide (now < e.2.expiresAt)

/-- Enters an address for a client, in place of what stood there. -/
def record (l : Ledger) (client : Mac) (addr : Ipv4) (expiresAt : Nat) : Ledger :=
  ⟨l.entries.insert client ⟨addr, expiresAt⟩⟩

/-- Strikes the entry of a client. -/
def strike (l : Ledger) (client : Mac) : Ledger := ⟨l.entries.erase client⟩

/-- An OFFER or an ACK of an address. -/
def granting (pool : Pool) (p : Packet) (kind : Kind) (addr : Ipv4) : Packet :=
  { direction := .reply, xid := p.xid, flags := p.flags, yiaddr := addr, siaddr := pool.serverId
    giaddr := p.giaddr, chaddr := p.chaddr
    options :=
      { kind := some kind, subnetMask := some pool.subnetMask, routers := [pool.gateway]
        leaseSecs := some pool.advertisedSecs, serverId := some pool.serverId } }

/-- A NAK. -/
def refusing (pool : Pool) (p : Packet) : Packet :=
  { direction := .reply, xid := p.xid, flags := p.flags, giaddr := p.giaddr, chaddr := p.chaddr
    options := { kind := some .nak, serverId := some pool.serverId } }

/-- The address a REQUEST asks for. -/
def requested (p : Packet) : Option Ipv4 :=
  match p.options.requestedAddr with
  | some addr => some addr
  | none => if p.ciaddr = .zero then none else some p.ciaddr

/-- Whether a REQUEST is for this server: it names it or names none. -/
def isHere (pool : Pool) (p : Packet) : Bool :=
  p.options.serverId == none || p.options.serverId == some pool.serverId

/-- Whether a client may have an address: it is its live one, or it has none and the address is
one of the pool that no live entry uses. -/
def admits (pool : Pool) (l : Ledger) (now : Nat) (client : Mac) (addr : Ipv4) : Bool :=
  match l.live now client with
  | some b => addr == b.addr
  | none => pool.contains addr && !l.inUse now addr

/-- Handles one packet at a time. -/
def step (pool : Pool) (l : Ledger) (p : Packet) (now : Nat) : Ledger × Option Packet :=
  if p.direction = .request then
    match p.options.kind with
    | some .discover =>
      match l.live now p.chaddr with
      | some b =>
        (l.record p.chaddr b.addr (max b.expiresAt (now + 60000)),
          some (granting pool p .offer b.addr))
      | none =>
        match pool.addresses.find? fun addr => !l.inUse now addr with
        | some addr =>
          (l.record p.chaddr addr (now + 60000), some (granting pool p .offer addr))
        | none => (l, none)
    | some .request =>
      if isHere pool p then
        match (requested p).filter (l.admits pool now p.chaddr) with
        | some addr =>
          (l.record p.chaddr addr (now + pool.leaseMs), some (granting pool p .ack addr))
        | none => (l, some (refusing pool p))
      else (l.strike p.chaddr, none)
    | some .release | some .decline => (l.strike p.chaddr, none)
    | _ => (l, none)
  else (l, none)

/-- Handles packets one after the other and collects the answers, one place per packet. -/
def run (pool : Pool) (l : Ledger) : List (Packet × Nat) → Ledger × List (Option Packet)
  | [] => (l, [])
  | (p, now) :: rest =>
    let step := l.step pool p now
    let others := run pool step.1 rest
    (others.1, step.2 :: others.2)

/-! ### The live entries after each operation -/

theorem live_record (l : Ledger) (now : Nat) (client m : Mac) (addr : Ipv4) (expiresAt : Nat) :
    (l.record client addr expiresAt).live now m =
      if m = client then (some ⟨addr, expiresAt⟩ : Option Binding).filter (now < ·.expiresAt)
      else l.live now m := by
  rw [live, record, Keyed.get?_insert]
  split <;> rfl

theorem live_strike (l : Ledger) (now : Nat) (client m : Mac) :
    (l.strike client).live now m = if m = client then none else l.live now m := by
  rw [live, strike, Keyed.get?_erase]
  split <;> rfl

/-- An address is in use exactly when it is some client's live one. -/
theorem inUse_iff (l : Ledger) (now : Nat) (addr : Ipv4) :
    l.inUse now addr = true ↔ ∃ m b, l.live now m = some b ∧ b.addr = addr := by
  rw [inUse, Keyed.any_entries_iff]
  constructor
  · rintro ⟨m, b, hb, ht⟩
    obtain ⟨ha, hl⟩ := Bool.and_eq_true_iff.mp ht
    exact ⟨m, b, Option.filter_eq_some_iff.mpr ⟨hb, hl⟩, by simpa using ha⟩
  · rintro ⟨m, b, hb, ha⟩
    obtain ⟨hb, hl⟩ := Option.filter_eq_some_iff.mp hb
    exact ⟨m, b, hb, Bool.and_eq_true_iff.mpr ⟨by simpa using ha, hl⟩⟩

/-! ### Readings of a REQUEST -/

theorem requested_eq (p : Packet) : requested p = p.wantedAddr := by
  rw [requested, Packet.wantedAddr]
  cases p.options.requestedAddr <;> rfl

/-- A REQUEST for this server is one that does not give the client's address up. -/
theorem isHere_eq (pool : Pool) {p : Packet} (dir : p.direction = .request)
    (kind : p.options.kind = some .request) :
    isHere pool p = !decide (p.GivesUp pool.serverId) := by
  cases hs : p.options.serverId with
  | none => simp [isHere, Packet.GivesUp, dir, kind, hs]
  | some id =>
      rw [Bool.eq_iff_iff]
      simp [isHere, Packet.GivesUp, dir, kind, hs]

end Ledger

/-! ### The two questions a ledger answers -/

namespace Ledger

theorem step_discover (pool : Pool) (l : Ledger) {p : Packet} (now : Nat)
    (dir : p.direction = .request) (kind : p.options.kind = some .discover) :
    l.step pool p now =
      match l.live now p.chaddr with
      | some b =>
        (l.record p.chaddr b.addr (max b.expiresAt (now + offerHoldMs)),
          some (granting pool p .offer b.addr))
      | none =>
        match pool.addresses.find? fun addr => !l.inUse now addr with
        | some addr =>
          (l.record p.chaddr addr (now + offerHoldMs), some (granting pool p .offer addr))
        | none => (l, none) := by
  simp only [step, dir, kind, offerHoldMs, if_true]

theorem step_request (pool : Pool) (l : Ledger) {p : Packet} (now : Nat)
    (dir : p.direction = .request) (kind : p.options.kind = some .request)
    (stay : ¬ p.GivesUp pool.serverId) :
    l.step pool p now =
      match p.wantedAddr.filter (l.admits pool now p.chaddr) with
      | some addr =>
        (l.record p.chaddr addr (now + pool.leaseMs), some (granting pool p .ack addr))
      | none => (l, some (refusing pool p)) := by
  have here : isHere pool p = true := by simp [isHere_eq pool dir kind, stay]
  simp only [step, dir, kind, here, requested_eq, if_true]

theorem step_givesUp (pool : Pool) (l : Ledger) {p : Packet} (now : Nat)
    (up : p.GivesUp pool.serverId) : l.step pool p now = (l.strike p.chaddr, none) := by
  have dir := up.1
  rcases up.2 with kind | kind | ⟨kind, -⟩
  · simp [step, dir, kind]
  · simp [step, dir, kind]
  · have away : isHere pool p = false := by simp [isHere_eq pool dir kind, up]
    simp [step, dir, kind, away]

end Ledger

/-! ### The simulation -/

namespace Server

/-- What is over at one time is over later. -/
theorem filter_filter_live (o : Option Binding) {t now : Nat} (later : t ≤ now) :
    (o.filter (t < ·.expiresAt)).filter (now < ·.expiresAt) = o.filter (now < ·.expiresAt) := by
  cases o with
  | none => rfl
  | some b =>
      by_cases hn : now < b.expiresAt
      · simp [Option.filter, hn, Nat.lt_of_le_of_lt later hn]
      · by_cases ht : t < b.expiresAt <;> simp [Option.filter, hn, ht]

/-- Table and ledger have the same live bindings at a time. -/
structure Simulates (s : Server) (l : Ledger) (now : Nat) : Prop where
  consistent : s.table.Consistent
  live : ∀ m, (s.table.get? m).filter (now < ·.expiresAt) = l.live now m

namespace Simulates

theorem empty (pool : Pool) (now : Nat) : (ofPool pool).Simulates .empty now :=
  ⟨LeaseTable.Consistent.empty, fun _ => rfl⟩

/-- The relation outlasts the passing of time. -/
theorem later {s : Server} {l : Ledger} {t now : Nat} (h : s.Simulates l t) (later : t ≤ now) :
    s.Simulates l now := by
  -- both sides lose the same bindings between the two times
  refine ⟨h.consistent, ?_⟩
  intro m
  have := congrArg (Option.filter fun b : Binding => now < b.expiresAt) (h.live m)
  rwa [filter_filter_live _ later, Ledger.live, filter_filter_live _ later] at this

variable {s : Server} {l : Ledger} {now : Nat}

theorem get?_sweep (h : s.Simulates l now) (m : Mac) :
    (s.sweep now).table.get? m = l.live now m := by
  rw [← h.live m]
  exact LeaseTable.get?_expire h.consistent.toTimed now m

theorem sweep (h : s.Simulates l now) : (s.sweep now).Simulates l now := by
  refine ⟨h.consistent.expire now, ?_⟩
  intro m
  rw [h.get?_sweep, Ledger.live, filter_filter_live _ (Nat.le_refl now)]

theorem bindTo (h : s.Simulates l now) {client : Mac} {addr : Ipv4} (expiresAt : Nat)
    (hc : (s.bindTo client addr expiresAt).table.Consistent) :
    (s.bindTo client addr expiresAt).Simulates (l.record client addr expiresAt) now := by
  refine ⟨hc, ?_⟩
  intro m
  rw [Server.bindTo, LeaseTable.get?_bind, Ledger.live_record, ← h.live m]
  split <;> rfl

theorem free (h : s.Simulates l now) (client : Mac) :
    (s.free client).Simulates (l.strike client) now := by
  refine ⟨h.consistent.release client, ?_⟩
  intro m
  rw [Server.free, LeaseTable.get?_release, Ledger.live_strike, ← h.live m]
  split <;> rfl

/-- The index of addresses knows exactly the addresses in use. -/
theorem holder_isNone (h : s.Simulates l now) (addr : Ipv4) :
    ((s.sweep now).table.holder addr).isNone = !l.inUse now addr := by
  rw [Bool.eq_iff_iff, Option.isNone_iff_eq_none, h.sweep.consistent.holder_eq_none_iff,
    Bool.not_eq_true', Bool.eq_false_iff, ne_eq, Ledger.inUse_iff]
  constructor
  · rintro hall ⟨m, b, hb, ha⟩
    exact hall m b ((h.get?_sweep m).trans hb) ha
  · intro hno m b hb ha
    exact hno ⟨m, b, (h.get?_sweep m).symm.trans hb, ha⟩

theorem firstFree_sweep (h : s.Simulates l now) :
    (s.sweep now).table.firstFree s.pool =
      s.pool.addresses.find? fun addr => !l.inUse now addr := by
  rw [LeaseTable.firstFree_eq_find?]
  congr 1
  funext addr
  exact h.holder_isNone addr

theorem mayGrant_sweep (h : s.Simulates l now) (client : Mac) (addr : Ipv4) :
    (s.sweep now).mayGrant client addr = l.admits s.pool now client addr := by
  rw [mayGrant, Ledger.admits, h.get?_sweep client]
  cases l.live now client with
  | some b => rfl
  | none => exact congrArg (s.pool.contains addr && ·) (h.holder_isNone addr)

end Simulates

/-- Whatever comes of a packet, the ledger gives the same answer and stays related. -/
theorem Outcome.simulated {s s' : Server} {p : Packet} {now : Nat} {r : Option Packet}
    {l : Ledger} (h : Outcome s p now s' r) (hl : s.Simulates l now) :
    r = (l.step s.pool p now).2 ∧ s'.Simulates (l.step s.pool p now).1 now := by
  have hc : s'.table.Consistent := h.consistent hl.consistent
  cases h with
  | ignored dir =>
      have step : l.step s.pool p now = (l, none) := by simp [Ledger.step, dir]
      rw [step]
      exact ⟨rfl, hl⟩
  | unasked dir kind =>
      have step : l.step s.pool p now = (l, none) := by
        rw [Ledger.step, if_pos dir]
        split <;> simp_all
      rw [step]
      exact ⟨rfl, hl.sweep⟩
  | exhausted dir kind new full =>
      rw [hl.get?_sweep] at new
      rw [hl.firstFree_sweep] at full
      rw [Ledger.step_discover s.pool l now dir kind, new, full]
      exact ⟨rfl, hl.sweep⟩
  | refused dir kind stay denied =>
      have none_admitted : p.wantedAddr.filter (l.admits s.pool now p.chaddr) = none := by
        rw [Option.filter_eq_none_iff]
        intro addr ha
        rw [← hl.mayGrant_sweep, denied addr ha]
        exact Bool.false_ne_true
      rw [Ledger.step_request s.pool l now dir kind stay, none_admitted]
      exact ⟨rfl, hl.sweep⟩
  | released up =>
      rw [Ledger.step_givesUp s.pool l now up]
      exact ⟨rfl, hl.sweep.free p.chaddr⟩
  | renewed b kind expiresAt dir stay own term =>
      have step : l.step s.pool p now =
          (l.record p.chaddr b.addr expiresAt, some (s.grant p kind b.addr)) := by
        have admitted := hl.mayGrant_sweep p.chaddr b.addr
        rw [mayGrant, own] at admitted
        rw [hl.get?_sweep] at own
        rcases term with ⟨hk, rfl, rfl⟩ | ⟨hk, rfl, hw, rfl⟩
        · rw [Ledger.step_discover s.pool l now dir hk, own]
          rfl
        · have hf : p.wantedAddr.filter (l.admits s.pool now p.chaddr) = some b.addr := by
            rw [Option.filter_eq_some_iff, ← admitted]
            exact ⟨hw, beq_self_eq_true b.addr⟩
          rw [Ledger.step_request s.pool l now dir hk stay, hf]
          rfl
      rw [step]
      exact ⟨rfl, hl.sweep.bindTo expiresAt hc⟩
  | assigned addr kind expiresAt dir stay new unheld term =>
      have step : l.step s.pool p now =
          (l.record p.chaddr addr expiresAt, some (s.grant p kind addr)) := by
        have admitted := hl.mayGrant_sweep p.chaddr addr
        rw [mayGrant, new, unheld] at admitted
        rw [hl.get?_sweep] at new
        rcases term with ⟨hk, rfl, hfree, rfl⟩ | ⟨hk, rfl, hw, hp, rfl⟩
        · rw [hl.firstFree_sweep] at hfree
          rw [Ledger.step_discover s.pool l now dir hk, new, hfree]
          rfl
        · have hf : p.wantedAddr.filter (l.admits s.pool now p.chaddr) = some addr := by
            rw [Option.filter_eq_some_iff, ← admitted]
            exact ⟨hw, Bool.and_eq_true_iff.mpr ⟨hp, rfl⟩⟩
          rw [Ledger.step_request s.pool l now dir hk stay, hf]
          rfl
      rw [step]
      exact ⟨rfl, hl.sweep.bindTo expiresAt hc⟩

/-- A related server and ledger answer every chronological run alike. -/
theorem Simulates.run_answers {s : Server} {l : Ledger} {t : Nat} (h : s.Simulates l t)
    (packets : List (Packet × Nat)) (since : ∀ x ∈ packets, t ≤ x.2)
    (chron : Chronological packets) : (s.run packets).2 = (l.run s.pool packets).2 := by
  induction packets generalizing s l t with
  | nil => rfl
  | cons x rest ih =>
      obtain ⟨p, now⟩ := x
      obtain ⟨hnext, hrest⟩ := List.pairwise_cons.mp chron
      -- the relation is carried to the time of the packet, and then through it
      have hl := h.later (since (p, now) List.mem_cons_self)
      obtain ⟨hr, hnow⟩ := (handle_outcome s p now).simulated hl
      have htail := ih hnow hnext hrest
      rw [handle_pool] at htail
      rw [run, Ledger.run, hr, htail]

/-- **One map is enough.** The answers of a server with three indexes and eager expiry are those of
a ledger, for every pool and every chronological run. -/
theorem answers_eq_ledger (pool : Pool) (packets : List (Packet × Nat))
    (chron : Chronological packets) :
    ((ofPool pool).run packets).2 = (Ledger.empty.run pool packets).2 :=
  (Simulates.empty pool 0).run_answers packets (fun _ _ => Nat.zero_le _) chron

/-- An offer that was held for a minute goes to the next client, in the table because it is gone
and in the ledger because it is over. -/
theorem answers_eq_ledger_after_hold :
    let packets := [(Packet.ofClient .discover 1 ⟨2, 0, 0, 0, 0, 10⟩, 0),
      (Packet.ofClient .discover 2 ⟨2, 0, 0, 0, 0, 11⟩, 60000)]
    Chronological packets ∧
      ((ofPool hourPool).run packets).2.map (Option.map Packet.yiaddr) =
        [some (.ofBytes 10 0 0 2), some (.ofBytes 10 0 0 2)] ∧
      ((ofPool hourPool).run packets).2 = (Ledger.empty.run hourPool packets).2 :=
  ⟨by decide, by decide, answers_eq_ledger hourPool _ (by decide)⟩

end Server

end WifiStation.Dhcp
