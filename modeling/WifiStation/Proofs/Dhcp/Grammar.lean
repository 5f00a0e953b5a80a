import WifiStation.Proofs.Dhcp.Items

/-!
# WifiStation.Proofs.Dhcp.Grammar

The grammar that whole packets are read by: the header with its fixed fields, each where it is
written (`Packet.HeaderAt`), the cookie, and behind it items with a tail.

* `Packet.Reads` — one constructor for each outcome, in the order in which faults are reported: too
  few bytes, another cookie, a direction there is not, the first fault of the items, a packet.
* `Packet.headerAt_iff` — there is one packet with the fixed fields that stand in a header.
* `Packet.decode_eq_iff` — bytes are read as the grammar says: what it says is read
  (`Packet.Reads.decode`), and it says something about all bytes (`Packet.exists_reads`).
* `Packet.decode_congr` — what has no known code makes no difference, nor has what stands behind the
  end byte.
-/

namespace WifiStation.Dhcp

open WifiStation.Net WifiStation.Wire

namespace Packet

/-! ### The grammar -/

/-- There is room for header and cookie, and the cookie is there. -/
structure Framed (bs : List UInt8) : Prop where
  long : optionsOffset ≤ bs.length
  cookie : (bs.drop headerSize).take 4 = cookie

/-- The fixed fields of a packet, by how they are written and where. -/
structure HeaderAt (p : Packet) (bs : List UInt8) : Prop where
  direction : bs.head? = some p.direction.code
  xid : bytes32 p.xid = (bs.drop 4).take 4
  secs : bytes16 p.secs = (bs.drop 8).take 2
  flags : bytes16 p.flags = (bs.drop 10).take 2
  ciaddr : p.ciaddr.toBytes = (bs.drop 12).take 4
  yiaddr : p.yiaddr.toBytes = (bs.drop 16).take 4
  siaddr : p.siaddr.toBytes = (bs.drop 20).take 4
  giaddr : p.giaddr.toBytes = (bs.drop 24).take 4
  chaddr : p.chaddr.toBytes = (bs.drop 28).take 6

/-- What bytes are read as. -/
inductive Reads (bs : List UInt8) : Except PacketError Packet → Prop where
  | truncated (few : bs.length < optionsOffset) : Reads bs (.error (.truncated bs.length))
  | badCookie (long : optionsOffset ≤ bs.length)
      (other : (bs.drop headerSize).take 4 ≠ cookie) : Reads bs (.error .badCookie)
  | badOp (framed : Framed bs) (code : UInt8) (first : bs.head? = some code)
      (other : code ≠ 1 ∧ code ≠ 2) : Reads bs (.error (.badOp code))
  | badOption (framed : Framed bs) (direction : Direction)
      (first : bs.head? = some direction.code) (items : List Item) (tail : Tail)
      (layout : Layout (bs.drop optionsOffset) items tail) (e : PacketError)
      (fault : firstFault? items tail = some e) : Reads bs (.error e)
  | packet (framed : Framed bs) (items : List Item) (tail : Tail)
      (layout : Layout (bs.drop optionsOffset) items tail)
      (sound : firstFault? items tail = none) (p : Packet) (header : p.HeaderAt bs)
      (options : p.options.Carries (lastValue? items)) : Reads bs (.ok p)

/-! ### The fixed fields -/

/-- The packet with the fixed fields that stand in a header. -/
def ofHeader (bs : List UInt8) (direction : Direction) (options : Options) : Packet :=
  let at' := fun i => bs.getD i 0
  { direction
    xid := word32 (at' 4) (at' 5) (at' 6) (at' 7)
    secs := word16 (at' 8) (at' 9)
    flags := word16 (at' 10) (at' 11)
    ciaddr := addrAt bs 12
    yiaddr := addrAt bs 16
    siaddr := addrAt bs 20
    giaddr := addrAt bs 24
    chaddr := ⟨at' 28, at' 29, at' 30, at' 31, at' 32, at' 33⟩
    options }

theorem take_drop_eq_map {bs : List UInt8} {i n : Nat} (long : i + n ≤ bs.length) :
    (bs.drop i).take n = (List.range n).map fun k => bs.getD (i + k) 0 := by
  refine List.ext_getElem (by simp; omega) fun k hk hk' => ?_
  have inside : i + k < bs.length := by
    simp only [List.length_map, List.length_range] at hk'
    omega
  simp [inside]

theorem bytes32_eq_iff (w : UInt32) (a b c d : UInt8) :
    bytes32 w = [a, b, c, d] ↔ w = word32 a b c d := by
  refine ⟨fun h => ?_, fun h => by rw [h, bytes32_word32]⟩
  exact (Option.some.inj ((word?_eq_some_iff _ w).mpr h.symm)).symm

theorem bytes16_eq_iff (w : UInt16) (a b : UInt8) : bytes16 w = [a, b] ↔ w = word16 a b := by
  refine ⟨fun h => ?_, fun h => by rw [h, bytes16_word16]⟩
  simp only [bytes16, List.cons.injEq, and_true] at h
  rw [← h.1, ← h.2, word16_bytes16]

theorem toBytes_eq_iff (addr : Ipv4) (a b c d : UInt8) :
    addr.toBytes = [a, b, c, d] ↔ addr = .ofBytes a b c d := by
  refine ⟨fun h => ?_, fun h => by rw [h, Ipv4.toBytes_ofBytes]⟩
  exact (Option.some.inj ((addr?_eq_some_iff _ addr).mpr h.symm)).symm

/-- The fixed fields are read where they are written. -/
theorem headerAt_iff {bs : List UInt8} (long : optionsOffset ≤ bs.length) (p : Packet) :
    p.HeaderAt bs ↔
      bs.head? = some p.direction.code ∧ p = ofHeader bs p.direction p.options := by
  have two {i : Nat} (h : i + 2 ≤ optionsOffset) :
      (bs.drop i).take 2 = [bs.getD i 0, bs.getD (i + 1) 0] :=
    take_drop_eq_map (Nat.le_trans h long)
  have four {i : Nat} (h : i + 4 ≤ optionsOffset) : (bs.drop i).take 4 =
      [bs.getD i 0, bs.getD (i + 1) 0, bs.getD (i + 2) 0, bs.getD (i + 3) 0] :=
    take_drop_eq_map (Nat.le_trans h long)
  have mac : (bs.drop 28).take 6 = Mac.toBytes ⟨bs.getD 28 0, bs.getD 29 0, bs.getD 30 0,
      bs.getD 31 0, bs.getD 32 0, bs.getD 33 0⟩ :=
    take_drop_eq_map (Nat.le_trans (by decide) long)
  constructor
  · intro h
    refine ⟨h.direction, ?_⟩
    obtain ⟨direction, xid, secs, flags, ciaddr, yiaddr, siaddr, giaddr, chaddr⟩ := h
    rw [four (by decide), bytes32_eq_iff] at xid
    rw [two (by decide), bytes16_eq_iff] at secs flags
    rw [four (by decide), toBytes_eq_iff] at ciaddr yiaddr siaddr giaddr
    rw [mac] at chaddr
    cases p
    simp only [ofHeader, mk.injEq]
    exact ⟨trivial, xid, secs, flags, ciaddr, yiaddr, siaddr, giaddr,
      Mac.toBytes_injective chaddr, trivial⟩
  · rintro ⟨direction, same⟩
    obtain ⟨_, _, rfl⟩ : ∃ direction options, p = ofHeader bs direction options := ⟨_, _, same⟩
    have addr {i : Nat} (h : i + 4 ≤ optionsOffset) :
        (addrAt bs i).toBytes = (bs.drop i).take 4 :=
      ((toBytes_eq_iff _ _ _ _ _).mpr rfl).trans (four h).symm
    exact
      { direction
        xid := ((bytes32_eq_iff _ _ _ _ _).mpr rfl).trans (four (by decide)).symm
        secs := ((bytes16_eq_iff _ _ _).mpr rfl).trans (two (by decide)).symm
        flags := ((bytes16_eq_iff _ _ _).mpr rfl).trans (two (by decide)).symm
        ciaddr := addr (by decide)
        yiaddr := addr (by decide)
        siaddr := addr (by decide)
        giaddr := addr (by decide)
        chaddr := mac.symm }

/-! ### Reading by the grammar -/

theorem getD_zero_of_head? {bs : List UInt8} {code : UInt8} (first : bs.head? = some code) :
    bs.getD 0 0 = code := by
  cases bs with
  | nil => cases first
  | cons b rest => exact Option.some.inj first

theorem Framed.decode {bs : List UInt8} (h : Framed bs) :
    decode bs = match Direction.ofCode? (bs.getD 0 0) with
      | none => .error (.badOp (bs.getD 0 0))
      | some direction =>
        match Options.decodeFrom {} (bs.drop optionsOffset) with
        | .error e => .error e
        | .ok options => .ok (ofHeader bs direction options) := by
  rw [Packet.decode, if_neg (Nat.not_lt_of_le h.long), if_neg (not_not_intro h.cookie)]
  rfl

theorem Framed.decode_of_first {bs : List UInt8} (h : Framed bs) {direction : Direction}
    (first : bs.head? = some direction.code) :
    Packet.decode bs = match Options.decodeFrom {} (bs.drop optionsOffset) with
      | .error e => .error e
      | .ok options => .ok (ofHeader bs direction options) := by
  rw [h.decode, getD_zero_of_head? first, Direction.ofCode?_code]

theorem Reads.decode {bs : List UInt8} {r : Except PacketError Packet} (h : Reads bs r) :
    Packet.decode bs = r := by
  cases h with
  | truncated few => rw [Packet.decode, if_pos few]
  | badCookie long other => rw [Packet.decode, if_neg (Nat.not_lt_of_le long), if_pos other]
  | badOp framed code first other =>
      rw [framed.decode, getD_zero_of_head? first, Direction.ofCode?, if_neg other.1,
        if_neg other.2]
  | badOption framed direction first items tail layout e fault =>
      rw [framed.decode_of_first first, decodeFrom_eq layout, fault]
  | packet framed items tail layout sound p header options =>
      have right : ∀ code value, lastValue? items code = some value →
          ¬ Malformed code value.length := fun _ _ => not_malformed_of_lastValue? sound
      rw [framed.decode_of_first header.direction, decodeFrom_eq layout, sound]
      rw [Options.carries_iff right] at options
      rw [((headerAt_iff framed.long p).mp header).2, options]
      rfl

/-- The grammar covers all bytes. -/
theorem exists_reads (bs : List UInt8) : ∃ r, Reads bs r := by
  by_cases few : bs.length < optionsOffset
  · exact ⟨_, .truncated few⟩
  have long : optionsOffset ≤ bs.length := Nat.le_of_not_lt few
  by_cases other : (bs.drop headerSize).take 4 = cookie
  case neg => exact ⟨_, .badCookie long other⟩
  have framed : Framed bs := ⟨long, other⟩
  obtain ⟨code, first⟩ : ∃ code, bs.head? = some code := by
    cases bs with
    | nil => exact absurd long (by decide)
    | cons b rest => exact ⟨b, rfl⟩
  by_cases known : code ≠ 1 ∧ code ≠ 2
  · exact ⟨_, .badOp framed code first known⟩
  obtain ⟨direction, rfl⟩ : ∃ direction : Direction, code = direction.code := by
    by_cases one : code = 1
    · exact ⟨.request, one⟩
    · exact ⟨.reply, Decidable.not_not.mp fun two => known ⟨one, two⟩⟩
  obtain ⟨items, tail, layout⟩ := exists_layout (bs.drop optionsOffset)
  cases fault : firstFault? items tail with
  | some e => exact ⟨_, .badOption framed direction first items tail layout e fault⟩
  | none =>
      refine ⟨_, .packet framed items tail layout fault
        (ofHeader bs direction (.ofValues (lastValue? items))) ?_ ?_⟩
      · exact (headerAt_iff long _).mpr ⟨first, rfl⟩
      · exact (Options.carries_iff (fun _ _ => not_malformed_of_lastValue? fault) _).mpr rfl

theorem decode_eq_iff (bs : List UInt8) (r : Except PacketError Packet) :
    decode bs = r ↔ Reads bs r := by
  refine ⟨?_, Reads.decode⟩
  rintro rfl
  obtain ⟨r, reads⟩ := exists_reads bs
  rwa [reads.decode]

/-! ### What makes no difference -/

/-- Nothing but the options depends on what stands behind the cookie. -/
theorem decode_append {head : List UInt8} (size : head.length = optionsOffset)
    (area : List UInt8) :
    decode (head ++ area) = match decode head with
      | .error e => .error e
      | .ok p => match Options.decodeFrom {} area with
        | .error e => .error e
        | .ok options => .ok { p with options } := by
  have long : optionsOffset ≤ (head ++ area).length := by
    rw [List.length_append, size]
    exact Nat.le_add_right _ _
  have cookie_at : ((head ++ area).drop headerSize).take 4 = (head.drop headerSize).take 4 := by
    rw [List.drop_append_of_le_length (by rw [size]; decide), List.take_append_of_le_length]
    rw [List.length_drop, size]
    decide
  by_cases found : (head.drop headerSize).take 4 = cookie
  case neg =>
    rw [(Reads.badCookie long (cookie_at ▸ found)).decode,
      (Reads.badCookie (Nat.le_of_eq size.symm) found).decode]
  have framed : Framed (head ++ area) := ⟨long, cookie_at.trans found⟩
  have alone : Framed head := ⟨Nat.le_of_eq size.symm, found⟩
  have inside {i : Nat} (h : i < optionsOffset) : (head ++ area).getD i 0 = head.getD i 0 := by
    rw [List.getD_eq_getElem?_getD, List.getD_eq_getElem?_getD,
      List.getElem?_append_left (by rwa [size])]
  have fields (direction : Direction) (options : Options) :
      ofHeader (head ++ area) direction options = { ofHeader head direction {} with options } := by
    simp (disch := decide) only [ofHeader, addrAt, inside]
  have nothing : Options.decodeFrom {} (head.drop optionsOffset) = .ok {} := by
    rw [← size, List.drop_length, Options.decodeFrom.eq_def]
  rw [framed.decode, alone.decode, inside (by decide), List.drop_left' size, nothing]
  cases Direction.ofCode? (head.getD 0 0) with
  | none => rfl
  | some direction =>
      cases Options.decodeFrom {} area with
      | error e => rfl
      | ok options => exact congrArg Except.ok (fields direction options)

/-- Items with the same known options among them, and tails with the same fault, are read alike
behind one head. -/
theorem decode_congr {head area area' : List UInt8} {items items' : List Item} {tail tail' : Tail}
    (size : head.length = optionsOffset) (layout : Layout area items tail)
    (layout' : Layout area' items' tail')
    (known : items.filter Item.isKnown = items'.filter Item.isKnown)
    (fault : tail.fault? = tail'.fault?) : decode (head ++ area) = decode (head ++ area') := by
  have first : firstFault? items tail = firstFault? items' tail' := by
    rw [← firstFault?_filter items, ← firstFault?_filter items', known, firstFault?, firstFault?,
      fault]
  have values : Options.ofValues (lastValue? items) = .ofValues (lastValue? items') := by
    refine Options.ofValues_congr fun code hc => ?_
    rw [← lastValue?_filter items hc, ← lastValue?_filter items' hc, known]
  rw [decode_append size, decode_append size, decodeFrom_eq layout, decodeFrom_eq layout', first,
    values]

/-- **Packets are read by the grammar.** Every byte string is read as the grammar says and as
nothing else. Pads and options of unknown codes may stand anywhere between the items, and anything
may stand behind the end byte: none of it makes a difference. -/
theorem decode_iff_reads :
    (∀ bs r, decode bs = r ↔ Reads bs r) ∧
    ∀ (head area area' : List UInt8) (items items' : List Item) (tail tail' : Tail),
      head.length = optionsOffset → Layout area items tail → Layout area' items' tail' →
      items.filter Item.isKnown = items'.filter Item.isKnown → tail.fault? = tail'.fault? →
      decode (head ++ area) = decode (head ++ area') :=
  ⟨decode_eq_iff, fun _ _ _ _ _ _ _ => decode_congr⟩

/-- The header and the cookie of a client's message. -/
def clientHead : List UInt8 := (Packet.ofClient .discover 1 .zero).header ++ cookie

/-- An option of an unknown code, pads, and bytes behind the end byte are passed over; and a value
of three bytes is no server's address. -/
theorem decode_iff_reads_padded :
    let items := [.option 53 [1]]
    let padded := [.pad, .option 12 [99, 97, 109], .option 53 [1], .pad]
    Layout [53, 1, 1, 255] items (.fin []) ∧
      Layout [0, 12, 3, 99, 97, 109, 53, 1, 1, 0, 255, 54] padded (.fin [54]) ∧
      clientHead.length = optionsOffset ∧
      items.filter Item.isKnown = padded.filter Item.isKnown ∧
      decode (clientHead ++ [53, 1, 1, 255]) =
        decode (clientHead ++ [0, 12, 3, 99, 97, 109, 53, 1, 1, 0, 255, 54]) ∧
      decode (clientHead ++ [54, 3, 10, 0, 0]) = .error (.badOption 54 3) := by
  intro items padded
  have layout : Layout [53, 1, 1, 255] items (.fin []) := ⟨rfl, by decide, trivial⟩
  have layout' : Layout [0, 12, 3, 99, 97, 109, 53, 1, 1, 0, 255, 54] padded (.fin [54]) :=
    ⟨rfl, by decide, trivial⟩
  have size : clientHead.length = optionsOffset := by
    rw [clientHead, List.length_append, length_header]
    rfl
  have known : items.filter Item.isKnown = padded.filter Item.isKnown := by decide
  obtain ⟨exactly, alike⟩ := decode_iff_reads
  refine ⟨layout, layout', size, known, alike _ _ _ _ _ _ _ size layout layout' known rfl, ?_⟩
  have area : (clientHead ++ [54, 3, 10, 0, 0]).drop optionsOffset = [54, 3, 10, 0, 0] :=
    List.drop_left' size
  have framed : Framed (clientHead ++ [54, 3, 10, 0, 0]) := by
    refine ⟨by rw [List.length_append, size]; exact Nat.le_add_right _ _, ?_⟩
    rw [clientHead, List.append_assoc, List.drop_left' (length_header _)]
    rfl
  refine (exactly _ _).mpr (.badOption framed .request rfl [.option 54 [10, 0, 0]] .nothing ?_ _ ?_)
  · rw [area]
    exact ⟨rfl, by decide, trivial⟩
  · decide

end Packet

end WifiStation.Dhcp
