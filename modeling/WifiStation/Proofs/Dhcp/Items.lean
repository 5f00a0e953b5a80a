import WifiStation.Proofs.Dhcp.Codec

/-!
# WifiStation.Proofs.Dhcp.Items

What stands behind the cookie of a packet, said apart from the loop that reads it.

* `Layout` — every byte string is a sequence of items, pads and complete options, with a tail: the
  end byte and whatever follows it, nothing at all, or an option that is cut off (`exists_layout`).
* `firstFault?` — what is wrong with it, if anything: the first option whose value has a length that
  its code does not allow, or else the cut option at the end.
* `Options.Carries` — the options of a packet, said by how they are written: each is the value of
  the last item with its code. If nothing is wrong, there is one way to carry them
  (`Options.carries_iff`).

The loop keeps the options that the items so far carry: reading one more puts its value in place of
the one its code had (`Options.put?_ofValues`). So what is read from a layout can be said at once
(`decodeFrom_eq`). What has no known code changes neither the first fault nor the last values
(`firstFault?_filter`, `lastValue?_filter`).
-/

namespace WifiStation.Dhcp

open WifiStation.Net WifiStation.Wire

/-! ### Items -/

/-- The codes of the options with a value of four bytes. -/
def wordCodes : List UInt8 := [1, 50, 51, 54]

/-- The codes of the options with addresses, at least one. -/
def listCodes : List UInt8 := [3, 6]

/-- The codes of the options that mean something. -/
def knownCodes : List UInt8 := [53, 55] ++ wordCodes ++ listCodes

/-- The value of a code cannot have this length. -/
def Malformed (code : UInt8) (size : Nat) : Prop :=
  code ∈ wordCodes ∧ size ≠ 4 ∨ code ∈ listCodes ∧ (size = 0 ∨ size % 4 ≠ 0)

instance (code : UInt8) (size : Nat) : Decidable (Malformed code size) :=
  inferInstanceAs (Decidable (_ ∨ _))

/-- What options are made of. -/
inductive Item where
  | pad
  | option (code : UInt8) (value : List UInt8)
  deriving DecidableEq, Repr

namespace Item

def bytes : Item → List UInt8
  | pad => [0]
  | option code value => optionBytes code value

/-- The code is neither that of a pad nor the end byte, and the length byte can say how long the
value is. -/
def Proper : Item → Prop
  | pad => True
  | option code value => Options.IsCode code ∧ value.length ≤ maxValue

instance : (item : Item) → Decidable item.Proper
  | pad => isTrue trivial
  | option _ _ => inferInstanceAs (Decidable (_ ∧ _))

/-- The item is an option that means something. -/
def isKnown : Item → Bool
  | pad => false
  | option code _ => code ∈ knownCodes

/-- The value, if it is that of a code. -/
def value? (code : UInt8) : Item → Option (List UInt8)
  | pad => none
  | option c value => if c = code then some value else none

/-- The values of all codes, with the item behind those that gave them so far. -/
def after (item : Item) (last : UInt8 → Option (List UInt8)) : UInt8 → Option (List UInt8) :=
  fun code => (item.value? code).or (last code)

def fault? : Item → Option PacketError
  | pad => none
  | option code value =>
    if Malformed code value.length then some (.badOption code value.length) else none

end Item

/-- What follows the last item. -/
inductive Tail where
  /-- The end byte, and whatever is behind it. -/
  | fin (rest : List UInt8)
  /-- Nothing more. -/
  | nothing
  /-- An option that is cut off behind its code. -/
  | bare (code : UInt8)
  /-- An option with fewer bytes of its value than the length byte says. -/
  | short (code size : UInt8) (part : List UInt8)
  deriving DecidableEq, Repr

namespace Tail

def bytes : Tail → List UInt8
  | fin rest => 255 :: rest
  | nothing => []
  | bare code => [code]
  | short code size part => code :: size :: part

def Proper : Tail → Prop
  | fin _ | nothing => True
  | bare code => Options.IsCode code
  | short code size part => Options.IsCode code ∧ part.length < size.toNat

instance : (tail : Tail) → Decidable tail.Proper
  | fin _ | nothing => isTrue trivial
  | bare code => inferInstanceAs (Decidable (Options.IsCode code))
  | short _ _ _ => inferInstanceAs (Decidable (_ ∧ _))

def fault? : Tail → Option PacketError
  | fin _ | nothing => none
  | bare code => some (.badOption code 0)
  | short code size _ => some (.badOption code size.toNat)

end Tail

/-- Bytes are items with a tail. -/
structure Layout (bs : List UInt8) (items : List Item) (tail : Tail) : Prop where
  bytes : bs = items.flatMap Item.bytes ++ tail.bytes
  items : ∀ item ∈ items, item.Proper
  tail : tail.Proper

/-- What is wrong first. -/
def firstFault? (items : List Item) (tail : Tail) : Option PacketError :=
  (items.findSome? Item.fault?).or tail.fault?

/-- The value of the last item with a code. -/
def lastValue? (items : List Item) (code : UInt8) : Option (List UInt8) :=
  (items.filterMap (Item.value? code)).getLast?

namespace Layout

theorem of_tail (tail : Tail) (proper : tail.Proper) : Layout tail.bytes [] tail :=
  ⟨rfl, List.forall_mem_nil _, proper⟩

theorem cons (item : Item) {rest : List UInt8} {items : List Item} {tail : Tail}
    (proper : item.Proper) (h : Layout rest items tail) :
    Layout (item.bytes ++ rest) (item :: items) tail where
  bytes := by rw [h.bytes, List.flatMap_cons, List.append_assoc]
  items := List.forall_mem_cons.mpr ⟨proper, h.items⟩
  tail := h.tail

end Layout

/-- All bytes have a layout. -/
theorem exists_layout (bs : List UInt8) : ∃ items tail, Layout bs items tail := by
  induction size : bs.length using Nat.strongRecOn generalizing bs with
  | ind n ih =>
    subst size
    cases bs with
    | nil => exact ⟨[], .nothing, .of_tail .nothing trivial⟩
    | cons code rest =>
        by_cases pad : code = 0
        · obtain ⟨items, tail, layout⟩ := ih _ (Nat.lt_succ_self _) rest rfl
          rw [pad]
          exact ⟨.pad :: items, tail, layout.cons .pad trivial⟩
        by_cases fin : code = 255
        · rw [fin]
          exact ⟨[], .fin rest, .of_tail (.fin rest) trivial⟩
        cases rest with
        | nil => exact ⟨[], .bare code, .of_tail (.bare code) ⟨pad, fin⟩⟩
        | cons size rest =>
            by_cases few : rest.length < size.toNat
            · exact ⟨[], .short code size rest, .of_tail (.short code size rest) ⟨⟨pad, fin⟩, few⟩⟩
            -- a whole option: its value is as long as the length byte says
            have length : (rest.take size.toNat).length = size.toNat :=
              List.length_take_of_le (Nat.le_of_not_lt few)
            have whole : code :: size :: rest =
                (Item.option code (rest.take size.toNat)).bytes ++ rest.drop size.toNat := by
              rw [Item.bytes, optionBytes, length, UInt8.ofNat_toNat, List.cons_append,
                List.cons_append, List.take_append_drop]
            have fits : (rest.take size.toNat).length ≤ maxValue := by
              rw [length]
              exact Nat.le_of_lt_succ size.toNat_lt
            have fewer : (rest.drop size.toNat).length < (code :: size :: rest).length := by
              simp only [List.length_cons, List.length_drop]
              omega
            obtain ⟨items, tail, layout⟩ := ih _ fewer _ rfl
            rw [whole]
            exact ⟨_ :: items, tail, layout.cons (.option code _) ⟨⟨pad, fin⟩, fits⟩⟩

theorem lastValue?_cons (item : Item) (items : List Item) (code : UInt8) :
    lastValue? (item :: items) code = (lastValue? items code).or (item.value? code) := by
  rw [lastValue?, lastValue?, List.filterMap_cons]
  cases item.value? code with
  | none => rw [Option.or_none]
  | some value => cases items.filterMap (Item.value? code) <;> simp [List.getLast?_cons]

/-! ### One value -/

/-- The number of exactly four bytes. -/
def word? : List UInt8 → Option UInt32
  | [a, b, c, d] => some (word32 a b c d)
  | _ => none

theorem addr?_eq_some_iff (value : List UInt8) (a : Ipv4) :
    addr? value = some a ↔ value = a.toBytes := by
  refine ⟨fun h => ?_, fun h => by rw [h, addr?_toBytes]⟩
  match value with
  | [_, _, _, _] =>
      cases h
      exact (Ipv4.toBytes_ofBytes _ _ _ _).symm
  | [] | [_] | [_, _] | [_, _, _] | _ :: _ :: _ :: _ :: _ :: _ => cases h

theorem word?_eq_some_iff (value : List UInt8) (w : UInt32) :
    word? value = some w ↔ value = bytes32 w := by
  constructor
  · intro h
    match value with
    | [_, _, _, _] =>
        cases h
        exact (bytes32_word32 _ _ _ _).symm
    | [] | [_] | [_, _] | [_, _, _] | _ :: _ :: _ :: _ :: _ :: _ => cases h
  · rintro rfl
    exact congrArg some (word32_bytes32 w)

theorem addrs?_eq_some_iff (value : List UInt8) (as : List Ipv4) :
    addrs? value = some as ↔ value = as.flatMap Ipv4.toBytes := by
  refine ⟨fun h => ?_, fun h => by rw [h, addrs?_flatMap_toBytes]⟩
  fun_induction addrs? value generalizing as with
  | case1 =>
      cases h
      rfl
  | case2 a b c d rest ih =>
      obtain ⟨others, hrest, rfl⟩ := Option.map_eq_some_iff.mp h
      rw [List.flatMap_cons, Ipv4.toBytes_ofBytes, ← ih others hrest]
      rfl
  | case3 => cases h

theorem addr?_eq_none_iff (value : List UInt8) : addr? value = none ↔ value.length ≠ 4 := by
  match value with
  | [] | [_] | [_, _] | [_, _, _] | [_, _, _, _] | _ :: _ :: _ :: _ :: _ :: _ => simp [addr?]

theorem word?_eq_none_iff (value : List UInt8) : word? value = none ↔ value.length ≠ 4 := by
  match value with
  | [] | [_] | [_, _] | [_, _, _] | [_, _, _, _] | _ :: _ :: _ :: _ :: _ :: _ => simp [word?]

theorem addrs?_eq_none_iff (value : List UInt8) : addrs? value = none ↔ value.length % 4 ≠ 0 := by
  fun_induction addrs? value with
  | case1 => simp
  | case2 a b c d rest ih =>
      rw [Option.map_eq_none_iff, ih]
      simp only [List.length_cons]
      omega
  | case3 value empty few =>
      rcases value with _ | ⟨a, _ | ⟨b, _ | ⟨c, _ | ⟨d, rest⟩⟩⟩⟩
      · exact absurd rfl empty
      · simp
      · simp
      · simp
      · exact absurd rfl (few a b c d rest)

theorem someAddrs?_eq_none_iff (value : List UInt8) :
    someAddrs? value = none ↔ value.length = 0 ∨ value.length % 4 ≠ 0 := by
  cases value with
  | nil => simp [someAddrs?]
  | cons b rest => simpa [someAddrs?] using addrs?_eq_none_iff (b :: rest)

theorem addrs?_of_someAddrs? {value : List UInt8} {as : List Ipv4}
    (h : someAddrs? value = some as) : addrs? value = some as :=
  (Option.ite_none_left_eq_some.mp h).2

section

variable {α : Type} {read? : List UInt8 → Option α} {write : α → List UInt8}
    (inverse : ∀ value a, read? value = some a ↔ value = write a)

include inverse

/-- A value that can be read is what the result is written as. -/
theorem map_write_eq_iff {value? : Option (List UInt8)}
    (reads : ∀ value, value? = some value → read? value ≠ none) (a : Option α) :
    a.map write = value? ↔ a = value?.bind read? := by
  cases value? with
  | none => simp
  | some value =>
      obtain ⟨b, hb⟩ := Option.ne_none_iff_exists'.mp (reads value rfl)
      rw [Option.bind_some, hb, (inverse value b).mp hb, Option.map_eq_some_iff]
      constructor
      · rintro ⟨a, rfl, same⟩
        rw [← hb, (inverse value b).mp hb, ← same, (inverse _ a).mpr rfl]
      · rintro rfl
        exact ⟨b, rfl, rfl⟩

/-- The same for lists, where no value is as good as an empty one. -/
theorem write_eq_getD_iff {empty : α} (nothing : read? [] = some empty)
    {value? : Option (List UInt8)} (reads : ∀ value, value? = some value → read? value ≠ none)
    (a : α) : write a = value?.getD [] ↔ a = (value?.bind read?).getD empty := by
  have reads' : read? (value?.getD []) = some ((value?.bind read?).getD empty) := by
    cases value? with
    | none => exact nothing
    | some value =>
        obtain ⟨b, hb⟩ := Option.ne_none_iff_exists'.mp (reads value rfl)
        rw [Option.getD_some, Option.bind_some, hb, Option.getD_some]
  rw [eq_comm, ← inverse, reads', Option.some_inj, eq_comm]

end

theorem malformed_word {code : UInt8} (four : code ∈ wordCodes) (size : Nat) :
    Malformed code size ↔ size ≠ 4 := by
  have apart : ∀ c ∈ wordCodes, c ∉ listCodes := by simp [wordCodes, listCodes]
  have other : code ∉ listCodes := apart code four
  simp [Malformed, four, other]

theorem malformed_list {code : UInt8} (several : code ∈ listCodes) (size : Nat) :
    Malformed code size ↔ size = 0 ∨ size % 4 ≠ 0 := by
  have apart : ∀ c ∈ listCodes, c ∉ wordCodes := by simp [wordCodes, listCodes]
  have other : code ∉ wordCodes := apart code several
  simp [Malformed, several, other]

theorem not_malformed {code : UInt8} (word : code ∉ wordCodes) (list : code ∉ listCodes)
    (size : Nat) : ¬ Malformed code size := by
  simp [Malformed, word, list]

theorem not_malformed_of_unknown {code : UInt8} (unknown : code ∉ knownCodes) (size : Nat) :
    ¬ Malformed code size :=
  not_malformed (fun four => unknown (by simp [knownCodes, four]))
    (fun several => unknown (by simp [knownCodes, several])) size

theorem Kind.ofCode?_eq_some_iff (b : UInt8) (kind : Kind) :
    Kind.ofCode? b = some kind ↔ b = kind.code := by
  constructor
  · intro h
    apply UInt8.toNat_inj.mp
    unfold Kind.ofCode? at h
    split at h <;> first | (cases h; assumption) | cases h
  · rintro rfl
    exact Kind.ofCode?_code kind

/-! ### The values of all codes -/

namespace Options

/-- Options with the given value for each code. -/
def ofValues (last : UInt8 → Option (List UInt8)) : Options where
  kind := (last 53).bind fun value => value.head?.bind Kind.ofCode?
  subnetMask := (last 1).bind addr?
  routers := ((last 3).bind addrs?).getD []
  dnsServers := ((last 6).bind addrs?).getD []
  requestedAddr := (last 50).bind addr?
  leaseSecs := (last 51).bind word?
  serverId := (last 54).bind addr?
  parameterRequest := (last 55).getD []

/-- What options carry, by how it is written: the value of each code, and of a message's kind the
first byte, if that is the code of a kind. -/
structure Carries (o : Options) (last : UInt8 → Option (List UInt8)) : Prop where
  kind : ∀ k, o.kind = some k ↔ ∃ more, last 53 = some (k.code :: more)
  subnetMask : o.subnetMask.map Ipv4.toBytes = last 1
  routers : o.routers.flatMap Ipv4.toBytes = (last 3).getD []
  dnsServers : o.dnsServers.flatMap Ipv4.toBytes = (last 6).getD []
  requestedAddr : o.requestedAddr.map Ipv4.toBytes = last 50
  leaseSecs : o.leaseSecs.map bytes32 = last 51
  serverId : o.serverId.map Ipv4.toBytes = last 54
  parameterRequest : o.parameterRequest = (last 55).getD []

/-- Only the codes that mean something are looked at. -/
theorem ofValues_congr {last last' : UInt8 → Option (List UInt8)}
    (same : ∀ code ∈ knownCodes, last code = last' code) : ofValues last = ofValues last' := by
  simp only [ofValues, same 53 (by decide), same 1 (by decide), same 3 (by decide),
    same 6 (by decide), same 50 (by decide), same 51 (by decide), same 54 (by decide),
    same 55 (by decide)]

theorem map_eq_ite {α β : Type} {x : Option α} {f : α → β} {b : β} {bad : Prop} [Decidable bad]
    (fails : x = none ↔ bad) (gives : ∀ a, x = some a → f a = b) :
    x.map f = if bad then none else some b := by
  cases x with
  | none => rw [if_pos (fails.mp rfl), Option.map_none]
  | some a => rw [if_neg (fun h => nomatch fails.mpr h), Option.map_some, gives a rfl]

theorem put?_secs (o : Options) (value : List UInt8) :
    o.put? 51 value = (word? value).map fun secs => { o with leaseSecs := some secs } := by
  match value with
  | [] | [_] | [_, _] | [_, _, _] | [_, _, _, _] | _ :: _ :: _ :: _ :: _ :: _ => rfl

theorem put?_unknown (o : Options) {code : UInt8} (unknown : code ∉ knownCodes)
    (value : List UInt8) : o.put? code value = some o := by
  have apart : code.toNat ∉ knownCodes.map UInt8.toNat := by
    intro h
    obtain ⟨c, known, same⟩ := List.mem_map.mp h
    rw [UInt8.toNat_inj.mp same] at known
    exact unknown known
  rw [put?.eq_def]
  split <;> rename_i same
  case h_9 => rfl
  all_goals exact absurd (by rw [same]; decide) apart

/-- Taking an option into account: its value replaces the one its code had, unless the length is
wrong. -/
theorem put?_ofValues (last : UInt8 → Option (List UInt8)) (code : UInt8) (value : List UInt8) :
    (ofValues last).put? code value =
      if Malformed code value.length then none
      else some (ofValues ((Item.option code value).after last)) := by
  have word {code : UInt8} (four : code ∈ wordCodes) :
      addr? value = none ↔ Malformed code value.length := by
    rw [addr?_eq_none_iff, malformed_word four]
  have list {code : UInt8} (several : code ∈ listCodes) :
      someAddrs? value = none ↔ Malformed code value.length := by
    rw [someAddrs?_eq_none_iff, malformed_list several]
  by_cases known : code ∈ knownCodes
  · simp only [knownCodes, wordCodes, listCodes, List.cons_append, List.nil_append, List.mem_cons,
      List.not_mem_nil, or_false] at known
    rcases known with rfl | rfl | rfl | rfl | rfl | rfl | rfl | rfl
    · rw [if_neg (not_malformed (by decide) (by decide) _)]
      rfl
    · rw [if_neg (not_malformed (by decide) (by decide) _)]
      rfl
    · exact map_eq_ite (word (by decide)) fun a ha => by
        simp [ofValues, Item.after, Item.value?, ha]
    · exact map_eq_ite (word (by decide)) fun a ha => by
        simp [ofValues, Item.after, Item.value?, ha]
    · rw [put?_secs]
      refine map_eq_ite ?_ fun a ha => by simp [ofValues, Item.after, Item.value?, ha]
      rw [word?_eq_none_iff, malformed_word (by decide)]
    · exact map_eq_ite (word (by decide)) fun a ha => by
        simp [ofValues, Item.after, Item.value?, ha]
    · exact map_eq_ite (list (by decide)) fun as has => by
        simp [ofValues, Item.after, Item.value?, addrs?_of_someAddrs? has]
    · exact map_eq_ite (list (by decide)) fun as has => by
        simp [ofValues, Item.after, Item.value?, addrs?_of_someAddrs? has]
  · rw [put?_unknown _ known, if_neg (not_malformed_of_unknown known _)]
    refine congrArg some (ofValues_congr fun c hc => ?_)
    have other : code ≠ c := fun same => known (same ▸ hc)
    rw [Item.after, Item.value?, if_neg other, Option.none_or]

/-! ### Reading a layout -/

@[simp] theorem decodeFrom_pad (o : Options) (rest : List UInt8) :
    o.decodeFrom (0 :: rest) = o.decodeFrom rest := by
  rw [decodeFrom.eq_def]
  exact if_pos rfl

/-- What is read from a tail. -/
theorem decodeFrom_tail (o : Options) {tail : Tail} (proper : tail.Proper) :
    o.decodeFrom tail.bytes = match tail.fault? with
      | some e => .error e
      | none => .ok o := by
  cases tail with
  | fin rest => exact decodeFrom_end o rest
  | nothing => rw [Tail.bytes, decodeFrom.eq_def]; rfl
  | bare code => rw [Tail.bytes, decodeFrom, if_neg proper.1, if_neg proper.2]; rfl
  | short code size part =>
      rw [Tail.bytes, decodeFrom, if_neg proper.1.1, if_neg proper.1.2]
      simp only [if_pos proper.2, Tail.fault?]

/-- What is read from a layout, on top of the values so far. -/
theorem decodeFrom_layout {items : List Item} (proper : ∀ item ∈ items, item.Proper) {tail : Tail}
    (ends : tail.Proper) (last : UInt8 → Option (List UInt8)) :
    (ofValues last).decodeFrom (items.flatMap Item.bytes ++ tail.bytes) =
      match firstFault? items tail with
      | some e => .error e
      | none => .ok (ofValues fun code => (lastValue? items code).or (last code)) := by
  induction items generalizing last with
  | nil => exact decodeFrom_tail _ ends
  | cons item items ih =>
      obtain ⟨here, others⟩ := List.forall_mem_cons.mp proper
      have values : (fun code => (lastValue? (item :: items) code).or (last code)) =
          fun code => (lastValue? items code).or (item.after last code) :=
        funext fun code => by rw [lastValue?_cons, Option.or_assoc, Item.after]
      rw [List.flatMap_cons, List.append_assoc, firstFault?, List.findSome?_cons, values]
      cases item with
      | pad => exact (decodeFrom_pad _ _).trans (ih others _)
      | option code value =>
          rw [Item.bytes, decodeFrom_option here.1 here.2, put?_ofValues, Item.fault?]
          by_cases bad : Malformed code value.length
          · rw [if_pos bad, if_pos bad]
            rfl
          · rw [if_neg bad, if_neg bad]
            exact ih others _

/-! ### What options carry -/

theorem kind_iff (value? : Option (List UInt8)) (kind : Option Kind) :
    (∀ k, kind = some k ↔ ∃ more, value? = some (k.code :: more)) ↔
      kind = value?.bind fun value => value.head?.bind Kind.ofCode? := by
  have first : ∀ k, (value?.bind fun value => value.head?.bind Kind.ofCode?) = some k ↔
      ∃ more, value? = some (k.code :: more) := by
    intro k
    match value? with
    | none | some [] => simp
    | some (b :: rest) => simp [Kind.ofCode?_eq_some_iff]
  constructor
  · intro h
    exact Option.ext fun k => (h k).trans (first k).symm
  · rintro rfl
    exact first

/-- If the values have the lengths they should have, there is one way to carry them. -/
theorem carries_iff {last : UInt8 → Option (List UInt8)}
    (sound : ∀ code value, last code = some value → ¬ Malformed code value.length) (o : Options) :
    o.Carries last ↔ o = ofValues last := by
  have four {code : UInt8} (word : code ∈ wordCodes) {value : List UInt8}
      (h : last code = some value) : value.length = 4 := by
    have := sound code value h
    rwa [malformed_word word, Decidable.not_not] at this
  have addr {code : UInt8} (word : code ∈ wordCodes) (a : Option Ipv4) :
      a.map Ipv4.toBytes = last code ↔ a = (last code).bind addr? :=
    map_write_eq_iff addr?_eq_some_iff
      (fun value h none => (addr?_eq_none_iff value).mp none (four word h)) a
  have secs (w : Option UInt32) : w.map bytes32 = last 51 ↔ w = (last 51).bind word? :=
    map_write_eq_iff word?_eq_some_iff
      (fun value h none => (word?_eq_none_iff value).mp none (four (by decide) h)) w
  have addrs {code : UInt8} (list : code ∈ listCodes) (as : List Ipv4) :
      as.flatMap Ipv4.toBytes = (last code).getD [] ↔ as = ((last code).bind addrs?).getD [] := by
    refine write_eq_getD_iff addrs?_eq_some_iff rfl (fun value h none => ?_) as
    have whole := sound code value h
    rw [malformed_list list] at whole
    exact whole (.inr ((addrs?_eq_none_iff value).mp none))
  constructor
  · intro h
    cases o
    simp only [ofValues, mk.injEq]
    exact ⟨(kind_iff _ _).mp h.kind, (addr (by decide) _).mp h.subnetMask,
      (addrs (by decide) _).mp h.routers, (addrs (by decide) _).mp h.dnsServers,
      (addr (by decide) _).mp h.requestedAddr, (secs _).mp h.leaseSecs,
      (addr (by decide) _).mp h.serverId, h.parameterRequest⟩
  · rintro rfl
    exact
      { kind := (kind_iff _ _).mpr rfl
        subnetMask := (addr (by decide) _).mpr rfl
        routers := (addrs (by decide) _).mpr rfl
        dnsServers := (addrs (by decide) _).mpr rfl
        requestedAddr := (addr (by decide) _).mpr rfl
        leaseSecs := (secs _).mpr rfl
        serverId := (addr (by decide) _).mpr rfl
        parameterRequest := rfl }

end Options

/-- Options are read from a layout as it says. -/
theorem decodeFrom_eq {bs : List UInt8} {items : List Item} {tail : Tail}
    (layout : Layout bs items tail) :
    Options.decodeFrom {} bs = match firstFault? items tail with
      | some e => .error e
      | none => .ok (.ofValues (lastValue? items)) := by
  have values : (fun code => (lastValue? items code).or none) = lastValue? items :=
    funext fun _ => Option.or_none
  rw [layout.bytes, ← values]
  exact Options.decodeFrom_layout layout.items layout.tail fun _ => none

/-- If nothing is wrong, the last value of a code has a length that is right. -/
theorem not_malformed_of_lastValue? {items : List Item} {tail : Tail}
    (sound : firstFault? items tail = none) {code : UInt8} {value : List UInt8}
    (last : lastValue? items code = some value) : ¬ Malformed code value.length := by
  obtain ⟨item, mem, has⟩ := List.mem_filterMap.mp (List.mem_of_getLast? last)
  have fine := List.findSome?_eq_none_iff.mp (Option.or_eq_none_iff.mp sound).1 item mem
  cases item with
  | pad => cases has
  | option c v =>
      obtain ⟨rfl, same⟩ := Option.ite_none_right_eq_some.mp has
      cases same
      intro bad
      rw [Item.fault?, if_pos bad] at fine
      cases fine

/-! ### What makes no difference -/

/-- What has no known code is never wrong. -/
theorem firstFault?_filter (items : List Item) (tail : Tail) :
    firstFault? (items.filter Item.isKnown) tail = firstFault? items tail := by
  have known : ∀ item : Item, item.isKnown = false → item.fault? = none := by
    intro item unknown
    cases item with
    | pad => rfl
    | option code value =>
        exact if_neg (not_malformed_of_unknown (of_decide_eq_false unknown) _)
  rw [firstFault?, firstFault?]
  congr 1
  induction items with
  | nil => rfl
  | cons item items ih =>
      cases h : item.isKnown with
      | true => rw [List.filter_cons_of_pos h, List.findSome?_cons, List.findSome?_cons, ih]
      | false =>
          rw [List.filter_cons_of_neg (by simp [h]), List.findSome?_cons, known item h, ih]

/-- What has no known code is not the value of one. -/
theorem lastValue?_filter (items : List Item) {code : UInt8} (known : code ∈ knownCodes) :
    lastValue? (items.filter Item.isKnown) code = lastValue? items code := by
  have same : (fun item => if item.isKnown then Item.value? code item else none) =
      Item.value? code := by
    funext item
    cases item with
    | pad => rfl
    | option c value =>
        by_cases same : c = code
        · simp [Item.isKnown, same, known]
        · simp [Item.value?, same]
  rw [lastValue?, List.filterMap_filter, same, lastValue?]

end WifiStation.Dhcp
