import Mathlib.Data.List.Forall2
import WifiStation.Net.Endpoint
import WifiStation.Proofs.Net.MacText
import WifiStation.Proofs.Text.Number

/-!
# WifiStation.Proofs.Net.EndpointText

An address with a colon and a port behind it, as an endpoint.

The dotted form of an address of version 4 is read back, up to the colon (`Ipv4.takeDotted?_render`),
so address and port are an endpoint (`Endpoint.read?_v4`). An address of version 6 begins with a
group, which may be empty, and a colon (`Ipv6.exists_group`); such a text is neither dotted nor in
brackets, and so it is no endpoint, whatever stands behind it (`Endpoint.read?_of_group`).

The shortest text of version 6, two colons, is that of the unspecified address and of no other
(`Ipv6.render_eq_colons_iff`).
-/

namespace WifiStation.Net

open WifiStation.Text

/-! ### Version 4 -/

namespace Ipv4

/-- The numbers of the dotted form, in their order. -/
def octetTexts (a : Ipv4) : List (List Char) := a.toBytes.map fun b => Nat.toDigits 10 b.toNat

theorem octet?_toDigits (b : UInt8) : octet? (Nat.toDigits 10 b.toNat) = some b := by
  have all : ∀ n < 256, octet? (Nat.toDigits 10 n) = some (UInt8.ofNat n) := by decide +kernel
  rw [all b.toNat b.toNat_lt, UInt8.ofNat_toNat]

theorem toList_render (a : Ipv4) : a.render.toList = ['.'].intercalate a.octetTexts := by
  have octet : ∀ b : UInt8, (toString b).toList = Nat.toDigits 10 b.toNat := fun b =>
    toList_toString_nat b.toNat
  have point : (toString ".").toList = ['.'] := rfl
  simp [render, octetTexts, toBytes, octet, point, List.intercalate_cons_cons]

theorem isDigit_of_mem_octetTexts {a : Ipv4} {t : List Char} (ht : t ∈ a.octetTexts) {c : Char}
    (hc : c ∈ t) : isDigit c = true := by
  obtain ⟨b, -, rfl⟩ := List.mem_map.mp ht
  exact isDigit_toDigits b.toNat c hc

theorem pieces_render (a : Ipv4) : pieces '.' a.render.toList = a.octetTexts := by
  rw [pieces_eq_splitOn, toList_render]
  refine List.splitOn_intercalate '.' (fun t ht point => ?_) (by simp [octetTexts, toBytes])
  exact absurd (isDigit_of_mem_octetTexts ht point) (by decide)

/-- The dotted form is digits and points. -/
theorem isDotted_render (a : Ipv4) :
    ∀ c ∈ a.render.toList, (isDigit c || c == '.') = true := by
  intro c hc
  rw [toList_render] at hc
  simp only [octetTexts, toBytes, List.map_cons, List.map_nil, List.intercalate_cons_cons,
    List.intercalate_singleton, List.mem_append, List.mem_singleton] at hc
  have digit := fun b : UInt8 => isDigit_toDigits b.toNat c
  grind

/-- The dotted form is read back, up to a colon behind it. -/
theorem takeDotted?_render (a : Ipv4) (rest : List Char) :
    Ipv6.takeDotted? (a.render.toList ++ ':' :: rest) = some (a, ':' :: rest) := by
  have run : (a.render.toList ++ ':' :: rest).takeWhile (fun c => isDigit c || c == '.') =
      a.render.toList := by
    rw [List.takeWhile_append_of_pos a.isDotted_render, List.takeWhile_cons_of_neg (by decide),
      List.append_nil]
  have length : (a.octetTexts.flatten.length + 3) = a.render.toList.length := by
    rw [toList_render]
    simp only [octetTexts, toBytes, List.map_cons, List.map_nil, List.intercalate_cons_cons,
      List.intercalate_singleton, List.flatten_cons, List.flatten_nil, List.length_append,
      List.length_singleton, List.length_nil]
    omega
  have four : a.octetTexts.take 4 = a.octetTexts := List.take_of_length_le (by simp [octetTexts])
  have bytes : a.octetTexts.mapM octet? = some a.toBytes := by
    rw [mapM_eq_some_iff, octetTexts, List.forall₂_map_left_iff, List.forall₂_same]
    exact fun b _ => octet?_toDigits b
  simp only [Ipv6.takeDotted?, run, pieces_render, four, bytes, toBytes, ofBytes_byte, length,
    List.drop_left]

theorem render_injective {a b : Ipv4} (same : a.render = b.render) : a = b := by
  have back := takeDotted?_render a []
  rw [same, takeDotted?_render b []] at back
  cases back
  rfl

end Ipv4

/-! ### Version 6 -/

namespace Ipv6

theorem isHexDigit_of_mem_toDigits {n : Nat} : ∀ {c : Char}, c ∈ Nat.toDigits 16 n →
    Mac.isHexDigit c = true := by
  induction n using Nat.strongRecOn with
  | ind n ih =>
    intro c hc
    rcases Nat.lt_or_ge n 16 with small | large
    · rw [Nat.toDigits_of_lt_base small, List.mem_singleton] at hc
      rw [hc]
      exact Mac.isHexDigit_digitChar n small
    · rw [Nat.toDigits_of_base_le (by decide) large, List.mem_append, List.mem_singleton] at hc
      rcases hc with hc | rfl
      · exact ih (n / 16) (by omega) hc
      · exact Mac.isHexDigit_digitChar _ (Nat.mod_lt n (by decide))

/-- A group, which may be empty, with a colon behind it. -/
def BeginsGroup (s : List Char) : Prop :=
  ∃ group rest, s = group ++ ':' :: rest ∧ ∀ c ∈ group, Mac.isHexDigit c = true

theorem BeginsGroup.append {s : List Char} (h : BeginsGroup s) (more : List Char) :
    BeginsGroup (s ++ more) := by
  obtain ⟨group, rest, rfl, digits⟩ := h
  exact ⟨group, rest ++ more, by simp, digits⟩

/-- A group is written with at least one digit. -/
theorem toList_groupsText_cons (g : UInt16) (gs : List UInt16) :
    ∃ d digits, (∀ c ∈ d :: digits, Mac.isHexDigit c = true) ∧
      (groupsText (g :: gs)).toList =
        d :: digits ++ if gs = [] then [] else ':' :: (groupsText gs).toList := by
  obtain ⟨d, digits, text⟩ := List.exists_cons_of_ne_nil (Nat.toDigits_ne_nil (n := g.toNat) (b := 16))
  refine ⟨d, digits, fun c hc => isHexDigit_of_mem_toDigits (n := g.toNat) (text ▸ hc), ?_⟩
  have colon : ":".toList = [':'] := rfl
  cases gs with
  | nil => simp [groupsText, groupText, text]
  | cons g' gs => simp [groupsText, groupText, text, colon]

theorem toList_groupsText_eq_nil_iff {gs : List UInt16} : (groupsText gs).toList = [] ↔ gs = [] := by
  cases gs with
  | nil => exact iff_of_true rfl rfl
  | cons g gs =>
      obtain ⟨d, digits, -, text⟩ := toList_groupsText_cons g gs
      simp [text]

/-- Groups with a colon behind them begin with the first of them, or an empty one. -/
theorem beginsGroup_groupsText (gs : List UInt16) (rest : List Char) :
    BeginsGroup ((groupsText gs).toList ++ ':' :: rest) := by
  cases gs with
  | nil => exact ⟨[], rest, rfl, by simp⟩
  | cons g gs =>
      obtain ⟨d, digits, hex, text⟩ := toList_groupsText_cons g gs
      rw [text]
      by_cases last : gs = []
      · exact ⟨d :: digits, rest, by simp [last], hex⟩
      · exact ⟨d :: digits, (groupsText gs).toList ++ ':' :: rest, by simp [last], hex⟩

/-- How an address is written. -/
inductive Written (a : Ipv6) (s : List Char) : Prop
  /-- With a dotted part. -/
  | mapped (dotted : List Char) (text : s = ':' :: ':' :: 'f' :: dotted)
  /-- With two colons for a run of zero groups. -/
  | short (start length : Nat) (run : longestZeros 0 (0, 0) (0, 0) a.groups = (start, length))
      (text : s = (groupsText (a.groups.take start)).toList ++
        ':' :: ':' :: (groupsText (a.groups.drop (start + length))).toList)
  /-- Group by group. -/
  | full (g g' : UInt16) (gs : List UInt16) (groups : a.groups = g :: g' :: gs)
      (text : s = (groupsText (g :: g' :: gs)).toList)

theorem written_render (a : Ipv6) : Written a a.render.toList := by
  unfold render
  split
  · have front : "::ffff:".toList = [':', ':', 'f', 'f', 'f', 'f', ':'] := rfl
    rw [String.toList_append, front]
    exact .mapped _ rfl
  · dsimp only
    split
    · have colons : "::".toList = [':', ':'] := rfl
      simp only [String.toList_append, colons, List.append_assoc]
      exact .short _ _ rfl rfl
    · have eight := a.length_eq
      match groups : a.groups with
      | [] | [_] => simp [groups] at eight
      | g :: g' :: gs => exact .full g g' gs groups rfl

/-- The written form begins with a group and a colon. -/
theorem beginsGroup_render (a : Ipv6) : BeginsGroup a.render.toList := by
  cases a.written_render with
  | mapped dotted text => exact ⟨[], _, text, by simp⟩
  | short start length run text =>
      rw [text]
      exact beginsGroup_groupsText _ _
  | full g g' gs groups text =>
      obtain ⟨d, digits, hex, first⟩ := toList_groupsText_cons g (g' :: gs)
      rw [text, first, if_neg (List.cons_ne_nil _ _)]
      exact ⟨_, _, rfl, hex⟩

/-- A run of zero groups is no longer than there are zero groups. -/
theorem longestZeros_le_count (pos : Nat) (run best : Nat × Nat) (gs : List UInt16) :
    (longestZeros pos run best gs).2 ≤ max best.2 (run.2 + gs.count 0) := by
  induction gs generalizing pos run best with
  | nil => exact Nat.le_max_left _ _
  | cons g gs ih =>
      rw [longestZeros]
      split
      · rename_i zero
        refine (ih _ _ _).trans ?_
        rw [zero, List.count_cons_self]
        grind
      · rename_i other
        refine (ih _ _ _).trans ?_
        rw [List.count_cons_of_ne other]
        omega

/-- Two colons alone stand for eight zero groups. -/
theorem eq_zero_of_render {a : Ipv6} (colons : a.render.toList = [':', ':']) : a = zero := by
  cases a.written_render with
  | mapped dotted text => simp [colons] at text
  | short start length run text =>
      have bound := longestZeros_le_count 0 (0, 0) (0, 0) a.groups
      have eight := a.length_eq
      have alone := congrArg List.length (colons.symm.trans text)
      simp only [List.length_cons, List.length_nil, List.length_append] at alone
      have front : a.groups.take start = [] :=
        toList_groupsText_eq_nil_iff.mp (List.length_eq_zero_iff.mp (by omega))
      have back : a.groups.drop (start + length) = [] :=
        toList_groupsText_eq_nil_iff.mp (List.length_eq_zero_iff.mp (by omega))
      have first := congrArg List.length front
      have last := congrArg List.length back
      simp only [List.length_take, List.length_drop, List.length_nil] at first last
      have most := List.count_le_length (a := (0 : UInt16)) (l := a.groups)
      rw [run] at bound
      have all : a.groups.count 0 = a.groups.length := by
        simp only [Nat.zero_add, Nat.zero_max] at bound
        omega
      have zeros := List.eq_replicate_iff.mpr
        ⟨eight, fun g hg => (List.count_eq_length.mp all g hg).symm⟩
      cases a
      simp only at zeros
      subst zeros
      rfl
  | full g g' gs groups text =>
      obtain ⟨d, digits, hex, first⟩ := toList_groupsText_cons g (g' :: gs)
      rw [colons, first] at text
      have digit := hex d List.mem_cons_self
      rw [← (List.cons.inj text).1] at digit
      exact absurd digit (by decide)

/-- The text of the unspecified address is that of no other. -/
theorem render_eq_colons_iff {a : Ipv6} : a.render = "::" ↔ a = zero := by
  constructor
  · intro same
    exact eq_zero_of_render (by rw [same]; rfl)
  · rintro rfl
    rfl

end Ipv6

/-! ### Endpoints -/

namespace Endpoint

/-- The colon and the port. -/
theorem port?_toDigits (port : UInt16) :
    port? (':' :: Nat.toDigits 10 port.toNat) = some port := by
  have digits : (Nat.toDigits 10 port.toNat).all isDigit = true :=
    List.all_eq_true.mpr (isDigit_toDigits port.toNat)
  have bound := port.toNat_lt
  simp [port?, after?, digits, digits?_toDigits, Option.filter_some, bound]

/-- An address of version 4 with a port behind it is that endpoint. -/
theorem read?_v4 (a : Ipv4) (port : UInt16) :
    read? (a.render.toList ++ ':' :: Nat.toDigits 10 port.toNat) = some (.v4 a port) := by
  simp [read?, readV4?, Ipv4.takeDotted?_render, port?_toDigits]

/-- Up to the first colon there is no point, so nothing is dotted. -/
theorem takeDotted?_of_group {s : List Char} (h : Ipv6.BeginsGroup s) :
    Ipv6.takeDotted? s = none := by
  obtain ⟨group, rest, rfl, digits⟩ := h
  have run : (group ++ ':' :: rest).takeWhile (fun c => isDigit c || c == '.') =
      group.takeWhile (fun c => isDigit c || c == '.') := by
    rw [List.takeWhile_append, List.takeWhile_cons_of_neg (by decide), List.append_nil]
    split
    · rename_i whole
      exact ((List.takeWhile_prefix _).eq_of_length whole).symm
    · rfl
  have no_point : '.' ∉ group.takeWhile (fun c => isDigit c || c == '.') := by
    intro point
    exact absurd (digits _ ((List.takeWhile_prefix _).subset point)) (by decide)
  have one : (pieces '.' (group.takeWhile fun c => isDigit c || c == '.')).take 4 =
      [group.takeWhile fun c => isDigit c || c == '.'] := by
    rw [pieces_of_not_mem no_point]
    rfl
  rw [Ipv6.takeDotted?]
  simp only [run, one, List.mapM_cons, List.mapM_nil]
  cases Ipv4.octet? (group.takeWhile fun c => isDigit c || c == '.') with
  | none => rfl
  | some b => rfl

/-- A text that begins with a group and a colon is no endpoint. -/
theorem read?_of_group {s : List Char} (h : Ipv6.BeginsGroup s) : read? s = none := by
  have bare : after? '[' s = none := by
    obtain ⟨group, rest, rfl, digits⟩ := h
    cases group with
    | nil => rfl
    | cons d group =>
        have other : d ≠ '[' := by
          rintro rfl
          exact absurd (digits '[' List.mem_cons_self) (by decide)
        simp [after?, other]
  simp [read?, readV4?, readV6?, takeDotted?_of_group h, bare]

/-- The loopback address of version 6 in brackets, with a port behind it. -/
theorem read?_loopback (port : UInt16) :
    read? ("[::1]".toList ++ ':' :: Nat.toDigits 10 port.toNat) =
      some (.v6 .loopback 0 port) := by
  have text : "[::1]".toList = ['[', ':', ':', '1', ']'] := rfl
  have v4 : ∀ s, readV4? ('[' :: s) = none := fun _ => rfl
  have addr : ∀ s, Ipv6.take? (':' :: ':' :: '1' :: ']' :: s) = some (.loopback, ']' :: s) :=
    fun _ => rfl
  simp [text, read?, v4, readV6?, after?, addr, takeScope?, port?_toDigits]

end Endpoint

end WifiStation.Net
