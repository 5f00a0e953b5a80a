import Mathlib.Data.List.Permutation
import WifiStation.Proofs.Profile.Kept
import WifiStation.Proofs.Profile.Origin

/-!
# WifiStation.Proofs.Profile.OtherMembers

A stored profile among other members.

A reader passes over every member that has another name than the profile, whatever its value
(`ofMembers_skip`), so all that matters is that the values can be passed over: they can, because every
text of the data format is read, and what is written for a value is such a text. A program that adds
members may lay out the file anew and put the two fields of the profile in the order of their names
(`HasFields`). What the profile is found from are two texts in its place in the file
(`texts?_of_read`), and they were accepted.
-/

namespace WifiStation

namespace Stored

/-- A member with a text for a name. -/
def named (m : String × Tree) : TreeText × Tree := (some m.1, m.2)

/-- The two fields of a profile, in either order. -/
def HasFields (p : Profile) (fields : List (String × Tree)) : Prop :=
  fields.Perm [("ssid", .string (some p.ssid.text)), ("psk", .string (some p.psk.text))]

/-- The tree of an object that holds a profile among other members. -/
def grownTree (fields before after : List (String × Tree)) : Tree :=
  .object (before.map named ++ (some profileName, .object (fields.map named) true) ::
    after.map named) true

/-- The value of an object that holds a profile among other members. -/
def grownJson (p : Profile) (before after : List (String × Json)) : Json :=
  .object (before ++ (profileName, profileJson p) :: after)

/-- Members of other names are passed over. -/
theorem ofMembers_skip {others : List (String × Tree)} (names : ∀ m ∈ others, m.1 ≠ profileName)
    (closed : Bool) (found : Option (Option Profile)) (rest : List (TreeText × Tree)) :
    ofMembers closed found (others.map named ++ rest) = ofMembers closed found rest := by
  induction others with
  | nil => rfl
  | cons m others ih =>
      rw [List.forall_mem_cons] at names
      rw [List.map_cons, List.cons_append, named, ofMembers, if_neg names.1, ih names.2]

theorem optionalOf_fields {p : Profile} {fields : List (String × Tree)} (h : HasFields p fields) :
    optionalOf (.object (fields.map named) true) = .ok (some p) := by
  rcases List.perm_pair.mp h with rfl | rfl
  · exact optionalOf_profileTree p
  · simp [optionalOf, named, profileOf, Tree.pair, Tree.pairOfMembers, Tree.pairOf, Tree.field]

theorem ofTree_grownTree {p : Profile} {fields before after : List (String × Tree)}
    (held : HasFields p fields) (names : ∀ m ∈ before ++ after, m.1 ≠ profileName) :
    ofTree (grownTree fields before after) = .ok (some p) := by
  rw [List.forall_mem_append] at names
  have behind := ofMembers_skip names.2 true (some (some p)) []
  rw [List.append_nil] at behind
  rw [grownTree, ofTree, ofMembers_skip names.1, ofMembers, if_pos rfl, optionalOf_fields held]
  exact behind

/-- However an object with the profile is laid out, the profile is read from it. -/
theorem read_of_writes {p : Profile} {fields before after : List (String × Tree)}
    {content : String} (held : HasFields p fields)
    (names : ∀ m ∈ before ++ after, m.1 ≠ profileName)
    (text : Tree.Writes (grownTree fields before after) content.toList) :
    read content = .ok (some p) := by
  rw [read, Tree.read_of_writes text]
  dsimp only
  rw [ofTree_grownTree held names]
  rfl

/-- What is written for an object with the profile is a text of it. -/
theorem exists_writes_grownJson (p : Profile) (before after : List (String × Json)) :
    ∃ fields front back : List (String × Tree), HasFields p fields ∧
      front.map Prod.fst = before.map Prod.fst ∧ back.map Prod.fst = after.map Prod.fst ∧
      Tree.Writes (grownTree fields front back) (grownJson p before after).pretty.toList := by
  have spelled : ∀ members : List (String × Json), ∀ m ∈ members,
      ∃ t, Tree.Spells t (m.2.prettyChars 1) := fun _ m _ => Tree.exists_spells m.2 1
  obtain ⟨front, rfl, front_spelled⟩ := Tree.exists_pairs (spelled before)
  obtain ⟨back, rfl, back_spelled⟩ := Tree.exists_pairs (spelled after)
  refine ⟨_, front.map fun q => (q.1.1, q.2), back.map fun q => (q.1.1, q.2), .refl _, by simp,
    by simp, _, ?_, Tree.around_self _⟩
  have whole := Tree.spells_object 0
    (front ++ ((profileName, profileJson p), profileTree p) :: back) (by simp) <| by
      simp only [List.forall_mem_append, List.forall_mem_cons]
      exact ⟨front_spelled, spells_profile 1 p, back_spelled⟩
  rw [grownJson, Json.pretty, String.toList_ofList]
  simpa [grownTree, named, profileTree, Function.comp_def] using whole

theorem read_grownJson (p : Profile) {before after : List (String × Json)}
    (names : ∀ m ∈ before ++ after, m.1 ≠ profileName) :
    read (grownJson p before after).pretty = .ok (some p) := by
  obtain ⟨fields, front, back, held, same, same', text⟩ := exists_writes_grownJson p before after
  refine read_of_writes held (fun m hm => ?_) text
  have name : m.1 ∈ (before ++ after).map Prod.fst := by
    rw [List.map_append, ← same, ← same', ← List.map_append]
    exact List.mem_map_of_mem hm
  obtain ⟨m', there, same_name⟩ := List.mem_map.mp name
  rw [← same_name]
  exact names m' there

end Stored

namespace Store

/-- A file is loaded as its text is read. -/
theorem load_file {content : String} {p : Profile} (h : Stored.read content = .ok (some p)) :
    load (.file (Text.Utf8.encode content.toList)) = .ok (some p) := by
  rw [load, Place.readText, Text.Utf8.decode?_encode]
  simp [h]

/-- A profile can be saved wherever there can be a file. -/
theorem exists_save {place : Place} (p : Profile) (reachable : place ≠ .unreachable)
    (no_directory : place ≠ .directory) : ∃ kept, save place p = .ok kept := by
  cases place with
  | unreachable => exact absurd rfl reachable
  | directory => exact absurd rfl no_directory
  | absent => exact ⟨_, rfl⟩
  | file content => exact ⟨_, rfl⟩

/-- Wherever there can be a file a profile can be saved, and then it is loaded again, as it is read
from the text that is written for it. The same holds of the object with other members before and
behind the profile, be it written like the profile or laid out in any other way, with the fields of
the profile in either order. And whatever text a profile is read from, its name and its passphrase
stand there and are accepted. -/
theorem saved_profile_loads (p : Profile) :
    (∀ place, place ≠ .unreachable → place ≠ .directory →
      ∃ kept, save place p = .ok kept ∧ load kept = .ok (some p)) ∧
    Stored.read (Stored.render (some p)) = .ok (some p) ∧
    (∀ before after : List (String × Json),
      (∀ m ∈ before ++ after, m.1 ≠ Stored.profileName) →
        let content := (Stored.grownJson p before after).pretty
        Stored.read content = .ok (some p) ∧
        load (.file (Text.Utf8.encode content.toList)) = .ok (some p)) ∧
    (∀ (fields before after : List (String × Tree)) (content : String),
      Stored.HasFields p fields → (∀ m ∈ before ++ after, m.1 ≠ Stored.profileName) →
        Tree.Writes (Stored.grownTree fields before after) content.toList →
          Stored.read content = .ok (some p) ∧
          load (.file (Text.Utf8.encode content.toList)) = .ok (some p)) ∧
    ∀ content, Stored.read content = .ok (some p) →
      Stored.texts? content = some (p.ssid.text, p.psk.text) ∧
      Ssid.ofText p.ssid.text = .ok p.ssid ∧ Passphrase.ofText p.psk.text = .ok p.psk := by
  refine ⟨fun place reachable no_directory => ?_, Stored.read_render p, fun before after names => ?_,
    fun fields before after content held names text => ?_, fun content h => ?_⟩
  · obtain ⟨kept, saved⟩ := exists_save p reachable no_directory
    exact ⟨kept, saved, load_save saved⟩
  · have read := Stored.read_grownJson p names
    exact ⟨read, load_file read⟩
  · have read := Stored.read_of_writes held names text
    exact ⟨read, load_file read⟩
  · exact ⟨Stored.texts?_of_read h, Ssid.ofText_text p.ssid, Passphrase.ofText_text p.psk⟩

/-- A profile whose texts take more bytes than characters, with a backslash in each. -/
def accented : Profile where
  ssid := ⟨"café\\", by decide, by decide, by decide⟩
  psk := ⟨"naïve\\n ok", by decide, by decide, by decide⟩

/-- The fields of `accented` in the order of their names. -/
def sortedFields : List (String × Tree) :=
  [("psk", .string (some accented.psk.text)), ("ssid", .string (some accented.ssid.text))]

/-- A member that was there before. -/
def version : List (String × Tree) := [("version", .number ⟨false, ['2'], [], none⟩)]

/-- The name of `accented` with an escape for the accent. -/
def escapedName : List Char :=
  ['"', 'c', 'a', 'f', '\\', 'u', '0', '0', 'E', '9', '\\', '\\', '"']

/-- A file of `accented` that another program has laid out anew. -/
def rearranged : List Char :=
  ['\x7b', ' '] ++ Json.quoted "version" ++ [':', '2', ' ', ',', ' '] ++
    Json.quoted Stored.profileName ++ [':', '\x7b'] ++ Json.quoted "psk" ++ [':'] ++
      Json.quoted accented.psk.text ++ [','] ++ Json.quoted "ssid" ++ [':', ' '] ++ escapedName ++
        ['\x7d', '\x7d', '\n']

theorem writes_rearranged :
    Tree.Writes (Stored.grownTree sortedFields version []) rearranged := by
  have blank : Tree.Spaces [' '] := by simp [Tree.Spaces, Tree.isSpace]
  have line : Tree.Spaces ['\n'] := by simp [Tree.Spaces, Tree.isSpace]
  have ssid : Tree.StringText (some accented.ssid.text) escapedName := by
    refine ⟨[.char 'c', .char 'a', .char 'f', .unit 0xE9, .char '\\'],
      ['c', 'a', 'f', '\\', 'u', '0', '0', 'E', '9', '\\', '\\'], ?_, by decide, rfl⟩
    exact .plain (by decide) (by decide) (by decide) <| .plain (by decide) (by decide) (by decide) <|
      .plain (by decide) (by decide) (by decide) <| .code (by decide) <| .short (by decide) .nil
  -- the object of the profile, then the object that is the file
  have profile := @Tree.Spells.object
    [⟨some "psk", Json.quoted "psk", .string (some accented.psk.text),
        Json.quoted accented.psk.text, Json.quoted accented.psk.text⟩,
      ⟨some "ssid", Json.quoted "ssid", .string (some accented.ssid.text), escapedName,
        ' ' :: escapedName⟩] (by simp)
    (by simpa using ⟨⟨_, Tree.stringText_quoted _, Tree.around_self _⟩,
      ⟨_, Tree.stringText_quoted _, Tree.around_self _⟩⟩)
    (by simpa using ⟨.string (Tree.stringText_quoted _), .string ssid⟩)
    (by simpa using ⟨Tree.around_self _, [' '], [], blank, Tree.spaces_nil, by simp⟩)
  have number : Tree.UnsignedText ⟨false, ['2'], [], none⟩ ['2'] := Tree.unsignedText_toDigits false 2
  have file := @Tree.Spells.object
    [⟨some "version", ' ' :: Json.quoted "version", .number ⟨false, ['2'], [], none⟩, ['2'],
        ['2', ' ']⟩,
      ⟨some Stored.profileName, ' ' :: Json.quoted Stored.profileName, _, _, _⟩] (by simp)
    (by simpa using ⟨⟨_, Tree.stringText_quoted _, [' '], [], blank, Tree.spaces_nil, by simp⟩,
      ⟨_, Tree.stringText_quoted _, [' '], [], blank, Tree.spaces_nil, by simp⟩⟩)
    (by simpa using ⟨.number number, profile⟩)
    (by simpa using ⟨⟨[], [' '], Tree.spaces_nil, blank, rfl⟩, Tree.around_self _⟩)
  exact ⟨_, file, [], ['\n'], Tree.spaces_nil, line, by rfl⟩

theorem saved_profile_loads_accented :
    Stored.HasFields accented sortedFields ∧
      (∀ m ∈ version ++ [], m.1 ≠ Stored.profileName) ∧
      Tree.Writes (Stored.grownTree sortedFields version []) rearranged ∧
      load (.file (Text.Utf8.encode rearranged)) = .ok (some accented) ∧
      Stored.texts? (String.ofList rearranged) = some ("café\\", "naïve\\n ok") ∧
      (∃ kept, save .absent accented = .ok kept ∧ load kept = .ok (some accented)) ∧
      Stored.read (Stored.grownJson accented [("version", .nat 2)]
        [("notes", .array [.null, .object [("network_config", .bool true)]])]).pretty =
          .ok (some accented) := by
  have held : Stored.HasFields accented sortedFields := by
    rw [Stored.HasFields, sortedFields]
    exact .swap _ _ []
  have names : ∀ m ∈ version ++ [], m.1 ≠ Stored.profileName := by decide
  have other_names : ∀ m ∈ [("version", Json.nat 2)] ++
      [("notes", Json.array [.null, .object [("network_config", .bool true)]])],
      m.1 ≠ Stored.profileName := by simp [Stored.profileName]
  have text : Tree.Writes (Stored.grownTree sortedFields version [])
      (String.ofList rearranged).toList := by
    rw [String.toList_ofList]
    exact writes_rearranged
  obtain ⟨saves, -, among, anew, stands⟩ := saved_profile_loads accented
  obtain ⟨read, loaded⟩ := anew _ _ _ _ held names text
  rw [String.toList_ofList] at loaded
  exact ⟨held, names, writes_rearranged, loaded, (stands _ read).1, saves .absent (by simp) (by simp),
    (among _ _ other_names).1⟩

end Store

end WifiStation
