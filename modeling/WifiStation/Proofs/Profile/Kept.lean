import WifiStation.Profile.Store
import WifiStation.Proofs.Json.Layout
import WifiStation.Proofs.Json.ReadBack
import WifiStation.Proofs.Text.Utf8

/-!
# WifiStation.Proofs.Profile.Kept

A profile that is stored is found again.

The reader takes the text that was written for the tree that was meant, and both fields pass the
checks again because a `Profile` carries their proofs. What was in the file before does not matter.
-/

namespace WifiStation

namespace Stored

/-- The tree of a profile. -/
def profileTree (p : Profile) : Tree :=
  .object [(some "ssid", .string (some p.ssid.text)), (some "psk", .string (some p.psk.text))] true

/-- Any two texts are spelled as they are meant. -/
theorem spells_texts (level : Nat) (ssid psk : String) :
    Tree.Spells
      (.object [(some "ssid", .string (some ssid)), (some "psk", .string (some psk))] true)
      ((Json.object [("ssid", .string ssid), ("psk", .string psk)]).prettyChars level) := by
  refine Tree.spells_object level [(("ssid", .string ssid), .string (some ssid)),
    (("psk", .string psk), .string (some psk))] (List.cons_ne_nil _ _) fun m hm => ?_
  simp only [List.mem_cons, List.not_mem_nil, or_false] at hm
  rcases hm with rfl | rfl
  · exact .string (Tree.stringText_quoted ssid)
  · exact .string (Tree.stringText_quoted psk)

/-- Any two texts are read as they were written. -/
theorem reads_texts (level : Nat) (ssid psk : String) :
    Tree.Reads ((Json.object [("ssid", .string ssid), ("psk", .string psk)]).prettyChars level)
      (.object [(some "ssid", .string (some ssid)), (some "psk", .string (some psk))] true) :=
  Tree.reads_of_spells (spells_texts level ssid psk)

theorem spells_profile (level : Nat) (p : Profile) :
    Tree.Spells (profileTree p) ((profileJson p).prettyChars level) :=
  spells_texts level p.ssid.text p.psk.text

/-- The text of a file is an object with the profile in it. -/
theorem spells_json (p : Profile) :
    Tree.Spells (.object [(some profileName, profileTree p)] true)
      ((json (some p)).prettyChars 0) := by
  refine Tree.spells_object 0 [((profileName, profileJson p), profileTree p)]
    (List.cons_ne_nil _ _) fun m hm => ?_
  rw [List.mem_singleton.mp hm]
  exact spells_profile 1 p

/-- Both fields are accepted again. -/
theorem optionalOf_profileTree (p : Profile) : optionalOf (profileTree p) = .ok (some p) := by
  simp [optionalOf, profileTree, profileOf, Tree.pair, Tree.pairOfMembers, Tree.pairOf, Tree.field]

/-- The text that is written for a profile is read as that profile. -/
theorem read_render (p : Profile) : read (render (some p)) = .ok (some p) := by
  rw [read, render, Json.pretty, String.toList_ofList,
    Tree.read_of_reads (Tree.reads_of_spells (spells_json p))]
  simp [ofTree, ofMembers, optionalOf_profileTree]

end Stored

namespace Store

/-- A place that was saved to is a file of the text that was written. -/
theorem eq_file_of_save {place kept : Place} {p : Profile} (saved : save place p = .ok kept) :
    kept = .file (Text.Utf8.encode (Stored.render (some p)).toList) := by
  cases place with
  | absent => cases saved; rfl
  | unreachable => cases saved
  | directory => cases saved
  | file content => cases saved; rfl

/-- What was saved is loaded. -/
theorem load_save {place kept : Place} {p : Profile} (saved : save place p = .ok kept) :
    load kept = .ok (some p) := by
  rw [eq_file_of_save saved, load, Place.readText, Text.Utf8.decode?_encode]
  simp [Stored.read_render]

/-- Where a profile was saved, any profile can be saved again. -/
theorem exists_save_again {place kept : Place} {p : Profile} (saved : save place p = .ok kept)
    (q : Profile) : ∃ kept', save kept q = .ok kept' := by
  rw [eq_file_of_save saved]
  exact ⟨_, rfl⟩

end Store

end WifiStation
