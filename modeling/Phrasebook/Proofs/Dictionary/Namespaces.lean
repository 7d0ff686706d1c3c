import Phrasebook.Proofs.Json.Merging
import Phrasebook.Proofs.Segments

namespace Phrasebook

namespace Dictionary

variable {dictionary fragment : Dictionary} {name key message : String}

theorem keyPath_of_plain (plain : '.' ∉ key.toList) : keyPath key = [key] := by
  simp [keyPath, Text.segments_of_notMem plain]

theorem keyPath_append (plain : '.' ∉ name.toList) (key : String) :
    keyPath (name ++ "." ++ key) = name :: keyPath key := by
  have characters : (name ++ "." ++ key).toList = name.toList ++ '.' :: key.toList := by simp
  rw [keyPath, characters, Text.segments_append_cons plain]
  simp [keyPath]

theorem stringAt?_singleton (dictionary : Dictionary) (key : String) :
    dictionary.stringAt? [key] = (Keyed.get? key dictionary.entries).bind Json.string? := by
  rw [stringAt?, toJson, Json.at?_object_cons, Option.bind_assoc]
  rfl

theorem find?_of_path (absent : dictionary.stringAt? [key] = none) :
    dictionary.find? key = dictionary.stringAt? (keyPath key) := by
  simp only [find?, absent]

/-- Without a dot both ways lead to the same place. -/
theorem find?_of_plain (plain : '.' ∉ key.toList) :
    dictionary.find? key = dictionary.stringAt? (keyPath key) := by
  rw [keyPath_of_plain plain, find?, keyPath_of_plain plain]
  cases dictionary.stringAt? [key] <;> rfl

theorem stringAt?_mergeNamespace_new (fresh : name ∉ dictionary.keys) (path : List String) :
    (dictionary.mergeNamespace name fragment).stringAt? (name :: path) =
      fragment.stringAt? path := by
  have absent : Keyed.get? name dictionary.entries = none := Keyed.get?_eq_none_iff.mpr fresh
  rw [stringAt?, toJson, Json.at?_object_cons, get?_mergeNamespace, if_pos rfl, absent]
  rfl

theorem stringAt?_mergeNamespace_of_ne (different : key ≠ name) :
    (dictionary.mergeNamespace name fragment).stringAt? [key] = dictionary.stringAt? [key] := by
  rw [stringAt?_singleton, stringAt?_singleton, get?_mergeNamespace, if_neg different]

theorem append_dot_ne (plain : '.' ∉ name.toList) : name ++ "." ++ key ≠ name := by
  intro same
  refine plain ?_
  rw [← same]
  simp

/-- Under its namespace a fragment is searched by paths only. -/
theorem find?_mergeNamespace (plain : '.' ∉ name.toList) (fresh : name ∉ dictionary.keys)
    (free : dictionary.stringAt? [name ++ "." ++ key] = none) :
    (dictionary.mergeNamespace name fragment).find? (name ++ "." ++ key) =
      fragment.stringAt? (keyPath key) := by
  have absent : (dictionary.mergeNamespace name fragment).stringAt? [name ++ "." ++ key] = none :=
    (stringAt?_mergeNamespace_of_ne (append_dot_ne plain)).trans free
  rw [find?_of_path absent, keyPath_append plain, stringAt?_mergeNamespace_new fresh]

/-- A message of the fragment is found under the namespace if and only if it stands at the path of
its key.  What the fragment holds under a whole key with dots may be lost; any other message is
found. -/
theorem find?_mergeNamespace_iff (plain : '.' ∉ name.toList) (fresh : name ∉ dictionary.keys)
    (free : dictionary.stringAt? [name ++ "." ++ key] = none)
    (found : fragment.find? key = some message) :
    ((dictionary.mergeNamespace name fragment).find? (name ++ "." ++ key) = some message ↔
      fragment.stringAt? (keyPath key) = some message) ∧
    (('.' ∈ key.toList → fragment.stringAt? [key] = none) →
      (dictionary.mergeNamespace name fragment).find? (name ++ "." ++ key) = some message) := by
  rw [find?_mergeNamespace plain fresh free]
  refine ⟨Iff.rfl, fun nested => ?_⟩
  by_cases dotted : '.' ∈ key.toList
  · rw [← find?_of_path (nested dotted), found]
  · rw [← find?_of_plain dotted, found]

def nestedFile : Dictionary :=
  ⟨[("file", .object [("open", .string "Auf")])], by simp [Keyed.Distinct, Keyed.keys], by
    simp [Json.DistinctEntries, Json.Distinct, Keyed.Distinct, Keyed.keys]⟩

def flatFile : Dictionary :=
  Dictionary.empty.insert "file.open" (.string "Auf")

def titled : Dictionary :=
  Dictionary.empty.insert "title" (.string "Heim")

theorem find?_mergeNamespace_nestedFile :
    nestedFile.find? "file.open" = some "Auf" ∧
      (titled.mergeNamespace "menu" nestedFile).find? ("menu" ++ "." ++ "file.open") =
        some "Auf" := by
  have found : nestedFile.find? "file.open" = some "Auf" := by decide
  exact ⟨found, (find?_mergeNamespace_iff (by decide) (by decide) (by decide) found).2
    fun _ => by decide⟩

/-- A fragment with whole keys loses them. -/
theorem find?_mergeNamespace_flatFile :
    '.' ∉ "menu".toList ∧ "menu" ∉ titled.keys ∧
      titled.stringAt? ["menu" ++ "." ++ "file.open"] = none ∧
      flatFile.find? "file.open" = some "Auf" ∧
      (titled.mergeNamespace "menu" flatFile).find? ("menu" ++ "." ++ "file.open") = none := by
  decide

end Dictionary

end Phrasebook
