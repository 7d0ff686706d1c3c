import Phrasebook.Dictionary
import Phrasebook.Proofs.Keyed

namespace Phrasebook

namespace Json

mutual

theorem collapse_of_distinct : ∀ value : Json, value.Distinct → value.collapse = value
  | .null, _ => rfl
  | .bool _, _ => rfl
  | .integer _, _ => rfl
  | .double _, _ => rfl
  | .string _, _ => rfl
  | .array items, distinct => congrArg Json.array (collapseItems_of_distinct items distinct)
  | .object entries, distinct =>
      congrArg Json.object (collapseEntries_of_distinct entries [] distinct.1 distinct.2)

theorem collapseItems_of_distinct : ∀ items : List Json, DistinctItems items →
    collapseItems items = items
  | [], _ => rfl
  | item :: items, distinct => by
      rw [collapseItems, collapse_of_distinct item distinct.1,
        collapseItems_of_distinct items distinct.2]

theorem collapseEntries_of_distinct : ∀ entries before : List (String × Json),
    Keyed.Distinct (before ++ entries) → DistinctEntries entries →
    collapseEntries before entries = before ++ entries
  | [], before, _, _ => (List.append_nil before).symm
  | (key, value) :: entries, before, keys, values => by
      rw [collapseEntries, collapse_of_distinct value values.1,
        Keyed.put_of_notMem keys.notMem_keys]
      rw [List.append_cons before (key, value) entries] at keys ⊢
      exact collapseEntries_of_distinct entries _ keys values.2

end

end Json

theorem Dictionary.ofJson_toJson (dictionary : Dictionary) :
    ofJson dictionary.toJson = .ok dictionary := by
  obtain ⟨entries, distinct⟩ := dictionary
  simp only [toJson, ofJson, Json.collapseEntries_of_distinct entries [] distinct.1 distinct.2,
    List.nil_append]

theorem Dictionary.toJson_of_ofJson {value : Json} {dictionary : Dictionary}
    (read : ofJson value = .ok dictionary) : dictionary.toJson = value.collapse := by
  cases value with
  | object entries =>
      cases read
      rfl
  | null => cases read
  | bool flag => cases read
  | integer number => cases read
  | double number => cases read
  | string text => cases read
  | array items => cases read

end Phrasebook
