import Phrasebook.Keyed
import Phrasebook.Number.Shortest

namespace Phrasebook

/-- Integers and doubles are told apart, and an object keeps its entries in the order of its text,
repeated keys and all. -/
inductive Json where
  | null
  | bool (value : Bool)
  | integer (value : Int)
  | double (value : Binary64)
  | string (value : String)
  | array (items : List Json)
  | object (entries : List (String × Json))

namespace Json

instance : Inhabited Json := ⟨.null⟩

def kind : Json → String
  | .null => "null"
  | .bool _ => "boolean"
  | .integer _ => "number"
  | .double _ => "number"
  | .string _ => "string"
  | .array _ => "array"
  | .object _ => "object"

mutual

/-- Every object holds each of its keys once. -/
def Distinct : Json → Prop
  | .array items => DistinctItems items
  | .object entries => Keyed.Distinct entries ∧ DistinctEntries entries
  | _ => True

def DistinctItems : List Json → Prop
  | [] => True
  | item :: items => item.Distinct ∧ DistinctItems items

def DistinctEntries : List (String × Json) → Prop
  | [] => True
  | (_, value) :: entries => value.Distinct ∧ DistinctEntries entries

end

theorem distinctEntries_iff {entries : List (String × Json)} :
    DistinctEntries entries ↔ ∀ entry ∈ entries, entry.2.Distinct := by
  induction entries with
  | nil => simp [DistinctEntries]
  | cons entry rest ih => simp [DistinctEntries, ih]

mutual

/-- The value with each key of an object once: it keeps the place of the first and the value of
the last of its entries. -/
def collapse : Json → Json
  | .array items => .array (collapseItems items)
  | .object entries => .object (collapseEntries [] entries)
  | value => value

def collapseItems : List Json → List Json
  | [] => []
  | item :: items => item.collapse :: collapseItems items

def collapseEntries (before : List (String × Json)) :
    List (String × Json) → List (String × Json)
  | [] => before
  | (key, value) :: entries => collapseEntries (Keyed.put key value.collapse before) entries

end

theorem DistinctEntries.put {key : String} {value : Json} {entries : List (String × Json)}
    (distinct : DistinctEntries entries) (single : value.Distinct) :
    DistinctEntries (Keyed.put key value entries) := by
  rw [distinctEntries_iff] at *
  intro entry member
  rcases Keyed.mem_put member with rfl | member
  · exact single
  · exact distinct entry member

mutual

theorem collapse_distinct : ∀ value : Json, value.collapse.Distinct
  | .null => trivial
  | .bool _ => trivial
  | .integer _ => trivial
  | .double _ => trivial
  | .string _ => trivial
  | .array items => collapseItems_distinct items
  | .object entries =>
      collapseEntries_distinct entries [] List.nodup_nil trivial

theorem collapseItems_distinct : ∀ items : List Json, DistinctItems (collapseItems items)
  | [] => trivial
  | item :: items => ⟨collapse_distinct item, collapseItems_distinct items⟩

theorem collapseEntries_distinct : ∀ (entries before : List (String × Json)),
    Keyed.Distinct before → DistinctEntries before →
    Keyed.Distinct (collapseEntries before entries) ∧
      DistinctEntries (collapseEntries before entries)
  | [], _, keys, values => ⟨keys, values⟩
  | (key, value) :: entries, _, keys, values =>
      collapseEntries_distinct entries _ (keys.put key _) (values.put (collapse_distinct value))

end

end Json

end Phrasebook
