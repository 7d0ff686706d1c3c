import Phrasebook.Error
import Phrasebook.Json.Printer
import Phrasebook.Json.Reader
import Phrasebook.Text.Basic

namespace Phrasebook

namespace Json

def at? (value : Json) : List String → Option Json
  | [] => some value
  | key :: path =>
      match value with
      | .object entries =>
          match Keyed.get? key entries with
          | some inner => inner.at? path
          | none => none
      | _ => none

def string? : Json → Option String
  | .string text => some text
  | _ => none

mutual

def leaves : Json → List (List String × String)
  | .string text => [([], text)]
  | .object entries => entriesLeaves entries
  | _ => []

def entriesLeaves : List (String × Json) → List (List String × String)
  | [] => []
  | (key, value) :: entries =>
      value.leaves.map (fun leaf => (key :: leaf.1, leaf.2)) ++ entriesLeaves entries

end

mutual

/-- The value that `incoming` leaves at the place of `existing`: two objects are merged, and any
other value replaces what was there. -/
def merged (existing : Option Json) : Json → Json
  | .object incoming =>
      match existing with
      | some (.object entries) => .object (mergedEntries entries incoming)
      | _ => .object incoming
  | value => value

def mergedEntries (entries : List (String × Json)) : List (String × Json) → List (String × Json)
  | [] => entries
  | (key, value) :: incoming =>
      mergedEntries (Keyed.put key (merged (Keyed.get? key entries) value) entries) incoming

end

theorem Distinct.of_get? {key : String} {value : Json} {entries : List (String × Json)}
    (distinct : DistinctEntries entries) (found : Keyed.get? key entries = some value) :
    value.Distinct :=
  distinctEntries_iff.mp distinct _ (Keyed.mem_of_get? found)

mutual

theorem merged_distinct : ∀ (incoming : Json) (existing : Option Json),
    incoming.Distinct → (∀ value, existing = some value → value.Distinct) →
    (merged existing incoming).Distinct
  | .object incoming, _, distinct, present => by
      unfold merged
      split
      · have distinctThere := present _ rfl
        exact mergedEntries_distinct incoming _ distinct.2 distinctThere.1 distinctThere.2
      · exact distinct
  | .null, _, _, _ => trivial
  | .bool _, _, _, _ => trivial
  | .integer _, _, _, _ => trivial
  | .double _, _, _, _ => trivial
  | .string _, _, _, _ => trivial
  | .array _, _, distinct, _ => distinct

theorem mergedEntries_distinct : ∀ (incoming entries : List (String × Json)),
    DistinctEntries incoming → Keyed.Distinct entries → DistinctEntries entries →
    Keyed.Distinct (mergedEntries entries incoming) ∧
      DistinctEntries (mergedEntries entries incoming)
  | [], _, _, keys, values => ⟨keys, values⟩
  | (key, value) :: incoming, _, distinct, keys, values =>
      mergedEntries_distinct incoming _ distinct.2 (keys.put key _)
        (values.put (merged_distinct value _ distinct.1
          fun _ found => Distinct.of_get? values found))

end

end Json

/-- A JSON object in which every object holds each of its keys once. -/
structure Dictionary where
  entries : List (String × Json)
  distinct : (Json.object entries).Distinct

namespace Dictionary

def empty : Dictionary := ⟨[], List.nodup_nil, trivial⟩

instance : Inhabited Dictionary := ⟨.empty⟩

def toJson (dictionary : Dictionary) : Json :=
  .object dictionary.entries

def ofJson : Json → Except Error Dictionary
  | .object entries =>
      .ok ⟨Json.collapseEntries [] entries,
        Json.collapseEntries_distinct entries [] List.nodup_nil trivial⟩
  | other => .error (.invalidMessages s!"expected a JSON object, got {other.kind}")

def read (text : String) : Except Error Dictionary :=
  match Json.readDocument text.toList with
  | .ok value => ofJson value
  | .error fault => .error (.invalidMessages (fault.message text.toList))

def insert (dictionary : Dictionary) (key : String) (value : Json) : Dictionary :=
  ⟨Keyed.put key value.collapse dictionary.entries, dictionary.distinct.1.put key _,
    dictionary.distinct.2.put value.collapse_distinct⟩

def keys (dictionary : Dictionary) : List String :=
  Keyed.keys dictionary.entries

def size (dictionary : Dictionary) : Nat :=
  dictionary.entries.length

def stringAt? (dictionary : Dictionary) (path : List String) : Option String :=
  (dictionary.toJson.at? path).bind Json.string?

def keyPath (key : String) : List String :=
  (Text.segments '.' key.toList).map String.ofList

/-- The message of a key: the string that the root holds under the whole key, and else the one at
the path of its segments. -/
def find? (dictionary : Dictionary) (key : String) : Option String :=
  match dictionary.stringAt? [key] with
  | some message => some message
  | none => dictionary.stringAt? (keyPath key)

/-- Deep merge: what `other` holds wins, and nothing else is lost. -/
def merge (dictionary other : Dictionary) : Dictionary :=
  ⟨Json.mergedEntries dictionary.entries other.entries,
    Json.mergedEntries_distinct _ _ other.distinct.2 dictionary.distinct.1 dictionary.distinct.2⟩

def underNamespace (name : String) (fragment : Dictionary) : Dictionary :=
  ⟨[(name, fragment.toJson)], by simp [Keyed.Distinct, Keyed.keys], fragment.distinct, trivial⟩

def mergeNamespace (dictionary : Dictionary) (name : String) (fragment : Dictionary) :
    Dictionary :=
  dictionary.merge (fragment.underNamespace name)

def fragment? (dictionary : Dictionary) (name : String) : Option Dictionary :=
  match found : Keyed.get? name dictionary.entries with
  | some (.object entries) =>
      some ⟨entries, Json.Distinct.of_get? dictionary.distinct.2 found⟩
  | _ => none

def flatten (dictionary : Dictionary) : List (String × String) :=
  (Json.entriesLeaves dictionary.entries).map fun leaf =>
    (String.intercalate "." leaf.1, leaf.2)

end Dictionary

end Phrasebook
