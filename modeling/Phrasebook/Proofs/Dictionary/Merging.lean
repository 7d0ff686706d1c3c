import Phrasebook.Proofs.Json.Merging

namespace Phrasebook

namespace Json

/-- Something other than an object stands above the path, at a shorter path that it begins with. -/
def Blocks (value : Json) (path : List String) : Prop :=
  ∃ above, above <+: path ∧ above ≠ path ∧
    ∃ standing, value.at? above = some standing ∧ ∀ entries, standing ≠ .object entries

theorem blocks_of_not_object {value : Json} (notObject : ∀ entries, value ≠ .object entries)
    (key : String) (path : List String) : value.Blocks (key :: path) :=
  ⟨[], List.nil_prefix, (List.cons_ne_nil _ _).symm, value, rfl, notObject⟩

theorem blocks_object_cons_iff {entries : List (String × Json)} {key : String}
    {path : List String} :
    (object entries).Blocks (key :: path) ↔
      ∃ inner, Keyed.get? key entries = some inner ∧ inner.Blocks path := by
  constructor
  · intro blocked
    obtain ⟨above, isPrefix, proper, standing, found, notObject⟩ := blocked
    cases above with
    | nil =>
        cases found
        exact absurd rfl (notObject entries)
    | cons first above =>
        obtain ⟨rfl, below⟩ := List.cons_prefix_cons.mp isPrefix
        rw [at?_object_cons, Option.bind_eq_some_iff] at found
        obtain ⟨inner, here, inside⟩ := found
        exact ⟨inner, here, above, below, mt (congrArg _) proper, standing, inside, notObject⟩
  · intro blocked
    obtain ⟨inner, here, above, isPrefix, proper, standing, found, notObject⟩ := blocked
    refine ⟨key :: above, List.cons_prefix_cons.mpr ⟨rfl, isPrefix⟩, ?_, standing, ?_, notObject⟩
    · exact fun same => proper (List.cons.inj same).2
    · rw [at?_object_cons, here, Option.bind_some, found]

theorem merged_of_not_object {incoming : Json} (notObject : ∀ entries, incoming ≠ .object entries)
    (existing : Option Json) : merged existing incoming = incoming := by
  cases incoming with
  | object entries => exact absurd rfl (notObject entries)
  | _ => rfl

theorem merged_over_not_object {existing : Option Json}
    (notObject : ∀ entries, existing ≠ some (.object entries)) (incoming : Json) :
    merged existing incoming = incoming := by
  cases incoming with
  | object incoming =>
      rw [merged]
      exact notObject
  | _ => rfl

theorem merged_eq_string_iff {existing : Option Json} {value : Json} {text : String} :
    merged existing value = .string text ↔ value = .string text := by
  cases value with
  | object entries =>
      unfold merged
      split
      · simp
      · simp
  | _ => simp [merged]

/-- The first step into a merged object. -/
theorem at?_merged_object_cons {incoming : List (String × Json)}
    (distinct : Keyed.Distinct incoming) (existing : Option Json) (key : String)
    (path : List String) :
    (merged existing (.object incoming)).at? (key :: path) =
      match Keyed.get? key incoming with
      | some value => (merged (existing.bind (·.at? [key])) value).at? path
      | none => existing.bind (·.at? (key :: path)) := by
  by_cases isObject : ∃ entries, existing = some (.object entries)
  · obtain ⟨entries, rfl⟩ := isObject
    have atKey : (object entries).at? [key] = Keyed.get? key entries := by
      rw [at?_object_cons]
      exact Option.bind_fun_some _
    rw [merged, at?_object_cons, get?_mergedEntries distinct]
    cases Keyed.get? key incoming with
    | none => simp only [Option.bind_some, at?_object_cons]
    | some value => simp only [Option.bind_some, atKey]
  · have notObject : ∀ entries, existing ≠ some (.object entries) :=
      fun entries same => isObject ⟨entries, same⟩
    have nothing : ∀ rest, existing.bind (·.at? (key :: rest)) = none := by
      intro rest
      refine Option.bind_eq_none_iff.mpr fun value present => ?_
      exact at?_cons_of_not_object (fun entries same => notObject entries (same ▸ present)) key rest
    rw [merged_over_not_object notObject, at?_object_cons, nothing, nothing]
    cases Keyed.get? key incoming with
    | none => rfl
    | some value =>
        rw [Option.bind_some]
        dsimp only
        rw [merged_over_not_object fun entries => (Option.some_ne_none _).symm]

/-- All that a merge leaves at a path: what comes in there, merged into what stood there; nothing,
if something else comes in above it; or what stood there. -/
theorem at?_merged_cases {incoming : Json} (distinct : incoming.Distinct)
    (existing : Option Json) (path : List String) :
    (∃ value, incoming.at? path = some value ∧
      (merged existing incoming).at? path =
        some (merged (existing.bind (·.at? path)) value)) ∨
    (incoming.at? path = none ∧ incoming.Blocks path ∧
      (merged existing incoming).at? path = none) ∨
    (incoming.at? path = none ∧ ¬ incoming.Blocks path ∧
      (merged existing incoming).at? path = existing.bind (·.at? path)) := by
  induction path generalizing incoming existing with
  | nil => exact .inl ⟨incoming, rfl, by simp [at?]⟩
  | cons key path ih =>
      by_cases isObject : ∃ entries, incoming = .object entries
      · obtain ⟨entries, rfl⟩ := isObject
        rw [at?_merged_object_cons distinct.1, at?_object_cons, blocks_object_cons_iff]
        cases here : Keyed.get? key entries with
        | none => exact .inr (.inr ⟨rfl, by simp, rfl⟩)
        | some value =>
            have inside := ih (Distinct.of_get? distinct.2 here) (existing.bind (·.at? [key]))
            simpa [Option.bind_assoc, ← at?_append] using inside
      · have notObject : ∀ entries, incoming ≠ .object entries :=
          fun entries same => isObject ⟨entries, same⟩
        have nothing := at?_cons_of_not_object notObject key path
        refine .inr (.inl ⟨nothing, blocks_of_not_object notObject key path, ?_⟩)
        rw [merged_of_not_object notObject, nothing]

theorem at?_merged_eq_string_iff {incoming : Json} (distinct : incoming.Distinct)
    {existing : Option Json} {path : List String} {text : String} :
    (merged existing incoming).at? path = some (.string text) ↔
      incoming.at? path = some (.string text) ∨
        (incoming.at? path = none ∧ ¬ incoming.Blocks path ∧
          existing.bind (·.at? path) = some (.string text)) := by
  rcases at?_merged_cases distinct existing path with
    ⟨value, found, left⟩ | ⟨absent, blocked, left⟩ | ⟨absent, free, left⟩
  · simp [found, left, merged_eq_string_iff]
  · simp [absent, blocked, left]
  · simp [absent, free, left]

theorem Within.merged_of_not_object {part whole : Json} (within : Within part whole)
    (notObject : ∀ entries, part ≠ .object entries) : merged (some whole) part = whole := by
  obtain ⟨standing, found, keeps⟩ := within [] part rfl
  cases found
  cases part with
  | object entries => exact absurd rfl (notObject entries)
  | _ => exact keeps.symm

mutual

theorem merged_of_within : ∀ (part whole : Json), part.Distinct → Within part whole →
    merged (some whole) part = whole
  | .object incoming, whole, distinct, within => by
      obtain ⟨entries, rfl⟩ := within.object
      refine congrArg Json.object (mergedEntries_of_within incoming entries distinct.2 ?_)
      intro entry member
      have found := (Keyed.get?_eq_some_iff distinct.1).mpr member
      exact within_object_iff.mp within entry.1 entry.2 found
  | .null, _, _, within => within.merged_of_not_object nofun
  | .bool _, _, _, within => within.merged_of_not_object nofun
  | .integer _, _, _, within => within.merged_of_not_object nofun
  | .double _, _, _, within => within.merged_of_not_object nofun
  | .string _, _, _, within => within.merged_of_not_object nofun
  | .array _, _, _, within => within.merged_of_not_object nofun

theorem mergedEntries_of_within : ∀ incoming entries : List (String × Json),
    DistinctEntries incoming →
    (∀ entry ∈ incoming, ∃ standing, Keyed.get? entry.1 entries = some standing ∧
      Within entry.2 standing) →
    mergedEntries entries incoming = entries
  | [], _, _, _ => rfl
  | (key, value) :: incoming, entries, distinct, kept => by
      obtain ⟨⟨standing, found, within⟩, others⟩ := List.forall_mem_cons.mp kept
      rw [mergedEntries, found, merged_of_within value standing distinct.1 within,
        Keyed.put_of_get? found]
      exact mergedEntries_of_within incoming entries distinct.2 others

end

end Json

namespace Dictionary

variable {dictionary other : Dictionary}

theorem toJson_inj (same : dictionary.toJson = other.toJson) : dictionary = other := by
  obtain ⟨entries, _⟩ := dictionary
  cases same
  rfl

theorem toJson_merge (dictionary other : Dictionary) :
    (dictionary.merge other).toJson = Json.merged (some dictionary.toJson) other.toJson := rfl

/-- A message stands in a merged dictionary if and only if it came in, or it stood there and
nothing came in at its path or, other than objects, above it. -/
theorem stringAt?_merge (dictionary other : Dictionary) (path : List String) (text : String) :
    ((dictionary.merge other).stringAt? path = some text ↔
      other.stringAt? path = some text ∨
        (other.toJson.at? path = none ∧ ¬ other.toJson.Blocks path ∧
          dictionary.stringAt? path = some text)) ∧
    (other.stringAt? path = some text → (dictionary.merge other).stringAt? path = some text) ∧
    (dictionary.stringAt? path = some text →
      (dictionary.merge other).stringAt? path ≠ some text →
      (∃ value, other.toJson.at? path = some value ∧ value ≠ .string text) ∨
        other.toJson.Blocks path) := by
  have leaves : (dictionary.merge other).stringAt? path = some text ↔
      other.stringAt? path = some text ∨
        (other.toJson.at? path = none ∧ ¬ other.toJson.Blocks path ∧
          dictionary.stringAt? path = some text) := by
    simp only [stringAt?_eq_some_iff, toJson_merge]
    exact Json.at?_merged_eq_string_iff other.distinct
  refine ⟨leaves, fun found => leaves.mpr (.inl found), fun found lost => ?_⟩
  rw [ne_eq, leaves, not_or] at lost
  obtain ⟨notIncoming, notLeft⟩ := lost
  by_cases blocked : other.toJson.Blocks path
  · exact .inr blocked
  · cases incoming : other.toJson.at? path with
    | none => exact absurd ⟨incoming, blocked, found⟩ notLeft
    | some value =>
        refine .inl ⟨value, rfl, fun same => notIncoming ?_⟩
        rw [stringAt?_eq_some_iff, incoming, same]

def homeFile : Dictionary :=
  (Dictionary.empty.insert "title" (.string "Heim")).insert "menu"
    (.object [("open", .string "Auf"), ("help", .string "Hilfe")])

def homeUpdate : Dictionary :=
  (Dictionary.empty.insert "title" .null).insert "menu"
    (.object [("open", .object [("file", .string "Datei")])])

theorem stringAt?_merge_homeUpdate :
    homeUpdate.stringAt? ["menu", "open", "file"] = some "Datei" ∧
      (homeFile.merge homeUpdate).stringAt? ["menu", "open", "file"] = some "Datei" ∧
      homeFile.stringAt? ["title"] = some "Heim" ∧
      (homeFile.merge homeUpdate).stringAt? ["title"] ≠ some "Heim" ∧
      ((∃ value, homeUpdate.toJson.at? ["title"] = some value ∧ value ≠ .string "Heim") ∨
        homeUpdate.toJson.Blocks ["title"]) := by
  have incoming : homeUpdate.stringAt? ["menu", "open", "file"] = some "Datei" := by decide
  have title : homeFile.stringAt? ["title"] = some "Heim" := by decide
  have lost : (homeFile.merge homeUpdate).stringAt? ["title"] ≠ some "Heim" := by decide
  exact ⟨incoming, (stringAt?_merge homeFile homeUpdate _ _).2.1 incoming, title, lost,
    (stringAt?_merge homeFile homeUpdate _ _).2.2 title lost⟩

theorem within_merge (dictionary other : Dictionary) :
    Json.Within other.toJson (dictionary.merge other).toJson :=
  Json.merged_within other.toJson other.distinct (some dictionary.toJson)

/-- Merging changes nothing, not even the order of keys, if and only if all that comes in stands
there already. -/
theorem merge_eq_self_iff :
    dictionary.merge other = dictionary ↔ Json.Within other.toJson dictionary.toJson := by
  constructor
  · intro same
    have within := within_merge dictionary other
    rwa [same] at within
  · exact fun within => toJson_inj (Json.merged_of_within _ _ other.distinct within)

/-- Merging the same once more gives the same entries in the same order. -/
theorem merge_repeated (dictionary other fragment : Dictionary) (name : String) :
    (dictionary.merge other).merge other = dictionary.merge other ∧
      (dictionary.mergeNamespace name fragment).mergeNamespace name fragment =
        dictionary.mergeNamespace name fragment :=
  ⟨merge_eq_self_iff.mpr (within_merge dictionary other),
    merge_eq_self_iff.mpr (within_merge dictionary (fragment.underNamespace name))⟩

end Dictionary

end Phrasebook
