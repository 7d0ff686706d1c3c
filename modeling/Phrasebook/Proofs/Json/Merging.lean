import Phrasebook.Dictionary
import Phrasebook.Proofs.Keyed

namespace Phrasebook

namespace Json

/-- What stands in the place of a value keeps it: an object is still an object, which may hold
more, and any other value is the same. -/
def Keeps (standing : Json) : Json → Prop
  | .object _ => ∃ entries, standing = .object entries
  | value => standing = value

/-- Everything that `part` holds is kept in `whole` at its own path. -/
def Within (part whole : Json) : Prop :=
  ∀ path value, part.at? path = some value →
    ∃ standing, whole.at? path = some standing ∧ standing.Keeps value

theorem Keeps.refl (value : Json) : value.Keeps value := by
  cases value with
  | object entries => exact ⟨entries, rfl⟩
  | null => rfl
  | bool flag => rfl
  | integer number => rfl
  | double number => rfl
  | string text => rfl
  | array items => rfl

theorem Keeps.trans {value standing later : Json} (first : standing.Keeps value)
    (second : later.Keeps standing) : later.Keeps value := by
  cases value with
  | object entries =>
      obtain ⟨entries, rfl⟩ := first
      exact second
  | null => cases first; exact second
  | bool flag => cases first; exact second
  | integer number => cases first; exact second
  | double number => cases first; exact second
  | string text => cases first; exact second
  | array items => cases first; exact second

theorem Within.refl (value : Json) : Within value value :=
  fun _ inner found => ⟨inner, found, .refl inner⟩

theorem Within.trans {part middle whole : Json} (first : Within part middle)
    (second : Within middle whole) : Within part whole := by
  intro path value found
  obtain ⟨standing, present, keeps⟩ := first path value found
  obtain ⟨later, presentLater, keepsLater⟩ := second path standing present
  exact ⟨later, presentLater, keeps.trans keepsLater⟩

theorem Within.object {entries : List (String × Json)} {whole : Json}
    (within : Within (.object entries) whole) : ∃ others, whole = .object others := by
  obtain ⟨standing, found, keeps⟩ := within [] _ rfl
  cases found
  exact keeps

theorem Within.string {part whole : Json} (within : Within part whole) {path : List String}
    {text : String} (found : part.at? path = some (.string text)) :
    whole.at? path = some (.string text) := by
  obtain ⟨standing, present, rfl⟩ := within path _ found
  exact present

theorem string?_eq_some_iff {value : Json} {text : String} :
    value.string? = some text ↔ value = .string text := by
  cases value <;> simp [string?]

theorem at?_object_cons (entries : List (String × Json)) (key : String) (path : List String) :
    (Json.object entries).at? (key :: path) =
      (Keyed.get? key entries).bind (·.at? path) := by
  simp only [at?]
  cases Keyed.get? key entries <;> rfl

theorem at?_append (value : Json) (path rest : List String) :
    value.at? (path ++ rest) = (value.at? path).bind (·.at? rest) := by
  induction path generalizing value with
  | nil => rfl
  | cons key path ih =>
      cases value with
      | object entries =>
          rw [List.cons_append, at?_object_cons, at?_object_cons, Option.bind_assoc]
          exact Option.bind_congr fun inner _ => ih inner
      | _ => rfl

theorem at?_cons_of_not_object {value : Json} (notObject : ∀ entries, value ≠ .object entries)
    (key : String) (path : List String) : value.at? (key :: path) = none := by
  cases value with
  | object entries => exact absurd rfl (notObject entries)
  | _ => rfl

theorem object_of_at?_cons {value inner : Json} {key : String} {path : List String}
    (found : value.at? (key :: path) = some inner) : ∃ entries, value = .object entries := by
  cases value with
  | object entries => exact ⟨entries, rfl⟩
  | _ => contradiction

theorem within_object_iff {entries others : List (String × Json)} :
    Within (.object entries) (.object others) ↔
      ∀ key value, Keyed.get? key entries = some value →
        ∃ standing, Keyed.get? key others = some standing ∧ Within value standing := by
  constructor
  · intro within key value found
    obtain ⟨_, present, _⟩ := within [key] value (by simp [found, at?])
    rw [at?_object_cons] at present
    obtain ⟨standing, present, _⟩ := Option.bind_eq_some_iff.mp present
    refine ⟨standing, present, fun path inner innerFound => ?_⟩
    simpa [at?_object_cons, present] using
      within (key :: path) inner (by simpa [at?_object_cons, found] using innerFound)
  · intro entry path value found
    cases path with
    | nil =>
        cases found
        exact ⟨_, rfl, others, rfl⟩
    | cons key path =>
        rw [at?_object_cons] at found
        obtain ⟨inner, present, innerFound⟩ := Option.bind_eq_some_iff.mp found
        obtain ⟨standing, presentThere, within⟩ := entry key inner present
        simpa [at?_object_cons, presentThere] using within path value innerFound

theorem get?_mergedEntries {incoming : List (String × Json)} (distinct : Keyed.Distinct incoming)
    (entries : List (String × Json)) (key : String) :
    Keyed.get? key (mergedEntries entries incoming) =
      match Keyed.get? key incoming with
      | some value => some (merged (Keyed.get? key entries) value)
      | none => Keyed.get? key entries := by
  induction incoming generalizing entries with
  | nil => simp [mergedEntries, Keyed.get?]
  | cons entry rest ih =>
      obtain ⟨name, value⟩ := entry
      obtain ⟨absent, distinct⟩ := List.nodup_cons.mp distinct
      rw [mergedEntries, ih distinct, Keyed.get?_put]
      by_cases here : key = name
      · subst here
        have noMore : Keyed.get? key rest = none := Keyed.get?_eq_none_iff.mpr absent
        simp [Keyed.get?, noMore]
      · have different : ¬ name = key := Ne.symm here
        simp only [Keyed.get?, if_neg here, if_neg different]

mutual

/-- What was merged last stands at its own paths, whatever stood there before. -/
theorem merged_within : ∀ (incoming : Json), incoming.Distinct → ∀ existing,
    Within incoming (merged existing incoming)
  | .object incoming, distinct, existing => by
      unfold merged
      split
      · -- two objects are merged entry by entry; all else is replaced as a whole
        next entries =>
          refine within_object_iff.mpr fun key value found => ?_
          refine ⟨merged (Keyed.get? key entries) value, ?_, ?_⟩
          · rw [get?_mergedEntries distinct.1, found]
          · exact merged_within_of_mem incoming distinct.2 _ (Keyed.mem_of_get? found) _
      · exact .refl _
  | .null, _, _ => .refl _
  | .bool _, _, _ => .refl _
  | .integer _, _, _ => .refl _
  | .double _, _, _ => .refl _
  | .string _, _, _ => .refl _
  | .array _, _, _ => .refl _

theorem merged_within_of_mem : ∀ (incoming : List (String × Json)), DistinctEntries incoming →
    ∀ entry ∈ incoming, ∀ existing, Within entry.2 (merged existing entry.2)
  | [], _, _, member, _ => by simp at member
  | (key, value) :: rest, distinct, entry, member, existing => by
      rcases List.mem_cons.mp member with rfl | member
      · exact merged_within value distinct.1 existing
      · exact merged_within_of_mem rest distinct.2 entry member existing

end

end Json

namespace Dictionary

variable {dictionary fragment other : Dictionary} {name wanted key : String}

theorem stringAt?_eq_some_iff {path : List String} {text : String} :
    dictionary.stringAt? path = some text ↔
      dictionary.toJson.at? path = some (.string text) := by
  rw [stringAt?, Option.bind_eq_some_iff]
  constructor
  · rintro ⟨value, found, isText⟩
    rw [found, Json.string?_eq_some_iff.mp isText]
  · exact fun found => ⟨_, found, rfl⟩

def Holds (dictionary : Dictionary) (name : String) (fragment : Dictionary) : Prop :=
  ∃ value, Keyed.get? name dictionary.entries = some value ∧ Json.Within fragment.toJson value

theorem mem_keys_iff :
    key ∈ dictionary.keys ↔ ∃ value, Keyed.get? key dictionary.entries = some value := by
  unfold keys
  rw [← Keyed.get?_isSome_iff, Option.isSome_iff_exists]

theorem get?_mergeNamespace (dictionary : Dictionary) (name : String) (fragment : Dictionary)
    (key : String) :
    Keyed.get? key (dictionary.mergeNamespace name fragment).entries =
      if key = name then some (Json.merged (Keyed.get? name dictionary.entries) fragment.toJson)
      else Keyed.get? key dictionary.entries := by
  have looked := Json.get?_mergedEntries (fragment.underNamespace name).distinct.1
    dictionary.entries key
  rw [show (dictionary.mergeNamespace name fragment).entries =
    Json.mergedEntries dictionary.entries (fragment.underNamespace name).entries from rfl, looked]
  by_cases same : key = name
  · simp [underNamespace, Keyed.get?, same]
  · simp [underNamespace, Keyed.get?, same, Ne.symm same]

theorem mem_keys_mergeNamespace :
    key ∈ (dictionary.mergeNamespace name fragment).keys ↔ key = name ∨ key ∈ dictionary.keys := by
  simp only [mem_keys_iff, get?_mergeNamespace]
  by_cases same : key = name
  · simp [same]
  · simp [same]

theorem holds_mergeNamespace_self (dictionary : Dictionary) (name : String)
    (fragment : Dictionary) : (dictionary.mergeNamespace name fragment).Holds name fragment :=
  ⟨Json.merged (Keyed.get? name dictionary.entries) fragment.toJson,
    by rw [get?_mergeNamespace, if_pos rfl], Json.merged_within _ fragment.distinct _⟩

/-- A fragment that is merged under another key takes nothing away. -/
theorem Holds.mergeNamespace (holds : dictionary.Holds wanted other) (different : wanted ≠ name) :
    (dictionary.mergeNamespace name fragment).Holds wanted other := by
  obtain ⟨value, found, within⟩ := holds
  exact ⟨value, by rw [get?_mergeNamespace, if_neg different, found], within⟩

theorem Holds.fragment? (holds : dictionary.Holds name fragment) :
    ∃ inner, dictionary.fragment? name = some inner ∧
      Json.Within fragment.toJson inner.toJson := by
  obtain ⟨value, found, within⟩ := holds
  obtain ⟨entries, rfl⟩ := within.object
  refine ⟨⟨entries, Json.Distinct.of_get? dictionary.distinct.2 found⟩, ?_, within⟩
  unfold Dictionary.fragment?
  split
  · next others present =>
      rw [found] at present
      cases present
      rfl
  · next absent => exact absurd found (absent entries)

theorem fragment?_toJson (found : dictionary.fragment? name = some fragment) :
    Keyed.get? name dictionary.entries = some fragment.toJson := by
  unfold Dictionary.fragment? at found
  split at found
  · next entries present =>
      cases found
      exact present
  · contradiction

theorem Holds.trans (holds : dictionary.Holds name other)
    (within : Json.Within fragment.toJson other.toJson) : dictionary.Holds name fragment := by
  obtain ⟨value, found, there⟩ := holds
  exact ⟨value, found, within.trans there⟩

theorem Holds.stringAt? (holds : dictionary.Holds name fragment) {path : List String}
    {text : String} (found : fragment.stringAt? path = some text) :
    dictionary.stringAt? (name :: path) = some text := by
  obtain ⟨value, present, within⟩ := holds
  unfold Dictionary.stringAt? at found ⊢
  obtain ⟨leaf, leafFound, isText⟩ := Option.bind_eq_some_iff.mp found
  rw [Json.string?_eq_some_iff] at isText
  subst isText
  have standing := within.string leafFound
  simp [toJson, Json.at?_object_cons, present, standing, Json.string?]

end Dictionary

end Phrasebook
