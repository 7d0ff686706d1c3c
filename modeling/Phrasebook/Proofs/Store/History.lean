import Phrasebook.Proofs.Json.Merging
import Phrasebook.Proofs.Store.Basic

namespace Phrasebook.MessageStore

inductive Change where
  | setLocale (locale : String) (dictionary : Dictionary)
  | mergeNamespace (locale name : String) (fragment : Dictionary)

namespace Change

def locale : Change → String
  | .setLocale locale _ => locale
  | .mergeNamespace locale _ _ => locale

def apply (store : MessageStore) : Change → MessageStore
  | .setLocale locale dictionary => store.setLocale locale dictionary
  | .mergeNamespace locale name fragment => store.mergeNamespace locale name fragment

def merges? (locale name : String) : Change → Option Dictionary
  | .setLocale _ _ => none
  | .mergeNamespace other wanted fragment =>
      if other = locale ∧ wanted = name then some fragment else none

end Change

def changed (store : MessageStore) (changes : List Change) : MessageStore :=
  changes.foldl Change.apply store

def lastMerged (changes : List Change) (locale name : String) : Option Dictionary :=
  changes.reverse.findSome? (Change.merges? locale name)

theorem lastMerged_concat (changes : List Change) (change : Change) (locale name : String) :
    lastMerged (changes ++ [change]) locale name =
      (change.merges? locale name).or (lastMerged changes locale name) := by
  simp only [lastMerged, List.reverse_append, List.reverse_singleton, List.singleton_append,
    List.findSome?_cons]
  cases change.merges? locale name <;> rfl

/-- No operation on one locale changes what the store says of another one. -/
theorem apply_of_ne (store : MessageStore) {change : Change} {other : String}
    (different : other ≠ change.locale) :
    (change.apply store).dictionary? other = store.dictionary? other ∧
      (change.apply store).hasLocale other = store.hasLocale other ∧
      (change.apply store).markers other = store.markers other := by
  cases change with
  | setLocale locale dictionary =>
      refine ⟨dictionary?_setLocale_of_ne different, ?_, markers_setLocale_of_ne different⟩
      rw [Bool.eq_iff_iff]
      exact hasLocale_setLocale.trans (or_iff_right different)
  | mergeNamespace locale name fragment =>
      exact ⟨dictionary?_mergeNamespace.trans (if_neg different), rfl,
        markers_mergeNamespace.trans (if_neg different)⟩

variable {previous dictionary fragment : Dictionary} {names : List String} {name : String}

theorem carryOver_cons (previous : Dictionary) (name : String) (names : List String)
    (dictionary : Dictionary) :
    carryOver previous (name :: names) dictionary =
      carryOver previous names
        (match previous.fragment? name with
        | some fragment => dictionary.mergeNamespace name fragment
        | none => dictionary) :=
  rfl

theorem carryOver_holds_of_holds (found : previous.fragment? name = some fragment)
    (holds : dictionary.Holds name fragment) :
    (carryOver previous names dictionary).Holds name fragment := by
  induction names generalizing dictionary with
  | nil => exact holds
  | cons next names ih =>
      rw [carryOver_cons]
      by_cases same : next = name
      · -- a name that comes again has the same fragment merged again
        subst same
        rw [found]
        exact ih (dictionary.holds_mergeNamespace_self next fragment)
      · cases previous.fragment? next with
        | none => exact ih holds
        | some other => exact ih (holds.mergeNamespace (Ne.symm same))

theorem carryOver_holds (found : previous.fragment? name = some fragment)
    (member : name ∈ names) : (carryOver previous names dictionary).Holds name fragment := by
  induction names generalizing dictionary with
  | nil => simp at member
  | cons next names ih =>
      rw [carryOver_cons]
      rcases List.mem_cons.mp member with rfl | member
      · rw [found]
        exact carryOver_holds_of_holds found (dictionary.holds_mergeNamespace_self name fragment)
      · exact ih member

theorem carryOver_within
    (fragments : ∀ key ∈ previous.keys, key ∈ names ∧ (previous.fragment? key).isSome) :
    Json.Within previous.toJson (carryOver previous names dictionary).toJson := by
  refine Json.within_object_iff.mpr fun key value present => ?_
  obtain ⟨member, isFragment⟩ := fragments key (Dictionary.mem_keys_iff.mpr ⟨value, present⟩)
  obtain ⟨fragment, found⟩ := Option.isSome_iff_exists.mp isFragment
  obtain ⟨standing, there, within⟩ :
      (carryOver previous names dictionary).Holds key fragment := carryOver_holds found member
  have same := Dictionary.fragment?_toJson found
  rw [present] at same
  cases same
  exact ⟨standing, there, within⟩

/-- What holds for a locale between any two changes. -/
structure Kept (seed : List (String × Dictionary)) (changes : List Change)
    (store : MessageStore) (locale : String) : Prop where
  loaded : store.hasLocale locale = true ↔
    locale ∈ Keyed.keys seed ∨ ∃ dictionary, .setLocale locale dictionary ∈ changes
  present : store.hasLocale locale = true →
    ∃ dictionary, store.dictionary? locale = some dictionary
  holds : ∀ name ∈ store.markers locale,
    ∃ fragment dictionary, lastMerged changes locale name = some fragment ∧
      store.dictionary? locale = some dictionary ∧ dictionary.Holds name fragment
  /-- Before its own dictionary is set, a locale has marked namespaces only. -/
  marked : ∀ dictionary, store.hasLocale locale = false →
    store.dictionary? locale = some dictionary → dictionary.keys ⊆ store.markers locale

variable {seed : List (String × Dictionary)} {changes : List Change} {store : MessageStore}
  {locale : String}

theorem seeded_kept (seed : List (String × Dictionary)) (locale : String) :
    Kept seed [] (seeded seed) locale where
  loaded := by simp [hasLocale_iff, seeded]
  present loaded := by
    rw [← Option.isSome_iff_exists, dictionary?_seeded]
    exact hasLocale_iff.mp loaded
  holds name member := by simp [markers, seeded, Keyed.get?] at member
  marked dictionary unloaded found := by
    have inSeed := (dictionary?_seeded seed locale).mp (by rw [found]; rfl)
    rw [hasLocale_iff.mpr inSeed] at unloaded
    contradiction

theorem Kept.other (kept : Kept seed changes store locale) {change : Change}
    (different : locale ≠ change.locale) :
    Kept seed (changes ++ [change]) (change.apply store) locale := by
  obtain ⟨sameDictionary, sameLoaded, sameMarkers⟩ := store.apply_of_ne different
  have notSet : ∀ dictionary, change ≠ .setLocale locale dictionary := by
    rintro dictionary rfl
    exact different rfl
  have notMerged : ∀ name, change.merges? locale name = none := by
    intro name
    cases change with
    | setLocale other dictionary => rfl
    | mergeNamespace other wanted fragment => exact if_neg fun same => different same.1.symm
  constructor
  case loaded =>
    rw [sameLoaded, kept.loaded]
    simp [Ne.symm (notSet _)]
  case present =>
    rw [sameLoaded, sameDictionary]
    exact kept.present
  case holds =>
    intro name member
    rw [sameMarkers] at member
    rw [sameDictionary, lastMerged_concat, notMerged, Option.none_or]
    exact kept.holds name member
  case marked =>
    rw [sameLoaded, sameDictionary, sameMarkers]
    exact kept.marked

theorem Kept.setLocale (kept : Kept seed changes store locale) (dictionary : Dictionary) :
    Kept seed (changes ++ [.setLocale locale dictionary]) (store.setLocale locale dictionary)
      locale := by
  have loaded : (store.setLocale locale dictionary).hasLocale locale = true :=
    hasLocale_setLocale.mpr (.inl rfl)
  constructor
  case loaded => simp [loaded]
  case present =>
    intro _
    rcases store.setLocale_cases locale dictionary with ⟨previous, _, _, set⟩ | ⟨_, set⟩
    · exact ⟨_, by rw [set]; exact Keyed.get?_put_self ..⟩
    · exact ⟨_, by rw [set]; exact Keyed.get?_put_self ..⟩
  case holds =>
    intro name member
    rcases store.setLocale_cases locale dictionary with ⟨previous, _, found, set⟩ | ⟨_, set⟩
    · rw [set] at member ⊢
      obtain ⟨fragment, standing, merged, present, holds⟩ := kept.holds name member
      rw [found] at present
      cases present
      obtain ⟨inner, innerFound, within⟩ := holds.fragment?
      refine ⟨fragment, _, ?_, Keyed.get?_put_self .., ?_⟩
      · rw [lastMerged_concat]
        exact merged
      · exact (carryOver_holds innerFound member).trans within
    · -- a later dictionary leaves no markers
      rw [set] at member
      simp [markers, Keyed.get?_erase] at member
  case marked =>
    intro standing unloaded
    rw [loaded] at unloaded
    contradiction

theorem Kept.mergeNamespace (kept : Kept seed changes store locale) (name : String)
    (fragment : Dictionary) :
    Kept seed (changes ++ [.mergeNamespace locale name fragment])
      (store.mergeNamespace locale name fragment) locale := by
  have found : (store.mergeNamespace locale name fragment).dictionary? locale =
      some (((store.dictionary? locale).getD .empty).mergeNamespace name fragment) :=
    dictionary?_mergeNamespace.trans (if_pos rfl)
  constructor
  case loaded =>
    rw [hasLocale_mergeNamespace, kept.loaded]
    simp
  case present => exact fun _ => ⟨_, found⟩
  case holds =>
    intro wanted member
    rw [lastMerged_concat]
    by_cases same : wanted = name
    · subst same
      exact ⟨fragment, _, by simp [Change.merges?], found, Dictionary.holds_mergeNamespace_self ..⟩
    · rw [mem_markers_mergeNamespace] at member
      obtain ⟨last, dictionary, merged, present, holds⟩ :=
        kept.holds wanted (member.resolve_left fun both => same both.2)
      rw [present] at found
      refine ⟨last, _, ?_, found, holds.mergeNamespace same⟩
      simp [Change.merges?, Ne.symm same, merged]
  case marked =>
    intro dictionary unloaded present key member
    rw [found] at present
    cases present
    rw [mem_markers_mergeNamespace]
    rcases Dictionary.mem_keys_mergeNamespace.mp member with same | member
    · exact .inl ⟨rfl, same⟩
    · refine .inr ?_
      cases before : store.dictionary? locale with
      | none => simp [before, Dictionary.keys, Dictionary.empty, Keyed.keys] at member
      | some previous =>
          rw [before] at member
          exact kept.marked previous unloaded before member

theorem Kept.apply (kept : ∀ locale, Kept seed changes store locale) (change : Change)
    (locale : String) : Kept seed (changes ++ [change]) (change.apply store) locale := by
  by_cases same : locale = change.locale
  · subst same
    cases change with
    | setLocale locale dictionary => exact (kept locale).setLocale dictionary
    | mergeNamespace locale name fragment => exact (kept locale).mergeNamespace name fragment
  · exact (kept locale).other same

theorem Kept.changed (kept : ∀ locale, Kept seed changes store locale) (more : List Change)
    (locale : String) : Kept seed (changes ++ more) (store.changed more) locale := by
  induction more generalizing changes store with
  | nil => simpa [MessageStore.changed] using kept locale
  | cons change more ih =>
      rw [List.append_cons]
      exact ih (Kept.apply kept change)

/-- What the callers of a store may rely on. -/
structure Sound (seed : List (String × Dictionary)) (changes : List Change)
    (store : MessageStore) : Prop where
  present : ∀ locale, store.hasLocale locale = true → (store.dictionary? locale).isSome
  /-- A marked namespace is an object of the dictionary.  All strings of the fragment that was merged
  last for it stand there at their own paths. -/
  merged : ∀ locale name, store.hasNamespace locale name = true →
    ∃ fragment dictionary inner, lastMerged changes locale name = some fragment ∧
      store.dictionary? locale = some dictionary ∧ dictionary.fragment? name = some inner ∧
      ∀ path text, fragment.stringAt? path = some text →
        dictionary.stringAt? (name :: path) = some text
  /-- The dictionary of a locale that is not loaded has its marked namespaces and nothing else. -/
  unloaded : ∀ locale dictionary, store.hasLocale locale = false →
    store.dictionary? locale = some dictionary →
    ∀ key, key ∈ dictionary.keys ↔ store.hasNamespace locale key = true
  /-- The first dictionary that is set for the locale takes over all of it. -/
  carried : ∀ locale previous dictionary, store.hasLocale locale = false →
    store.dictionary? locale = some previous →
    ∃ next, (store.setLocale locale dictionary).dictionary? locale = some next ∧
      Json.Within previous.toJson next.toJson ∧
      ∀ name, (store.setLocale locale dictionary).hasNamespace locale name =
        store.hasNamespace locale name
  /-- A locale is loaded if it was there from the start or its dictionary was set. -/
  loaded : ∀ locale, store.hasLocale locale = true ↔
    locale ∈ Keyed.keys seed ∨ ∃ dictionary, .setLocale locale dictionary ∈ changes
  others : ∀ (change : Change) other, other ≠ change.locale →
    (change.apply store).dictionary? other = store.dictionary? other ∧
      (change.apply store).hasLocale other = store.hasLocale other ∧
      ∀ name, (change.apply store).hasNamespace other name = store.hasNamespace other name

theorem Kept.mem_keys_iff (kept : Kept seed changes store locale) {dictionary : Dictionary}
    (unloaded : store.hasLocale locale = false)
    (found : store.dictionary? locale = some dictionary) (key : String) :
    key ∈ dictionary.keys ↔ key ∈ store.markers locale := by
  refine ⟨fun member => kept.marked dictionary unloaded found member, fun member => ?_⟩
  obtain ⟨fragment, standing, _, present, value, valueFound, _⟩ := kept.holds key member
  rw [found] at present
  cases present
  exact Dictionary.mem_keys_iff.mpr ⟨value, valueFound⟩

theorem Kept.carried (kept : Kept seed changes store locale) {previous : Dictionary}
    (unloaded : store.hasLocale locale = false)
    (found : store.dictionary? locale = some previous) (dictionary : Dictionary) :
    ∃ next, (store.setLocale locale dictionary).dictionary? locale = some next ∧
      Json.Within previous.toJson next.toJson ∧
      ∀ name, (store.setLocale locale dictionary).hasNamespace locale name =
        store.hasNamespace locale name := by
  rcases store.setLocale_cases locale dictionary with ⟨_, _, present, set⟩ | ⟨loaded | none, _⟩
  · rw [found] at present
    cases present
    rw [set]
    refine ⟨_, Keyed.get?_put_self .., carryOver_within fun key member => ?_, fun name => rfl⟩
    have marked := (kept.mem_keys_iff unloaded found key).mp member
    obtain ⟨fragment, standing, _, present, holds⟩ := kept.holds key marked
    rw [found] at present
    cases present
    obtain ⟨inner, innerFound, _⟩ := holds.fragment?
    exact ⟨marked, by rw [innerFound]; rfl⟩
  · rw [unloaded] at loaded
    contradiction
  · rw [found] at none
    contradiction

/-- The store is sound after any changes of any seed, the empty one included. -/
theorem changed_sound (seed : List (String × Dictionary)) (changes : List Change) :
    Sound seed changes ((seeded seed).changed changes) := by
  have kept : ∀ locale, Kept seed changes ((seeded seed).changed changes) locale :=
    Kept.changed (seeded_kept seed) changes
  constructor
  case present =>
    intro locale loaded
    exact Option.isSome_iff_exists.mpr ((kept locale).present loaded)
  case merged =>
    intro locale name marked
    obtain ⟨fragment, dictionary, last, found, holds⟩ :=
      (kept locale).holds name (hasNamespace_iff.mp marked)
    obtain ⟨inner, innerFound, _⟩ := holds.fragment?
    exact ⟨fragment, dictionary, inner, last, found, innerFound, fun _ _ => holds.stringAt?⟩
  case unloaded =>
    intro locale dictionary unloaded found key
    rw [hasNamespace_iff]
    exact (kept locale).mem_keys_iff unloaded found key
  case carried =>
    intro locale previous dictionary unloaded found
    exact (kept locale).carried unloaded found dictionary
  case loaded => exact fun locale => (kept locale).loaded
  case others =>
    intro change other different
    obtain ⟨sameDictionary, sameLoaded, sameMarkers⟩ := apply_of_ne _ different
    exact ⟨sameDictionary, sameLoaded, fun name => by simp only [hasNamespace, sameMarkers]⟩

end Phrasebook.MessageStore
