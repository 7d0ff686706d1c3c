import Phrasebook.MessageStore
import Phrasebook.Proofs.Keyed

namespace Phrasebook.MessageStore

variable {store : MessageStore} {locale other name wanted : String}
  {dictionary fragment : Dictionary}

theorem hasLocale_iff : store.hasLocale locale = true ↔ locale ∈ store.loaded :=
  decide_eq_true_iff

theorem hasNamespace_iff :
    store.hasNamespace locale name = true ↔ name ∈ store.markers locale :=
  decide_eq_true_iff

theorem dictionary?_seeded (dictionaries : List (String × Dictionary)) (locale : String) :
    ((seeded dictionaries).dictionary? locale).isSome ↔ locale ∈ Keyed.keys dictionaries := by
  suffices generalized : ∀ entries : List (String × Dictionary),
      (Keyed.get? locale (dictionaries.foldl
        (fun entries entry => Keyed.put entry.1 entry.2 entries) entries)).isSome ↔
        locale ∈ Keyed.keys dictionaries ∨ (Keyed.get? locale entries).isSome by
    simpa [seeded, dictionary?, Keyed.get?] using generalized []
  induction dictionaries with
  | nil => simp [Keyed.keys]
  | cons entry rest ih =>
      intro entries
      rw [List.foldl_cons, ih, Keyed.get?_put]
      by_cases here : locale = entry.1
      · simp [Keyed.keys, here]
      · simp [Keyed.keys, here]

theorem mem_of_dictionary?_seeded {dictionaries : List (String × Dictionary)}
    (found : (seeded dictionaries).dictionary? locale = some dictionary) :
    (locale, dictionary) ∈ dictionaries := by
  suffices generalized : ∀ entries : List (String × Dictionary),
      Keyed.get? locale (dictionaries.foldl
        (fun entries entry => Keyed.put entry.1 entry.2 entries) entries) = some dictionary →
        (locale, dictionary) ∈ dictionaries ∨ Keyed.get? locale entries = some dictionary by
    simpa [Keyed.get?] using generalized [] found
  clear found
  induction dictionaries with
  | nil => exact fun _ found => .inr found
  | cons entry rest ih =>
      intro entries found
      rcases ih _ found with member | found
      · exact .inl (List.mem_cons_of_mem _ member)
      · rw [Keyed.get?_put] at found
        split at found
        · next here =>
            cases found
            exact .inl (by simp [here])
        · exact .inr found

/-- The first dictionary of a locale takes over what was merged before it; a later one does not,
and drops the markers. -/
theorem setLocale_cases (store : MessageStore) (locale : String) (dictionary : Dictionary) :
    (∃ previous, store.hasLocale locale = false ∧ store.dictionary? locale = some previous ∧
      store.setLocale locale dictionary =
        { store with
          dictionaries := Keyed.put locale
            (carryOver previous (store.markers locale) dictionary) store.dictionaries
          loaded := store.loaded ++ [locale] }) ∨
    ((store.hasLocale locale = true ∨ store.dictionary? locale = none) ∧
      store.setLocale locale dictionary =
        { dictionaries := Keyed.put locale dictionary store.dictionaries
          loaded := if store.hasLocale locale then store.loaded else store.loaded ++ [locale]
          namespaces := Keyed.erase locale store.namespaces }) := by
  unfold setLocale
  cases isLoaded : store.hasLocale locale with
  | true => exact .inr ⟨.inl rfl, rfl⟩
  | false =>
      cases present : store.dictionary? locale with
      | none => exact .inr ⟨.inr rfl, rfl⟩
      | some previous => exact .inl ⟨previous, rfl, rfl, rfl⟩

theorem hasLocale_setLocale :
    (store.setLocale locale dictionary).hasLocale other = true ↔
      other = locale ∨ store.hasLocale other = true := by
  rw [hasLocale_iff, hasLocale_iff]
  rcases store.setLocale_cases locale dictionary with ⟨previous, _, _, set⟩ | ⟨_, set⟩
  · simp [set, or_comm]
  · rw [set]
    cases isLoaded : store.hasLocale locale with
    | false => simp [or_comm]
    | true =>
        refine ⟨.inr, ?_⟩
        rintro (rfl | loaded)
        · exact hasLocale_iff.mp isLoaded
        · exact loaded

theorem dictionary?_setLocale_of_ne (different : other ≠ locale) :
    (store.setLocale locale dictionary).dictionary? other = store.dictionary? other := by
  rcases store.setLocale_cases locale dictionary with ⟨previous, _, _, set⟩ | ⟨_, set⟩
  · rw [set]
    exact Keyed.get?_put_of_ne different _ _
  · rw [set]
    exact Keyed.get?_put_of_ne different _ _

theorem markers_setLocale_of_ne (different : other ≠ locale) :
    (store.setLocale locale dictionary).markers other = store.markers other := by
  rcases store.setLocale_cases locale dictionary with ⟨previous, _, _, set⟩ | ⟨_, set⟩
  · rw [set]
    rfl
  · rw [set]
    simp only [markers, Keyed.get?_erase, if_neg different]

theorem markers_setLocale_subset :
    (store.setLocale locale dictionary).markers other ⊆ store.markers other := by
  intro name member
  rcases store.setLocale_cases locale dictionary with ⟨previous, _, _, set⟩ | ⟨_, set⟩
  · rw [set] at member
    exact member
  · rw [set] at member
    by_cases same : other = locale
    · simp [markers, Keyed.get?_erase, same] at member
    · simpa only [markers, Keyed.get?_erase, if_neg same] using member

@[simp] theorem hasLocale_mergeNamespace :
    (store.mergeNamespace locale name fragment).hasLocale other = store.hasLocale other := rfl

theorem dictionary?_mergeNamespace :
    (store.mergeNamespace locale name fragment).dictionary? other =
      if other = locale then
        some (((store.dictionary? locale).getD .empty).mergeNamespace name fragment)
      else store.dictionary? other :=
  Keyed.get?_put ..

theorem markers_mergeNamespace :
    (store.mergeNamespace locale name fragment).markers other =
      if other = locale then
        if name ∈ store.markers locale then store.markers locale
        else store.markers locale ++ [name]
      else store.markers other := by
  simp only [mergeNamespace, markers, Keyed.get?_put]
  split <;> rfl

theorem mem_markers_mergeNamespace :
    wanted ∈ (store.mergeNamespace locale name fragment).markers other ↔
      (other = locale ∧ wanted = name) ∨ wanted ∈ store.markers other := by
  rw [markers_mergeNamespace]
  by_cases same : other = locale
  · subst same
    by_cases present : name ∈ store.markers other
    · simp only [if_true, if_pos present, true_and]
      refine ⟨.inr, ?_⟩
      rintro (rfl | member)
      · exact present
      · exact member
    · simp [present, or_comm]
  · simp [same]

theorem hasNamespace_of_setLocale
    (marked : (store.setLocale locale dictionary).hasNamespace other name = true) :
    store.hasNamespace other name = true :=
  hasNamespace_iff.mpr (markers_setLocale_subset (hasNamespace_iff.mp marked))

theorem hasNamespace_mergeNamespace :
    (store.mergeNamespace locale name fragment).hasNamespace other wanted = true ↔
      (other = locale ∧ wanted = name) ∨ store.hasNamespace other wanted = true := by
  rw [hasNamespace_iff, hasNamespace_iff, mem_markers_mergeNamespace]

/-- Only a new dictionary for the same locale takes a marker away. -/
theorem hasNamespace_setLocale_of_ne (different : other ≠ locale) :
    (store.setLocale locale dictionary).hasNamespace other name =
      store.hasNamespace other name := by
  simp only [hasNamespace, markers_setLocale_of_ne different]

theorem resolve_eq_none_iff {chain : List String} {key : String} :
    store.resolve chain key = none ↔ ∀ locale ∈ chain, store.find? locale key = none := by
  simp only [resolve, List.findSome?_eq_none_iff, Option.map_eq_none_iff]

/-- The locale that is found is the first of the chain with a message for the key. -/
theorem resolve_eq_some_iff {chain : List String} {key message : String} :
    store.resolve chain key = some (locale, message) ↔
      ∃ before rest, chain = before ++ locale :: rest ∧
        store.find? locale key = some message ∧
        ∀ earlier ∈ before, store.find? earlier key = none := by
  simp only [resolve, List.findSome?_eq_some_iff, Option.map_eq_some_iff, Prod.mk.injEq,
    Option.map_eq_none_iff]
  constructor
  · rintro ⟨before, _, rest, split, ⟨_, found, rfl, rfl⟩, none⟩
    exact ⟨before, rest, split, found, none⟩
  · rintro ⟨before, rest, split, found, none⟩
    exact ⟨before, locale, rest, split, ⟨message, found, rfl, rfl⟩, none⟩

end Phrasebook.MessageStore
