import Phrasebook.Proofs.Store.History

namespace Phrasebook

namespace Dictionary

variable {left right : Dictionary}

/-- Dictionaries with the same entries in any order answer alike. -/
theorem stringAt?_congr
    (same : ∀ key, Keyed.get? key left.entries = Keyed.get? key right.entries)
    (path : List String) : left.stringAt? path = right.stringAt? path := by
  cases path with
  | nil => rfl
  | cons key path => simp only [stringAt?, toJson, Json.at?_object_cons, same]

theorem find?_congr
    (same : ∀ key, Keyed.get? key left.entries = Keyed.get? key right.entries)
    (key : String) : left.find? key = right.find? key := by
  simp only [find?, stringAt?_congr same]

theorem fragment?_of_get? {dictionary fragment : Dictionary} {name : String}
    (found : Keyed.get? name dictionary.entries = some fragment.toJson) :
    dictionary.fragment? name = some fragment := by
  unfold fragment?
  split
  · next entries present =>
      rw [found] at present
      cases present
      rfl
  · next absent => exact absurd found (absent fragment.entries)

end Dictionary

namespace MessageStore

def standing? (main : Option Dictionary) (fragments : List (String × Dictionary))
    (key : String) : Option Json :=
  let own := main.bind fun dictionary => Keyed.get? key dictionary.entries
  match Keyed.get? key fragments with
  | some fragment => some (Json.merged own fragment.toJson)
  | none => own

variable {previous dictionary : Dictionary} {names : List String}

theorem get?_carryOver (distinct : names.Nodup) (key : String) :
    Keyed.get? key (carryOver previous names dictionary).entries =
      match if key ∈ names then previous.fragment? key else none with
      | some fragment => some (Json.merged (Keyed.get? key dictionary.entries) fragment.toJson)
      | none => Keyed.get? key dictionary.entries := by
  induction names generalizing dictionary with
  | nil => simp [carryOver]
  | cons next names ih =>
      obtain ⟨absent, distinct⟩ := List.nodup_cons.mp distinct
      rw [carryOver_cons, ih distinct]
      by_cases here : key = next
      · subst here
        rw [if_neg absent, if_pos (by simp)]
        cases previous.fragment? key with
        | none => rfl
        | some fragment => simp only [Dictionary.get?_mergeNamespace, if_true]
      · have listed : key ∈ next :: names ↔ key ∈ names := by simp [here]
        simp only [listed]
        cases previous.fragment? next with
        | none => rfl
        | some fragment => simp only [Dictionary.get?_mergeNamespace, if_neg here]

/-- What a locale has when these parts have come. -/
structure Arrived (store : MessageStore) (locale : String) (main : Option Dictionary)
    (fragments : List (String × Dictionary)) : Prop where
  distinct : Keyed.Distinct fragments
  loaded : store.hasLocale locale = main.isSome
  markers : store.markers locale = Keyed.keys fragments
  nothing : store.dictionary? locale = none → main = none ∧ fragments = []
  entries : ∀ dictionary, store.dictionary? locale = some dictionary →
    ∀ key, Keyed.get? key dictionary.entries = standing? main fragments key

variable {store : MessageStore} {locale : String} {main : Option Dictionary}
  {fragments : List (String × Dictionary)}

theorem Arrived.mergeNamespace (arrived : Arrived store locale main fragments) {name : String}
    (isNew : name ∉ Keyed.keys fragments) (fragment : Dictionary) :
    Arrived (store.mergeNamespace locale name fragment) locale main
      (fragments ++ [(name, fragment)]) := by
  have appended := Keyed.put_of_notMem isNew fragment
  have found : (store.mergeNamespace locale name fragment).dictionary? locale =
      some (((store.dictionary? locale).getD .empty).mergeNamespace name fragment) :=
    dictionary?_mergeNamespace.trans (if_pos rfl)
  have before : ∀ key, Keyed.get? key ((store.dictionary? locale).getD .empty).entries =
      standing? main fragments key := by
    intro key
    cases present : store.dictionary? locale with
    | none =>
        obtain ⟨rfl, rfl⟩ := arrived.nothing present
        rfl
    | some dictionary => exact arrived.entries dictionary present key
  constructor
  case distinct =>
    rw [← appended]
    exact arrived.distinct.put name fragment
  case loaded => exact arrived.loaded
  case markers =>
    rw [markers_mergeNamespace, if_pos rfl, arrived.markers, if_neg isNew]
    simp [Keyed.keys]
  case nothing =>
    intro absent
    rw [found] at absent
    contradiction
  case entries =>
    intro dictionary present key
    rw [found] at present
    cases present
    rw [Dictionary.get?_mergeNamespace, ← appended]
    by_cases here : key = name
    · subst here
      have notThere : Keyed.get? key fragments = none := Keyed.get?_eq_none_iff.mpr isNew
      simp [before, standing?, notThere, Keyed.get?_put_self]
    · simp only [if_neg here, before, standing?, Keyed.get?_put_of_ne here]

theorem Arrived.setLocale (arrived : Arrived store locale none fragments)
    (dictionary : Dictionary) :
    Arrived (store.setLocale locale dictionary) locale (some dictionary) fragments := by
  have loaded : (store.setLocale locale dictionary).hasLocale locale = true :=
    hasLocale_setLocale.mpr (.inl rfl)
  -- Either fragments have come before and are carried over, or nothing has.
  rcases store.setLocale_cases locale dictionary with
    ⟨previous, _, present, set⟩ | ⟨isLoaded | absent, set⟩
  · have found : (store.setLocale locale dictionary).dictionary? locale =
        some (carryOver previous (store.markers locale) dictionary) := by
      rw [set]
      exact Keyed.get?_put_self ..
    constructor
    case distinct => exact arrived.distinct
    case loaded => exact loaded
    case markers =>
      rw [set]
      exact arrived.markers
    case nothing =>
      intro absent
      rw [found] at absent
      contradiction
    case entries =>
      intro standing standingFound key
      rw [found] at standingFound
      cases standingFound
      have fragmentOf : (if key ∈ store.markers locale then previous.fragment? key else none) =
          Keyed.get? key fragments := by
        have there := arrived.entries previous present key
        simp only [arrived.markers, ← Keyed.get?_isSome_iff]
        cases fetched : Keyed.get? key fragments with
        | none => rfl
        | some fragment =>
            simp only [standing?, fetched] at there
            exact Dictionary.fragment?_of_get? there
      rw [get?_carryOver (arrived.markers ▸ arrived.distinct), fragmentOf]
      rfl
  · rw [arrived.loaded] at isLoaded
    contradiction
  · obtain ⟨_, rfl⟩ := arrived.nothing absent
    have found : (store.setLocale locale dictionary).dictionary? locale = some dictionary := by
      rw [set]
      exact Keyed.get?_put_self ..
    constructor
    case distinct => exact arrived.distinct
    case loaded => exact loaded
    case markers =>
      rw [set]
      simp [MessageStore.markers, Keyed.get?_erase, Keyed.keys]
    case nothing =>
      intro absent
      rw [found] at absent
      contradiction
    case entries =>
      intro standing standingFound key
      rw [found] at standingFound
      cases standingFound
      rfl

namespace Change

def main? : Change → Option Dictionary
  | .setLocale _ dictionary => some dictionary
  | .mergeNamespace .. => none

def fragment? : Change → Option (String × Dictionary)
  | .setLocale .. => none
  | .mergeNamespace _ name fragment => some (name, fragment)

end Change

/-- The dictionary comes once at most, and each fragment has a name of its own. -/
theorem Arrived.changed (arrived : Arrived store locale main fragments) (changes : List Change)
    (here : ∀ change ∈ changes, change.locale = locale)
    (once : (main.toList ++ changes.filterMap Change.main?).length ≤ 1)
    (distinct : Keyed.Distinct (fragments ++ changes.filterMap Change.fragment?)) :
    Arrived (store.changed changes) locale (main.or (changes.filterMap Change.main?).head?)
      (fragments ++ changes.filterMap Change.fragment?) := by
  induction changes generalizing store main fragments with
  | nil => simpa [MessageStore.changed] using arrived
  | cons change changes ih =>
      have isHere : change.locale = locale := here change (by simp)
      replace here := fun other member => here other (List.mem_cons_of_mem change member)
      cases change with
      | setLocale other dictionary =>
          cases isHere
          cases main with
          | some earlier => simp [Change.main?] at once
          | none => exact ih (arrived.setLocale dictionary) here once distinct
      | mergeNamespace other name fragment =>
          cases isHere
          replace distinct : Keyed.Distinct
              (fragments ++ (name, fragment) :: changes.filterMap Change.fragment?) := distinct
          have next := arrived.mergeNamespace distinct.notMem_keys fragment
          rw [List.append_cons] at distinct
          exact List.append_cons .. ▸ ih next here once distinct

/-- The changes that bring a dictionary and fragments to a locale. -/
def parts (locale : String) (dictionary : Dictionary) (fragments : List (String × Dictionary)) :
    List Change :=
  .setLocale locale dictionary ::
    fragments.map fun entry => .mergeNamespace locale entry.1 entry.2

variable {changes : List Change}

theorem locale_of_mem_parts {change : Change}
    (member : change ∈ parts locale dictionary fragments) : change.locale = locale := by
  rcases List.mem_cons.mp member with rfl | member
  · rfl
  · obtain ⟨entry, _, rfl⟩ := List.mem_map.mp member
    rfl

theorem filterMap_main?_parts (locale : String) (dictionary : Dictionary)
    (fragments : List (String × Dictionary)) :
    (parts locale dictionary fragments).filterMap Change.main? = [dictionary] := by
  simp [parts, Change.main?, List.filterMap_map, Function.comp_def]

theorem filterMap_fragment?_parts (locale : String) (dictionary : Dictionary)
    (fragments : List (String × Dictionary)) :
    (parts locale dictionary fragments).filterMap Change.fragment? = fragments := by
  unfold parts
  rw [List.filterMap_cons_none rfl, List.filterMap_map]
  exact List.filterMap_some

/-- Whatever the order, all of the parts are there in the end. -/
theorem arrived_of_perm (absent : Arrived store locale none [])
    (distinct : Keyed.Distinct fragments)
    (perm : changes.Perm (parts locale dictionary fragments)) :
    ∃ arrived, arrived.Perm fragments ∧
      Arrived (store.changed changes) locale (some dictionary) arrived := by
  have mains : changes.filterMap Change.main? = [dictionary] :=
    List.perm_singleton.mp (filterMap_main?_parts .. ▸ perm.filterMap Change.main?)
  have same : (changes.filterMap Change.fragment?).Perm fragments := by
    rw [← filterMap_fragment?_parts locale dictionary fragments]
    exact perm.filterMap Change.fragment?
  refine ⟨_, same, ?_⟩
  have arrived := absent.changed changes
    (fun change member => locale_of_mem_parts (perm.mem_iff.mp member))
    (by simp [mains]) ((same.map Prod.fst).nodup_iff.mpr distinct)
  simpa [mains] using arrived

theorem changed_of_ne (store : MessageStore) {changes : List Change} {other : String}
    (elsewhere : ∀ change ∈ changes, other ≠ change.locale) :
    (store.changed changes).dictionary? other = store.dictionary? other ∧
      (store.changed changes).hasLocale other = store.hasLocale other ∧
      (store.changed changes).markers other = store.markers other := by
  induction changes generalizing store with
  | nil => exact ⟨rfl, rfl, rfl⟩
  | cons change changes ih =>
      obtain ⟨dictionary, loaded, markers⟩ :=
        store.apply_of_ne (elsewhere change (by simp))
      obtain ⟨laterDictionary, laterLoaded, laterMarkers⟩ :=
        ih (change.apply store) fun later member =>
          elsewhere later (List.mem_cons_of_mem change member)
      exact ⟨laterDictionary.trans dictionary, laterLoaded.trans loaded,
        laterMarkers.trans markers⟩

theorem distinct_apply (distinct : Keyed.Distinct store.dictionaries) (change : Change) :
    Keyed.Distinct (change.apply store).dictionaries := by
  cases change with
  | setLocale locale dictionary =>
      rcases store.setLocale_cases locale dictionary with ⟨_, _, _, set⟩ | ⟨_, set⟩
      · simp only [Change.apply, set]
        exact distinct.put _ _
      · simp only [Change.apply, set]
        exact distinct.put _ _
  | mergeNamespace locale name fragment => exact distinct.put _ _

theorem distinct_changed (distinct : Keyed.Distinct store.dictionaries) (changes : List Change) :
    Keyed.Distinct (store.changed changes).dictionaries := by
  induction changes generalizing store with
  | nil => exact distinct
  | cons change changes ih => exact ih (distinct_apply distinct change)

theorem distinct_seeded (seed : List (String × Dictionary)) :
    Keyed.Distinct (seeded seed).dictionaries := by
  suffices generalized : ∀ entries : List (String × Dictionary), Keyed.Distinct entries →
      Keyed.Distinct (seed.foldl (fun entries entry => Keyed.put entry.1 entry.2 entries)
        entries) from generalized [] List.nodup_nil
  induction seed with
  | nil => exact fun _ distinct => distinct
  | cons entry seed ih => exact fun _ distinct => ih _ (distinct.put entry.1 entry.2)

theorem locales_congr {left right : MessageStore} (distinctLeft : Keyed.Distinct left.dictionaries)
    (distinctRight : Keyed.Distinct right.dictionaries)
    (same : ∀ locale, (left.dictionary? locale).isSome = (right.dictionary? locale).isSome) :
    left.locales = right.locales := by
  have perm : (Keyed.keys left.dictionaries).Perm (Keyed.keys right.dictionaries) := by
    refine (List.perm_ext_iff_of_nodup distinctLeft distinctRight).mpr fun locale => ?_
    rw [← Keyed.get?_isSome_iff, ← Keyed.get?_isSome_iff]
    exact Bool.eq_iff_iff.mp (same locale)
  have sorted (names : List String) :
      (names.mergeSort fun left right => decide (left ≤ right)).Pairwise (· ≤ ·) := by
    have result := @List.pairwise_mergeSort String (fun left right => decide (left ≤ right))
      (by intro _ _ _; simpa using String.le_trans) (by simpa using String.le_total) names
    simpa only [decide_eq_true_eq] using result
  exact List.Perm.eq_of_pairwise (fun _ _ _ _ => String.le_antisymm) (sorted _) (sorted _)
    ((List.mergeSort_perm ..).trans (perm.trans (List.mergeSort_perm ..).symm))

/-- The same entries in any order. -/
def SameEntries (left right : Dictionary) : Prop :=
  left.entries.Perm right.entries

/-- What two stores say of one locale is the same. -/
structure AgreeOn (left right : MessageStore) (locale : String) : Prop where
  loaded : left.hasLocale locale = right.hasLocale locale
  marked : ∀ name, left.hasNamespace locale name = right.hasNamespace locale name
  dictionary : Option.Rel SameEntries (left.dictionary? locale) (right.dictionary? locale)

/-- No question tells the two stores apart, but for the order of a dictionary's entries. -/
structure Indistinguishable (left right : MessageStore) : Prop where
  agree : ∀ locale, AgreeOn left right locale
  locales : left.locales = right.locales
  resolves : ∀ chain key, left.resolve chain key = right.resolve chain key

variable {left right : MessageStore}

theorem AgreeOn.isSome (agree : AgreeOn left right locale) :
    (left.dictionary? locale).isSome = (right.dictionary? locale).isSome := by
  have both := agree.dictionary
  generalize left.dictionary? locale = first at both ⊢
  generalize right.dictionary? locale = second at both ⊢
  cases both with
  | none => rfl
  | some => rfl

theorem AgreeOn.find? (agree : AgreeOn left right locale) (key : String) :
    left.find? locale key = right.find? locale key := by
  have both := agree.dictionary
  unfold MessageStore.find?
  generalize left.dictionary? locale = first at both ⊢
  generalize right.dictionary? locale = second at both ⊢
  cases both with
  | none => rfl
  | @some one two perm => exact Dictionary.find?_congr (Keyed.get?_perm one.distinct.1 perm) key

theorem Indistinguishable.of_agree (distinctLeft : Keyed.Distinct left.dictionaries)
    (distinctRight : Keyed.Distinct right.dictionaries)
    (agree : ∀ locale, AgreeOn left right locale) : Indistinguishable left right where
  agree := agree
  locales := locales_congr distinctLeft distinctRight fun locale => (agree locale).isSome
  resolves chain key := by simp only [resolve, (agree _).find?]

theorem AgreeOn.of_ne (store : MessageStore) {other : String} {left right : List Change}
    (elsewhere : ∀ change ∈ left ++ right, other ≠ change.locale) :
    AgreeOn (store.changed left) (store.changed right) other := by
  obtain ⟨leftDictionary, leftLoaded, leftMarkers⟩ := store.changed_of_ne
    fun change member => elsewhere change (List.mem_append_left right member)
  obtain ⟨rightDictionary, rightLoaded, rightMarkers⟩ := store.changed_of_ne
    fun change member => elsewhere change (List.mem_append_right left member)
  constructor
  case loaded => rw [leftLoaded, rightLoaded]
  case marked => simp only [hasNamespace, leftMarkers, rightMarkers, implies_true]
  case dictionary =>
    rw [leftDictionary, rightDictionary]
    cases store.dictionary? other with
    | none => exact .none
    | some standing => exact .some (List.Perm.refl _)

theorem AgreeOn.of_arrived {dictionary : Dictionary}
    {leftFragments rightFragments : List (String × Dictionary)}
    (leftArrived : Arrived left locale (some dictionary) leftFragments)
    (rightArrived : Arrived right locale (some dictionary) rightFragments)
    (perm : leftFragments.Perm rightFragments) : AgreeOn left right locale := by
  constructor
  case loaded => rw [leftArrived.loaded, rightArrived.loaded]
  case marked =>
    intro name
    rw [Bool.eq_iff_iff, hasNamespace_iff, hasNamespace_iff, leftArrived.markers,
      rightArrived.markers]
    exact (perm.map Prod.fst).mem_iff
  case dictionary =>
    cases leftFound : left.dictionary? locale with
    | none => exact absurd (leftArrived.nothing leftFound).1 (by simp)
    | some one =>
        cases rightFound : right.dictionary? locale with
        | none => exact absurd (rightArrived.nothing rightFound).1 (by simp)
        | some two =>
            refine .some (Keyed.perm_of_get? one.distinct.1 two.distinct.1 fun key => ?_)
            rw [leftArrived.entries one leftFound, rightArrived.entries two rightFound,
              standing?, standing?, Keyed.get?_perm leftArrived.distinct perm]

theorem Kept.arrived {seed : List (String × Dictionary)} {changes : List Change}
    (kept : Kept seed changes store locale) (absent : store.dictionary? locale = none) :
    Arrived store locale none [] := by
  have none_of : ∀ {dictionary}, store.dictionary? locale ≠ some dictionary := by
    simp [absent]
  constructor
  case distinct => exact List.nodup_nil
  case loaded =>
    rw [Option.isSome_none, ← Bool.not_eq_true]
    intro loaded
    obtain ⟨standing, found⟩ := kept.present loaded
    exact none_of found
  case markers =>
    refine List.eq_nil_iff_forall_not_mem.mpr fun name member => ?_
    obtain ⟨_, standing, _, found, _⟩ := kept.holds name member
    exact none_of found
  case nothing => exact fun _ => ⟨rfl, rfl⟩
  case entries => exact fun standing found => absurd found none_of

/-- If a locale has nothing before, its dictionary and the fragments of different namespaces may
come in any order. -/
theorem changed_perm (seed : List (String × Dictionary)) (before : List Change)
    {locale : String} {dictionary : Dictionary} {fragments : List (String × Dictionary)}
    {left right : List Change}
    (absent : ((seeded seed).changed before).dictionary? locale = none)
    (distinct : Keyed.Distinct fragments)
    (leftParts : left.Perm (parts locale dictionary fragments))
    (rightParts : right.Perm (parts locale dictionary fragments)) :
    Indistinguishable (((seeded seed).changed before).changed left)
      (((seeded seed).changed before).changed right) := by
  have nothing := (Kept.changed (seeded_kept seed) before locale).arrived absent
  have wellKeyed := distinct_changed (distinct_seeded seed) before
  refine .of_agree (distinct_changed wellKeyed left) (distinct_changed wellKeyed right)
    fun other => ?_
  by_cases here : other = locale
  · subst here
    obtain ⟨leftFragments, leftPerm, leftArrived⟩ := arrived_of_perm nothing distinct leftParts
    obtain ⟨rightFragments, rightPerm, rightArrived⟩ :=
      arrived_of_perm nothing distinct rightParts
    exact .of_arrived leftArrived rightArrived (leftPerm.trans rightPerm.symm)
  · refine .of_ne _ fun change member => ?_
    have isPart : change ∈ parts locale dictionary fragments :=
      (List.mem_append.mp member).elim leftParts.mem_iff.mp rightParts.mem_iff.mp
    rw [locale_of_mem_parts isPart]
    exact here

/-- A dictionary with a text where the namespace `menu` belongs. -/
def home : Dictionary :=
  (Dictionary.empty.insert "title" (.string "Heim")).insert "menu" (.string "Karte")

def homeFragments : List (String × Dictionary) :=
  [("menu", Dictionary.empty.insert "open" (.string "Auf")),
    ("shop", Dictionary.empty.insert "pay" (.string "Zahlen"))]

theorem changed_perm_home :
    ((seeded [("en", home)]).changed []).dictionary? "de" = none ∧
      Keyed.Distinct homeFragments ∧
      Indistinguishable
        (((seeded [("en", home)]).changed []).changed (parts "de" home homeFragments))
        (((seeded [("en", home)]).changed []).changed (parts "de" home homeFragments).reverse) := by
  have absent : ((seeded [("en", home)]).changed []).dictionary? "de" = none := by decide
  have distinct : Keyed.Distinct homeFragments := by
    simp [Keyed.Distinct, Keyed.keys, homeFragments]
  exact ⟨absent, distinct, changed_perm [("en", home)] [] absent distinct (.refl _)
    (List.reverse_perm _)⟩

end MessageStore

end Phrasebook
