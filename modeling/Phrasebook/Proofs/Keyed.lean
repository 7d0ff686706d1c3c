import Phrasebook.Keyed

namespace Phrasebook.Keyed

variable {κ : Type u} {α : Type v}

theorem Distinct.notMem_keys {before after : List (κ × α)} {key : κ} {value : α}
    (distinct : Distinct (before ++ (key, value) :: after)) : key ∉ keys before := by
  unfold Distinct keys at distinct
  rw [List.map_append, List.nodup_append] at distinct
  intro member
  exact distinct.2.2 key member key (by simp) rfl

theorem Distinct.nodup {entries : List (κ × α)} (distinct : Distinct entries) : entries.Nodup :=
  List.Pairwise.of_map Prod.fst (fun _ _ different same => different (congrArg _ same)) distinct

variable [DecidableEq κ]

theorem get?_put (key other : κ) (value : α) (entries : List (κ × α)) :
    get? other (put key value entries) =
      if other = key then some value else get? other entries := by
  by_cases same : other = key
  · subst same
    rw [get?_put_self, if_pos rfl]
  · rw [get?_put_of_ne same, if_neg same]

theorem get?_erase (key other : κ) (entries : List (κ × α)) :
    get? other (erase key entries) = if other = key then none else get? other entries := by
  induction entries with
  | nil => simp [erase, get?]
  | cons entry rest ih =>
      unfold erase at ih ⊢
      by_cases erased : entry.1 = key
      · rw [List.filter_cons_of_neg (by simp [erased]), ih]
        by_cases same : other = key
        · rw [if_pos same, if_pos same]
        · have skipped : ¬ entry.1 = other := fun equal => same (equal ▸ erased)
          simp only [if_neg same, get?, if_neg skipped]
      · rw [List.filter_cons_of_pos (by simp [erased])]
        by_cases here : entry.1 = other
        · have kept : ¬ other = key := fun equal => erased (here.trans equal)
          simp only [get?, if_pos here, if_neg kept]
        · simp only [get?, if_neg here, ih]

theorem get?_eq_none_iff {key : κ} {entries : List (κ × α)} :
    get? key entries = none ↔ key ∉ keys entries := by
  induction entries with
  | nil => simp [get?, keys]
  | cons entry rest ih =>
      by_cases here : entry.1 = key
      · simp [get?, keys, here]
      · have different : ¬ key = entry.1 := Ne.symm here
        simpa [get?, keys, here, different] using ih

theorem get?_append_cons_self {key : κ} {value : α} {entries : List (κ × α)}
    (absent : key ∉ keys entries) (rest : List (κ × α)) :
    get? key (entries ++ (key, value) :: rest) = some value := by
  induction entries with
  | nil => simp [get?]
  | cons entry entries ih =>
      simp only [keys, List.map_cons, List.mem_cons, not_or] at absent
      rw [List.cons_append, get?, if_neg (Ne.symm absent.1), ih absent.2]

theorem put_append_cons_self {key : κ} {value : α} {entries : List (κ × α)}
    (absent : key ∉ keys entries) (replacement : α)
    (rest : List (κ × α)) :
    put key replacement (entries ++ (key, value) :: rest) =
      entries ++ (key, replacement) :: rest := by
  induction entries with
  | nil => simp [put]
  | cons entry entries ih =>
      simp only [keys, List.map_cons, List.mem_cons, not_or] at absent
      rw [List.cons_append, put, if_neg (Ne.symm absent.1), ih absent.2, List.cons_append]

theorem get?_isSome_iff {key : κ} {entries : List (κ × α)} :
    (get? key entries).isSome ↔ key ∈ keys entries := by
  rw [← Decidable.not_iff_not, ← get?_eq_none_iff, Option.not_isSome_iff_eq_none]

theorem Distinct.erase {entries : List (κ × α)} (distinct : Distinct entries) (key : κ) :
    Distinct (erase key entries) :=
  (List.filter_sublist.map _).nodup distinct

theorem put_of_notMem {key : κ} {entries : List (κ × α)} (absent : key ∉ keys entries)
    (value : α) : put key value entries = entries ++ [(key, value)] := by
  induction entries with
  | nil => rfl
  | cons entry rest ih =>
      simp only [keys, List.map_cons, List.mem_cons, not_or] at absent
      rw [put, if_neg (Ne.symm absent.1), ih absent.2, List.cons_append]

/-- Putting what stands there already changes nothing. -/
theorem put_of_get? {key : κ} {value : α} {entries : List (κ × α)}
    (found : get? key entries = some value) : put key value entries = entries := by
  induction entries with
  | nil => contradiction
  | cons entry rest ih =>
      by_cases here : entry.1 = key
      · rw [get?, if_pos here] at found
        cases found
        rw [put, if_pos here, ← here]
      · rw [get?, if_neg here] at found
        rw [put, if_neg here, ih found]

theorem get?_eq_some_iff {key : κ} {value : α} {entries : List (κ × α)}
    (distinct : Distinct entries) : get? key entries = some value ↔ (key, value) ∈ entries := by
  refine ⟨mem_of_get?, fun member => ?_⟩
  induction entries with
  | nil => simp at member
  | cons entry rest ih =>
      obtain ⟨absent, distinct⟩ := List.nodup_cons.mp distinct
      rcases List.mem_cons.mp member with rfl | member
      · simp [get?]
      · have different : ¬ entry.1 = key := by
          rintro rfl
          exact absent (List.mem_map.mpr ⟨_, member, rfl⟩)
        rw [get?, if_neg different, ih distinct member]

theorem get?_perm {left right : List (κ × α)} (distinct : Distinct left)
    (perm : left.Perm right) (key : κ) : get? key left = get? key right := by
  have distinctRight : Distinct right := (perm.map Prod.fst).nodup_iff.mp distinct
  refine Option.ext fun value => ?_
  rw [get?_eq_some_iff distinct, get?_eq_some_iff distinctRight, perm.mem_iff]

theorem perm_of_get? {left right : List (κ × α)} (distinctLeft : Distinct left)
    (distinctRight : Distinct right) (same : ∀ key, get? key left = get? key right) :
    left.Perm right := by
  refine (List.perm_ext_iff_of_nodup distinctLeft.nodup distinctRight.nodup).mpr ?_
  rintro ⟨key, value⟩
  rw [← get?_eq_some_iff distinctLeft, ← get?_eq_some_iff distinctRight, same]

end Phrasebook.Keyed
