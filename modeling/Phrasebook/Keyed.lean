namespace Phrasebook.Keyed

variable {κ : Type u} {α : Type v} [DecidableEq κ]

def keys (entries : List (κ × α)) : List κ :=
  entries.map Prod.fst

def Distinct (entries : List (κ × α)) : Prop :=
  (keys entries).Nodup

def get? (key : κ) : List (κ × α) → Option α
  | [] => none
  | entry :: rest => if entry.1 = key then some entry.2 else get? key rest

/-- The place of a key that is present is kept, and a new one is appended. -/
def put (key : κ) (value : α) : List (κ × α) → List (κ × α)
  | [] => [(key, value)]
  | entry :: rest =>
      if entry.1 = key then (key, value) :: rest else entry :: put key value rest

def erase (key : κ) (entries : List (κ × α)) : List (κ × α) :=
  entries.filter fun entry => entry.1 ≠ key

theorem get?_put_self (key : κ) (value : α) (entries : List (κ × α)) :
    get? key (put key value entries) = some value := by
  induction entries with
  | nil => simp [put, get?]
  | cons entry rest ih =>
      by_cases same : entry.1 = key
      · simp [put, get?, same]
      · simp [put, get?, same, ih]

theorem get?_put_of_ne {key other : κ} (different : other ≠ key) (value : α)
    (entries : List (κ × α)) : get? other (put key value entries) = get? other entries := by
  induction entries with
  | nil => simp [put, get?, Ne.symm different]
  | cons entry rest ih =>
      by_cases same : entry.1 = key
      · simp [put, get?, same, Ne.symm different]
      · simp [put, get?, same, ih]

theorem keys_put (key : κ) (value : α) (entries : List (κ × α)) :
    keys (put key value entries) =
      if key ∈ keys entries then keys entries else keys entries ++ [key] := by
  induction entries with
  | nil => simp [put, keys]
  | cons entry rest ih =>
      by_cases same : entry.1 = key
      · simp [put, keys, same]
      · have different : ¬ key = entry.1 := Ne.symm same
        simp only [keys] at ih
        by_cases member : key ∈ rest.map Prod.fst
        · simp [put, keys, same, ih, member]
        · simp [put, keys, same, ih, member, different]

theorem Distinct.put {entries : List (κ × α)} (distinct : Distinct entries) (key : κ) (value : α) :
    Distinct (put key value entries) := by
  unfold Distinct at *
  rw [keys_put]
  split
  · exact distinct
  · next absent =>
      rw [List.nodup_append]
      refine ⟨distinct, by simp, ?_⟩
      intro left member right single
      simp only [List.mem_singleton] at single
      rintro rfl
      exact absent (single ▸ member)

theorem mem_put {key : κ} {value : α} {entries : List (κ × α)} {entry : κ × α}
    (member : entry ∈ put key value entries) : entry = (key, value) ∨ entry ∈ entries := by
  induction entries with
  | nil => simpa [put] using member
  | cons head rest ih =>
      by_cases same : head.1 = key
      · simp only [put, same, if_true, List.mem_cons] at member
        exact member.imp id (List.mem_cons_of_mem _)
      · simp only [put, same, if_false, List.mem_cons] at member
        rcases member with rfl | member
        · exact .inr (by simp)
        · exact (ih member).imp id (List.mem_cons_of_mem _)

theorem mem_of_get? {key : κ} {value : α} {entries : List (κ × α)}
    (found : get? key entries = some value) : (key, value) ∈ entries := by
  induction entries with
  | nil => simp [get?] at found
  | cons entry rest ih =>
      by_cases same : entry.1 = key
      · simp only [get?, same, if_true, Option.some.injEq] at found
        subst found
        subst same
        simp
      · simp only [get?, same, if_false] at found
        exact List.mem_cons_of_mem _ (ih found)

end Phrasebook.Keyed
