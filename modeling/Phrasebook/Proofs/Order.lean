namespace Phrasebook

variable {α : Type u}

def InOrder (fits : List α → α → Prop) (items : List α) : Prop :=
  ∀ before item after, items = before ++ item :: after → fits before item

namespace InOrder

variable {fits : List α → α → Prop} {items : List α} {item : α}

theorem nil : InOrder fits [] := by
  intro before item after split
  simp at split

theorem concat (inOrder : InOrder fits items) (fit : fits items item) :
    InOrder fits (items ++ [item]) := by
  intro before other after split
  rcases List.eq_nil_or_concat after with rfl | ⟨front, last, rfl⟩
  · obtain ⟨rfl, single⟩ := List.append_inj' split rfl
    cases single
    exact fit
  · rw [List.concat_eq_append, ← List.cons_append, ← List.append_assoc] at split
    have shorter := (List.append_inj' split rfl).1
    exact inOrder before other front shorter

theorem fits_of_mem (inOrder : InOrder fits items) (member : item ∈ items) :
    ∃ before, before ⊆ items ∧ fits before item := by
  obtain ⟨before, after, split⟩ := List.append_of_mem member
  exact ⟨before, split ▸ List.subset_append_left _ _, inOrder before item after split⟩

/-- Where no item of a kind fits after another one, there is one of the kind at most. -/
theorem eq_of_kind (inOrder : InOrder fits items) (kind : α → Prop)
    (first : ∀ before item, before ⊆ items → fits before item → kind item →
      ∀ earlier ∈ before, ¬ kind earlier)
    {left right : α} (leftMember : left ∈ items) (rightMember : right ∈ items)
    (leftKind : kind left) (rightKind : kind right) : left = right := by
  obtain ⟨before, after, split⟩ := List.append_of_mem leftMember
  rw [split, List.mem_append, List.mem_cons] at rightMember
  rcases rightMember with member | rfl | member
  · exact absurd rightKind (first before left (split ▸ List.subset_append_left _ _)
      (inOrder before left after split) leftKind right member)
  · rfl
  · obtain ⟨middle, rest, later⟩ := List.append_of_mem member
    have again : items = (before ++ left :: middle) ++ right :: rest := by
      rw [split, later, List.append_assoc, List.cons_append]
    exact absurd leftKind (first _ right (again ▸ List.subset_append_left _ _)
      (inOrder _ right rest again) rightKind left (by simp))

theorem countP_le_one (inOrder : InOrder fits items) (kind : α → Bool)
    (first : ∀ before item, before ⊆ items → fits before item → kind item = true →
      ∀ earlier ∈ before, ¬ kind earlier = true) :
    items.countP kind ≤ 1 := by
  rcases Nat.eq_zero_or_pos (items.countP kind) with none | some
  · omega
  · obtain ⟨item, member, ofKind⟩ := List.countP_pos_iff.mp some
    obtain ⟨before, after, split⟩ := List.append_of_mem member
    have noneBefore : before.countP kind = 0 :=
      List.countP_eq_zero.mpr (first before item (split ▸ List.subset_append_left _ _)
        (inOrder before item after split) ofKind)
    have noneAfter : after.countP kind = 0 := by
      refine List.countP_eq_zero.mpr fun later laterMember laterKind => ?_
      obtain ⟨middle, rest, again⟩ := List.append_of_mem laterMember
      have split' : items = (before ++ item :: middle) ++ later :: rest := by
        rw [split, again, List.append_assoc, List.cons_append]
      exact first _ later (split' ▸ List.subset_append_left _ _) (inOrder _ later rest split')
        laterKind item (by simp) ofKind
    rw [split, List.countP_append, List.countP_cons, noneBefore, noneAfter, ofKind]
    simp

end InOrder

end Phrasebook
