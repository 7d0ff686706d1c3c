import Phrasebook.Number.Binary64

namespace Phrasebook.Binary64

/-- The number itself, and one zero for both. -/
def unsignedZero : Binary64 → Binary64
  | .nan => .nan
  | .infinite negative => .infinite negative
  | .finite negative magnitude =>
      if magnitude = .zero then .zero else .finite negative magnitude

@[simp] theorem unsignedZero_nan : unsignedZero .nan = .nan := rfl

@[simp] theorem unsignedZero_infinite (negative : Bool) :
    unsignedZero (.infinite negative) = .infinite negative := rfl

theorem unsignedZero_finite_cases (negative : Bool) (magnitude : Magnitude) :
    ∃ sign, unsignedZero (.finite negative magnitude) = .finite sign magnitude := by
  by_cases isZero : magnitude = .zero
  · exact ⟨false, by simp [unsignedZero, zero, isZero]⟩
  · exact ⟨negative, by simp [unsignedZero, isZero]⟩

theorem unsignedZero_finite_eq_iff {leftSign rightSign : Bool} {left right : Magnitude} :
    unsignedZero (.finite leftSign left) = unsignedZero (.finite rightSign right) ↔
      left = right ∧ (leftSign = rightSign ∨ left = .zero) := by
  by_cases leftZero : left = .zero <;> by_cases rightZero : right = .zero <;>
    simp [unsignedZero, zero, leftZero, rightZero, Ne.symm, eq_comm, and_comm]

theorem equals_iff {left right : Binary64} :
    left.equals right = true ↔ left ≠ .nan ∧ left.unsignedZero = right.unsignedZero := by
  cases left with
  | nan => simp [equals]
  | infinite leftSign =>
      cases right with
      | nan => simp [equals]
      | infinite rightSign => simp [equals]
      | finite rightSign right =>
          obtain ⟨sign, same⟩ := unsignedZero_finite_cases rightSign right
          simp [equals, same]
  | finite leftSign left =>
      cases right with
      | finite rightSign right =>
          rw [unsignedZero_finite_eq_iff]
          simp [equals]
      | nan =>
          obtain ⟨sign, same⟩ := unsignedZero_finite_cases leftSign left
          simp [equals, same]
      | infinite rightSign =>
          obtain ⟨sign, same⟩ := unsignedZero_finite_cases leftSign left
          simp [equals, same]

theorem equals_self {number : Binary64} (isNumber : number ≠ .nan) :
    number.equals number = true :=
  equals_iff.mpr ⟨isNumber, rfl⟩

/-- Numbers that equal the same number are equal. -/
theorem equals_of_equals {left right number : Binary64} (leftEquals : left.equals number = true)
    (rightEquals : right.equals number = true) : left.equals right = true := by
  rw [equals_iff] at leftEquals rightEquals ⊢
  exact ⟨leftEquals.1, leftEquals.2.trans rightEquals.2.symm⟩

theorem unsignedZero_eq_self {number : Binary64} (plain : number ≠ .finite true .zero) :
    number.unsignedZero = number := by
  cases number with
  | nan => rfl
  | infinite negative => rfl
  | finite negative magnitude =>
      by_cases isZero : magnitude = .zero
      · subst isZero
        cases negative with
        | true => contradiction
        | false => rfl
      · exact if_neg isZero

theorem unsignedZero_ne_negativeZero (number : Binary64) :
    number.unsignedZero ≠ .finite true .zero := by
  cases number with
  | nan => exact Binary64.noConfusion
  | infinite negative => exact Binary64.noConfusion
  | finite negative magnitude =>
      by_cases isZero : magnitude = .zero
      · rw [unsignedZero, if_pos isZero]
        decide
      · rw [unsignedZero, if_neg isZero]
        exact fun same => isZero (Binary64.finite.inj same).2

@[simp] theorem unsignedZero_unsignedZero (number : Binary64) :
    number.unsignedZero.unsignedZero = number.unsignedZero :=
  unsignedZero_eq_self number.unsignedZero_ne_negativeZero

theorem unsignedZero_ne_nan {number : Binary64} (isNumber : number ≠ .nan) :
    number.unsignedZero ≠ .nan := by
  cases number with
  | nan => contradiction
  | infinite negative => exact isNumber
  | finite negative magnitude =>
      obtain ⟨sign, same⟩ := unsignedZero_finite_cases negative magnitude
      rw [same]
      exact Binary64.noConfusion

theorem unsignedZero_equals {number : Binary64} (isNumber : number ≠ .nan) :
    number.unsignedZero.equals number = true :=
  equals_iff.mpr ⟨unsignedZero_ne_nan isNumber, number.unsignedZero_unsignedZero⟩

end Phrasebook.Binary64
