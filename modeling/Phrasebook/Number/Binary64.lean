namespace Phrasebook

/-! Binary floating point numbers with 53 significant bits.

A finite number is a sign and a magnitude, and a magnitude counts units of `2 ^ (-1074)`, the
smallest positive number of the format.  All arithmetic is exact on these integers; what does not
fit is rounded once, to the nearest number and to the even one of two that are equally near.
-/

/-- The nearest whole number to `num / den`, the even one of two that are equally near. -/
def roundHalfEven (num den : Nat) : Nat :=
  let whole := num / den
  let rest := num % den
  if 2 * rest < den then whole
  else if 2 * rest = den then whole + whole % 2
  else whole + 1

theorem div_le_roundHalfEven (num den : Nat) : num / den ≤ roundHalfEven num den := by
  unfold roundHalfEven
  dsimp only
  split
  · exact Nat.le_refl _
  · split <;> omega

/-- `significand * 2 ^ exponent` units.  Each multiple of the unit that the format can hold has
exactly one magnitude: only the ones below `2 ^ 52` units have fewer than 53 bits. -/
structure Magnitude where
  significand : Nat
  exponent : Nat
  fits : significand < Nat.pow 2 53 ∧ exponent ≤ 2045 ∧ (Nat.pow 2 52 ≤ significand ∨ exponent = 0)
deriving DecidableEq

namespace Magnitude

def zero : Magnitude := ⟨0, 0, by decide⟩

def units (magnitude : Magnitude) : Nat :=
  magnitude.significand * Nat.pow 2 magnitude.exponent

def unitsPerOne : Nat := Nat.pow 2 1074

/-- The binary places that are lost when a number of about `whole` units is rounded. -/
def lostBits (whole : Nat) : Nat :=
  whole.log2 - 52

/-- The significand before the last carry: between `2 ^ 52` and `2 ^ 53` once bits are lost. -/
def roundedSignificand (num den : Nat) : Nat :=
  roundHalfEven num (den * Nat.pow 2 (lostBits (num / den)))

theorem roundedSignificand_normal {num den : Nat} (lossy : 0 < lostBits (num / den)) :
    Nat.pow 2 52 ≤ roundedSignificand num den := by
  unfold roundedSignificand
  simp only [Nat.pow_eq]
  refine Nat.le_trans ?_ (div_le_roundHalfEven _ _)
  rw [← Nat.div_div_eq_div_mul]
  generalize num / den = whole at lossy
  unfold lostBits at lossy ⊢
  have positive : whole ≠ 0 := by
    rintro rfl
    simp at lossy
  refine (Nat.le_div_iff_mul_le (Nat.two_pow_pos _)).mpr ?_
  rw [← Nat.pow_add, show 52 + (whole.log2 - 52) = whole.log2 by omega]
  exact Nat.log2_self_le positive

/-- The magnitude nearest to `num / den` units, unless that is above the largest one. -/
def ofQuotient? (num den : Nat) : Option Magnitude :=
  let lost := lostBits (num / den)
  let significand := roundedSignificand num den
  if small : significand < Nat.pow 2 53 then
    if range : lost ≤ 2045 then
      some ⟨significand, lost, small, range, by
        rcases Nat.eq_zero_or_pos (lostBits (num / den)) with none | some
        · exact .inr none
        · exact .inl (roundedSignificand_normal some)⟩
    else
      none
  else if range : lost + 1 ≤ 2045 then
    some ⟨Nat.pow 2 52, lost + 1, by decide, range, .inl (Nat.le_refl _)⟩
  else
    none

end Magnitude

inductive Binary64 where
  | nan
  | infinite (negative : Bool)
  | finite (negative : Bool) (magnitude : Magnitude)
deriving DecidableEq

namespace Binary64

open Magnitude (unitsPerOne)

def zero : Binary64 := .finite false .zero

def ofQuotient (negative : Bool) (num den : Nat) : Binary64 :=
  match Magnitude.ofQuotient? num den with
  | some magnitude => .finite negative magnitude
  | none => .infinite negative

def ofUnits (units : Int) : Binary64 :=
  ofQuotient (decide (units < 0)) units.natAbs 1

def ofInt (value : Int) : Binary64 :=
  ofUnits (value * unitsPerOne)

def isNegative : Binary64 → Bool
  | .nan => false
  | .infinite negative => negative
  | .finite negative _ => negative

/-- A finite number without its sign's nuance at zero: the signed count of units. -/
def signedUnits (negative : Bool) (magnitude : Magnitude) : Int :=
  if negative then -(magnitude.units : Int) else magnitude.units

/-- Equality of numbers: the two zeros are equal, and nothing equals what is not a number. -/
def equals : Binary64 → Binary64 → Bool
  | .infinite left, .infinite right => left == right
  | .finite leftSign left, .finite rightSign right =>
      left == right && (leftSign == rightSign || left == .zero)
  | _, _ => false

def abs : Binary64 → Binary64
  | .nan => .nan
  | .infinite _ => .infinite false
  | .finite _ magnitude => .finite false magnitude

/-- The rounded difference.  A difference of zero is negative only for `-0 - 0`. -/
def sub : Binary64 → Binary64 → Binary64
  | .nan, _ => .nan
  | _, .nan => .nan
  | .infinite left, .infinite right => if left == right then .nan else .infinite left
  | .infinite left, .finite _ _ => .infinite left
  | .finite _ _, .infinite right => .infinite (!right)
  | .finite leftSign left, .finite rightSign right =>
      let difference := signedUnits leftSign left - signedUnits rightSign right
      if difference = 0 then .finite (leftSign && !rightSign) .zero else ofUnits difference

def mul : Binary64 → Binary64 → Binary64
  | .nan, _ => .nan
  | _, .nan => .nan
  | .infinite left, .infinite right => .infinite (left != right)
  | .infinite left, .finite right magnitude =>
      if magnitude == .zero then .nan else .infinite (left != right)
  | .finite left magnitude, .infinite right =>
      if magnitude == .zero then .nan else .infinite (left != right)
  | .finite leftSign left, .finite rightSign right =>
      ofQuotient (leftSign != rightSign) (left.units * right.units) unitsPerOne

def div : Binary64 → Binary64 → Binary64
  | .nan, _ => .nan
  | _, .nan => .nan
  | .infinite _, .infinite _ => .nan
  | .infinite left, .finite right _ => .infinite (left != right)
  | .finite left _, .infinite right => .finite (left != right) .zero
  | .finite leftSign left, .finite rightSign right =>
      if right == .zero then
        if left == .zero then .nan else .infinite (leftSign != rightSign)
      else
        ofQuotient (leftSign != rightSign) (left.units * unitsPerOne) right.units

/-- The product of `result` with the power of `base` that has the given binary digits, lowest
first: `base` is squared from digit to digit, and each product is rounded. -/
def mulPower (result base : Binary64) : List Bool → Binary64
  | [] => result
  | digit :: digits => mulPower (if digit then result.mul base else result) (base.mul base) digits

def binaryDigits (n : Nat) : List Bool :=
  if n = 0 then [] else (List.range (n.log2 + 1)).map n.testBit

def power (base : Binary64) (n : Nat) : Binary64 :=
  mulPower (ofInt 1) base (binaryDigits n)

/-- The power whose exponent is a machine word: those of its upper half are negative. -/
def powerOfWord (base : Binary64) (exponent : UInt32) : Binary64 :=
  if exponent.toInt32 < 0 then (ofInt 1).div (base.power exponent.toInt32.toInt.natAbs)
  else base.power exponent.toNat

def isWhole : Binary64 → Bool
  | .finite _ magnitude => magnitude.units % unitsPerOne == 0
  | _ => false

def wholePart : Binary64 → Nat
  | .finite _ magnitude => magnitude.units / unitsPerOne
  | _ => 0

/-- The whole part between zero and `limit`; zero for what is not a number. -/
def clampToNat (limit : Nat) : Binary64 → Nat
  | .nan => 0
  | .infinite negative => if negative then 0 else limit
  | .finite negative magnitude =>
      if negative then 0 else min (magnitude.units / unitsPerOne) limit

end Binary64

end Phrasebook
