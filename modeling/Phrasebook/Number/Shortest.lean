import Phrasebook.Number.Decimal

namespace Phrasebook

/-! The shortest decimal that reads back as a given binary number, and the texts made of it.

Among the decimals of one length the one nearest to the number is taken.  The search starts at the
power of ten above the number, goes on with one digit and ends at the exact value, so it always
has an answer that reads back.
-/

inductive TieRule where
  | up
  | even
deriving DecidableEq

namespace Magnitude

def exactDecimal (magnitude : Magnitude) : Decimal :=
  if 1074 ≤ magnitude.exponent then
    ⟨magnitude.significand * Nat.pow 2 (magnitude.exponent - 1074), 0⟩
  else
    ⟨magnitude.significand * Nat.pow 5 (1074 - magnitude.exponent), (magnitude.exponent : Int) - 1074⟩

/-- Reading the decimal's positional text gives the magnitude. -/
def isReadFrom (magnitude : Magnitude) (decimal : Decimal) : Bool :=
  Binary64.ofDecimal false decimal.positional == .finite false magnitude

def neighbours (ties : TieRule) (exact : Decimal) (dropped : Nat) : List Decimal :=
  let scale := Nat.pow 10 dropped
  let low := exact.digits / scale
  let rest := exact.digits % scale
  let below : Decimal := ⟨low, exact.exponent + dropped⟩
  let above : Decimal := ⟨low + 1, exact.exponent + dropped⟩
  if 2 * rest < scale || (2 * rest == scale && ties == .even && low % 2 == 0) then
    [below, above]
  else
    [above, below]

def shortestFrom (magnitude : Magnitude) (ties : TieRule) (exact : Decimal) : Nat → Decimal
  | 0 => exact
  | dropped + 1 =>
      match (neighbours ties exact (dropped + 1)).find? magnitude.isReadFrom with
      | some decimal => decimal
      | none => shortestFrom magnitude ties exact dropped

/-- The shortest decimal that reads back as the magnitude. -/
def shortest (magnitude : Magnitude) (ties : TieRule) : Decimal :=
  let exact := magnitude.exactDecimal
  if exact.digits = 0 then ⟨0, 0⟩
  else shortestFrom magnitude ties exact (Nat.toDigits 10 exact.digits).length

end Magnitude

namespace Binary64

def signed (negative : Bool) (text : List Char) : List Char :=
  if negative then '-' :: text else text

/-- The shortest digits that read back, never with an exponent. -/
def text : Binary64 → List Char
  | .nan => ['N', 'a', 'N']
  | .infinite negative => signed negative ['i', 'n', 'f']
  | .finite negative magnitude => signed negative (magnitude.shortest .up).positionalText

/-- Whole numbers below `10 ^ 15` are written as integers, so that zero has no sign. -/
def displayText (number : Binary64) : List Char :=
  if number.isWhole && number.wholePart < Nat.pow 10 15 then
    signed (number.isNegative && number.wholePart != 0) (Nat.toDigits 10 number.wholePart)
  else
    number.text

/-- The digits of a decimal as a number with a point or an exponent: positional from `0.00001` to
below `10 ^ 16`, and else with one digit before the point. -/
def pointedText (decimal : Decimal) : List Char :=
  let digits := Nat.toDigits 10 decimal.digits
  let point := (digits.length : Int) + decimal.exponent
  if 0 ≤ decimal.exponent && point ≤ 16 then
    decimal.positionalText ++ ['.', '0']
  else if -5 < point && point ≤ 16 then
    decimal.positionalText
  else
    let shift := point - 1
    let mark := if shift < 0 then ['e', '-'] else ['e', '+']
    let mantissa :=
      match digits with
      | first :: second :: rest => first :: '.' :: second :: rest
      | few => few
    mantissa ++ mark ++ Nat.toDigits 10 shift.natAbs

end Binary64

end Phrasebook
