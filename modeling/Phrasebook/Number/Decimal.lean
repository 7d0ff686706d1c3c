import Phrasebook.Number.Binary64

namespace Phrasebook

/-- The number `digits * 10 ^ exponent`. -/
structure Decimal where
  digits : Nat
  exponent : Int
deriving DecidableEq

def digitsValue (digits : List Char) : Nat :=
  digits.foldl (fun value digit => 10 * value + (digit.toNat - 48)) 0

namespace Decimal

/-- The number that is written `whole.fraction` times `10 ^ exponent`. -/
def ofParts (whole fraction : List Char) (exponent : Int) : Decimal :=
  ⟨digitsValue (whole ++ fraction), exponent - fraction.length⟩

def positional (decimal : Decimal) : Decimal :=
  if decimal.exponent ≤ 0 then decimal
  else ⟨decimal.digits * Nat.pow 10 decimal.exponent.toNat, 0⟩

def positionalText (decimal : Decimal) : List Char :=
  let digits := Nat.toDigits 10 decimal.digits
  if 0 ≤ decimal.exponent then
    digits ++ List.replicate decimal.exponent.toNat '0'
  else
    let places := (-decimal.exponent).toNat
    if places < digits.length then
      digits.take (digits.length - places) ++ '.' :: digits.drop (digits.length - places)
    else
      '0' :: '.' :: (List.replicate (places - digits.length) '0' ++ digits)

end Decimal

namespace Binary64

/-- The number nearest to a decimal one.  Exponents far outside the range are decided by their
size alone, so that no huge power is formed. -/
def ofDecimal (negative : Bool) (decimal : Decimal) : Binary64 :=
  if decimal.digits = 0 then
    .finite negative .zero
  else if 400 < decimal.exponent then
    .infinite negative
  else if 0 ≤ decimal.exponent then
    ofQuotient negative (decimal.digits * Nat.pow 10 decimal.exponent.toNat * Magnitude.unitsPerOne) 1
  else
    let places := (-decimal.exponent).toNat
    if decimal.digits.log2 + 401 < places then
      .finite negative .zero
    else
      ofQuotient negative (decimal.digits * Magnitude.unitsPerOne) (Nat.pow 10 places)

def readExponent? : List Char → Option Int
  | '-' :: digits => (unsigned? digits).map fun value => -value
  | '+' :: digits => unsigned? digits
  | digits => unsigned? digits
where
  unsigned? (digits : List Char) : Option Int :=
    if digits.isEmpty || !digits.all Char.isDigit then none else some (digitsValue digits)

def readNumeral? (cs : List Char) : Option Decimal :=
  let whole := cs.takeWhile Char.isDigit
  let afterWhole := cs.dropWhile Char.isDigit
  let fraction :=
    match afterWhole with
    | '.' :: rest => rest.takeWhile Char.isDigit
    | _ => []
  let rest :=
    match afterWhole with
    | '.' :: rest => rest.dropWhile Char.isDigit
    | rest => rest
  if whole.isEmpty && fraction.isEmpty then
    none
  else
    match rest with
    | [] => some (.ofParts whole fraction 0)
    | mark :: exponent =>
        if mark == 'e' || mark == 'E' then
          (readExponent? exponent).map (.ofParts whole fraction)
        else
          none

def readUnsigned? (negative : Bool) (cs : List Char) : Option Binary64 :=
  let word := cs.map Char.toLower
  if word = ['n', 'a', 'n'] then
    some .nan
  else if word = ['i', 'n', 'f'] || word = ['i', 'n', 'f', 'i', 'n', 'i', 't', 'y'] then
    some (.infinite negative)
  else
    (readNumeral? cs).map (ofDecimal negative)

def read? : List Char → Option Binary64
  | '-' :: cs => readUnsigned? true cs
  | '+' :: cs => readUnsigned? false cs
  | cs => readUnsigned? false cs

end Binary64

end Phrasebook
