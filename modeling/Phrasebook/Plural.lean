import Phrasebook.Keyed
import Phrasebook.Locale
import Phrasebook.Number.Shortest

namespace Phrasebook

/-! Plural categories of numbers.

The rules look at the digits with which a number is written: its whole part, and how many digits
there are after the point and what they are worth.  Cardinal rules serve counts, ordinal rules
ranks.
-/

inductive PluralCategory where
  | zero
  | one
  | two
  | few
  | many
  | other
deriving DecidableEq

namespace PluralCategory

def keyword : PluralCategory → String
  | .zero => "zero"
  | .one => "one"
  | .two => "two"
  | .few => "few"
  | .many => "many"
  | .other => "other"

def all : List PluralCategory :=
  [.zero, .one, .two, .few, .many, .other]

def ofKeyword? (word : String) : Option PluralCategory :=
  all.find? (·.keyword == word)

end PluralCategory

/-- What the rules see of a number, its sign dropped. -/
structure PluralOperands where
  whole : Nat
  places : Nat
  fraction : Nat
  isZero : Bool

namespace PluralOperands

/-- The largest whole part that is told apart from larger ones. -/
def wholeLimit : Nat := UInt64.size - 1

def bounded? (digits : List Char) : Option Nat :=
  if digits.isEmpty || !digits.all Char.isDigit then none
  else
    let value := digitsValue digits
    if value ≤ wholeLimit then some value else none

def ofNumber (number : Binary64) : PluralOperands :=
  let text := number.abs.text
  let whole := text.takeWhile (· ≠ '.')
  let fraction := (text.dropWhile (· ≠ '.')).drop 1
  { whole := (bounded? whole).getD wholeLimit
    places := fraction.length
    fraction := (bounded? fraction).getD 0
    isZero := number.abs.equals .zero }

def isInteger (operands : PluralOperands) : Bool :=
  operands.places == 0

end PluralOperands

inductive CardinalRule where
  | english
  | french
  | eastSlavic
  | polish
  | czech
  | arabic
  | hebrew
  | romanian
  | lithuanian
  | invariant
deriving DecidableEq

namespace CardinalRule

def languages : List (String × CardinalRule) :=
  [("fr", .french), ("pt", .french), ("hy", .french), ("ru", .eastSlavic), ("uk", .eastSlavic),
   ("be", .eastSlavic), ("pl", .polish), ("cs", .czech), ("sk", .czech), ("ar", .arabic),
   ("he", .hebrew), ("iw", .hebrew), ("ro", .romanian), ("mo", .romanian), ("lt", .lithuanian),
   ("ja", .invariant), ("zh", .invariant), ("ko", .invariant), ("th", .invariant),
   ("vi", .invariant), ("id", .invariant), ("ms", .invariant), ("lo", .invariant),
   ("my", .invariant)]

/-- The rule of a locale by its base language, but that of European Portuguese is not the
Brazilian one.  An unknown language counts as English does. -/
def ofLocale (locale : String) : CardinalRule :=
  if Locale.normalize locale = "pt-PT" then .english
  else (Keyed.get? (Locale.baseLanguage locale) languages).getD .english

def within (low high n : Nat) : Bool :=
  low ≤ n && n ≤ high

/-- The whole number ends in 2, 3 or 4, but not in 12, 13 or 14. -/
def endsPaucal (n : Nat) : Bool :=
  within 2 4 (n % 10) && !within 12 14 (n % 100)

def categorizeOperands (rule : CardinalRule) (operands : PluralOperands) : PluralCategory :=
  let n := operands.whole
  match rule with
  | .english => if n == 1 && operands.isInteger then .one else .other
  | .french => if n ≤ 1 then .one else .other
  | .eastSlavic =>
      if !operands.isInteger then .other
      else if n % 10 == 1 && n % 100 != 11 then .one
      else if endsPaucal n then .few
      else .many
  | .polish =>
      if !operands.isInteger then .other
      else if n == 1 then .one
      else if endsPaucal n then .few
      else .many
  | .czech =>
      if !operands.isInteger then .many
      else if n == 1 then .one
      else if within 2 4 n then .few
      else .other
  | .arabic =>
      if !operands.isInteger then .other
      else if n == 0 then .zero
      else if n == 1 then .one
      else if n == 2 then .two
      else if within 3 10 (n % 100) then .few
      else if within 11 99 (n % 100) then .many
      else .other
  | .hebrew =>
      if (n == 1 && operands.isInteger) || (n == 0 && !operands.isInteger) then .one
      else if n == 2 && operands.isInteger then .two
      else .other
  | .romanian =>
      if n == 1 && operands.isInteger then .one
      else if !operands.isInteger || operands.isZero || within 1 19 (n % 100) then .few
      else .other
  | .lithuanian =>
      if operands.fraction != 0 then .many
      else if n % 10 == 1 && !within 11 19 (n % 100) then .one
      else if within 2 9 (n % 10) && !within 11 19 (n % 100) then .few
      else .other
  | .invariant => .other

def categorize (rule : CardinalRule) (number : Binary64) : PluralCategory :=
  rule.categorizeOperands (.ofNumber number)

end CardinalRule

inductive OrdinalRule where
  | english
  | french
  | italian
  | swedish
  | invariant
deriving DecidableEq

namespace OrdinalRule

def languages : List (String × OrdinalRule) :=
  [("en", .english), ("fr", .french), ("ms", .french), ("vi", .french), ("hy", .french),
   ("ro", .french), ("it", .italian), ("sv", .swedish)]

/-- The rule of a locale by its base language.  An unknown language has one category. -/
def ofLocale (locale : String) : OrdinalRule :=
  (Keyed.get? (Locale.baseLanguage locale) languages).getD .invariant

def categorizeOperands (rule : OrdinalRule) (operands : PluralOperands) : PluralCategory :=
  let n := operands.whole
  if !operands.isInteger then
    .other
  else
    match rule with
    | .english =>
        if n % 10 == 1 && n % 100 != 11 then .one
        else if n % 10 == 2 && n % 100 != 12 then .two
        else if n % 10 == 3 && n % 100 != 13 then .few
        else .other
    | .french => if n == 1 then .one else .other
    | .italian => if n == 11 || n == 8 || n == 80 || n == 800 then .many else .other
    | .swedish =>
        if (n % 10 == 1 || n % 10 == 2) && n % 100 != 11 && n % 100 != 12 then .one else .other
    | .invariant => .other

def categorize (rule : OrdinalRule) (number : Binary64) : PluralCategory :=
  rule.categorizeOperands (.ofNumber number)

end OrdinalRule

end Phrasebook
