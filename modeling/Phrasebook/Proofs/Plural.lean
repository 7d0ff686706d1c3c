import Phrasebook.Plural
import Phrasebook.Proofs.Number.Shortest

namespace Phrasebook

namespace PluralCategory

/-- The category for all that counts for no other one. -/
def OrElse (counts : PluralCategory → Prop) : PluralCategory → Prop
  | .other => ∀ category, category ≠ .other → ¬counts category
  | category => counts category

theorem eq_iff_orElse {counts : PluralCategory → Prop} {found : PluralCategory}
    (listed : ∀ category, category ≠ .other → (found = category ↔ counts category))
    (category : PluralCategory) : found = category ↔ OrElse counts category := by
  by_cases other : category = .other
  · subst other
    constructor
    · rintro rfl category isListed counted
      exact isListed ((listed category isListed).mpr counted).symm
    · intro none
      by_contra isListed
      exact none found isListed ((listed found isListed).mp rfl)
  · rw [listed category other]
    cases category <;> first | rfl | contradiction

end PluralCategory

/-- The decimal places of a number, none if there is no digit after the point. -/
def Decimal.fractionText (fraction : List Char) : List Char :=
  if fraction.isEmpty then [] else '.' :: fraction

/-- The number is written with these digits before and after the point, its sign dropped. -/
structure IsWritten (number : Binary64) (whole fraction : List Char) : Prop where
  nonempty : whole ≠ []
  wholeDigits : AllDigits whole
  fractionDigits : AllDigits fraction
  text : number.abs.text = whole ++ Decimal.fractionText fraction

namespace PluralOperands

/-- What the operands tell of a number with that whole part and so many digits after the point. -/
structure Tell (operands : PluralOperands) (i v : Nat) : Prop where
  whole : operands.whole = i
  places : operands.places = v
  fraction : operands.fraction = 0 ↔ v = 0
  isZero : v = 0 → (operands.isZero = true ↔ i = 0)

def wholeOf (text : List Char) : List Char :=
  text.takeWhile (· ≠ '.')

def fractionOf (text : List Char) : List Char :=
  (text.dropWhile (· ≠ '.')).drop 1

variable {whole fraction text : List Char}

theorem ne_point (digits : AllDigits whole) : ∀ c ∈ whole, decide (c ≠ '.') = true := by
  intro c member
  refine decide_eq_true ?_
  rintro rfl
  exact absurd (digits '.' member) (by decide)

theorem parts_pointed (digits : AllDigits whole) (fraction : List Char) :
    wholeOf (whole ++ '.' :: fraction) = whole ∧
      fractionOf (whole ++ '.' :: fraction) = fraction := by
  have taken : ('.' :: fraction).takeWhile (· ≠ '.') = [] :=
    List.takeWhile_cons_of_neg (by decide)
  have dropped : ('.' :: fraction).dropWhile (· ≠ '.') = '.' :: fraction :=
    List.dropWhile_cons_of_neg (by decide)
  constructor
  · rw [wholeOf, List.takeWhile_append_of_pos (ne_point digits), taken, List.append_nil]
  · rw [fractionOf, List.dropWhile_append_of_pos (ne_point digits), dropped]
    rfl

theorem parts_whole (digits : AllDigits whole) :
    wholeOf whole = whole ∧ fractionOf whole = [] := by
  constructor
  · exact List.takeWhile_eq_self_iff.mpr (ne_point digits)
  · rw [fractionOf, List.dropWhile_eq_nil_iff.mpr (ne_point digits)]
    rfl

theorem parts_fractionText (digits : AllDigits whole) (fraction : List Char) :
    wholeOf (whole ++ Decimal.fractionText fraction) = whole ∧
      fractionOf (whole ++ Decimal.fractionText fraction) = fraction := by
  cases fraction with
  | nil => simpa [Decimal.fractionText] using parts_whole digits
  | cons c cs => exact parts_pointed digits (c :: cs)

theorem ofParts_of_positional {decimal : Decimal} (positional : decimal.Positional text) :
    Decimal.ofParts (wholeOf text) (fractionOf text) 0 = decimal.positional := by
  cases positional with
  | whole some allDigits value =>
      rw [(parts_whole allDigits).1, (parts_whole allDigits).2, value]
  | pointed some wholeDigits fractionDigits value =>
      rw [(parts_pointed wholeDigits _).1, (parts_pointed wholeDigits _).2, value]

theorem bounded?_of_digits (nonempty : whole ≠ []) (digits : AllDigits whole)
    (small : digitsValue whole < UInt64.size) : bounded? whole = some (digitsValue whole) := by
  have notEmpty : whole.isEmpty = false := List.isEmpty_eq_false_iff.mpr nonempty
  have all : whole.all Char.isDigit = true := List.all_eq_true.mpr digits
  have limit : digitsValue whole ≤ wholeLimit := Nat.le_sub_one_of_lt small
  simp [bounded?, notEmpty, all, limit]

end PluralOperands

variable {number : Binary64} {whole fraction : List Char}

/-- Only a finite number is written with digits. -/
theorem IsWritten.exists_magnitude (written : IsWritten number whole fraction) :
    ∃ magnitude, number.abs = .finite false magnitude := by
  obtain ⟨c, cs, rfl⟩ := List.exists_cons_of_ne_nil written.nonempty
  have isDigit := written.wholeDigits c List.mem_cons_self
  have text := written.text
  cases number with
  | nan =>
      cases (List.cons.inj text).1
      contradiction
  | infinite negative =>
      cases (List.cons.inj text).1
      contradiction
  | finite negative magnitude => exact ⟨magnitude, rfl⟩

theorem digitsValue_append (whole fraction : List Char) :
    digitsValue (whole ++ fraction) =
      Nat.pow 10 fraction.length * digitsValue whole + digitsValue fraction := by
  show Nat.ofDigitChars 10 _ 0 = _
  rw [Nat.ofDigitChars_append, Nat.ofDigitChars_eq_ofDigitChars_zero]
  rfl

/-- The digits are those of the shortest decimal. -/
theorem IsWritten.ofParts_eq (written : IsWritten number whole fraction) {magnitude : Magnitude}
    (finite : number.abs = .finite false magnitude) :
    Decimal.ofParts whole fraction 0 = (magnitude.shortest .up).positional := by
  have text := written.text
  have positional := (magnitude.shortest .up).positionalText_positional
  have parts := PluralOperands.parts_fractionText written.wholeDigits fraction
  rw [finite] at text
  rw [show (magnitude.shortest .up).positionalText = whole ++ Decimal.fractionText fraction
    from text] at positional
  have same := PluralOperands.ofParts_of_positional positional
  rwa [parts.1, parts.2] at same

theorem IsWritten.fraction_iff (written : IsWritten number whole fraction) :
    (PluralOperands.bounded? fraction).getD 0 = 0 ↔ fraction.length = 0 := by
  obtain ⟨magnitude, finite⟩ := written.exists_magnitude
  have value := written.ofParts_eq finite
  rcases eq_or_ne fraction [] with rfl | nonempty
  · simp [PluralOperands.bounded?]
  · have places : 0 < fraction.length := List.length_pos_iff.mpr nonempty
    have plain : (magnitude.shortest .up).positional = magnitude.shortest .up := by
      refine if_pos (Int.not_lt.mp fun positive => ?_)
      have exponents := congrArg Decimal.exponent value
      rw [Decimal.positional, if_neg (Int.not_le.mpr positive)] at exponents
      simp only [Decimal.ofParts] at exponents
      omega
    rw [plain] at value
    have digits : digitsValue (whole ++ fraction) = (magnitude.shortest .up).digits :=
      congrArg Decimal.digits value
    rw [digitsValue_append] at digits
    have bounded : digitsValue fraction < UInt64.size := by
      have most := magnitude.shortest_digits_le .up
      have limit : Nat.pow 10 18 < UInt64.size := by decide
      omega
    have nonzero : digitsValue fraction ≠ 0 := by
      intro zero
      have ends : (magnitude.shortest .up).digits % 10 = 0 := by
        obtain ⟨fewer, length⟩ := Nat.exists_eq_add_of_le' places
        rw [← digits, zero, length, Nat.add_zero]
        exact Nat.mod_eq_zero_of_dvd (Nat.dvd_mul_right_of_dvd ⟨_, Nat.pow_succ'⟩ _)
      have exponents := congrArg Decimal.exponent value
      rw [magnitude.shortest_digits_mod ends] at exponents
      simp only [Decimal.ofParts] at exponents
      omega
    rw [PluralOperands.bounded?_of_digits nonempty written.fractionDigits bounded]
    exact iff_of_false nonzero (Nat.ne_of_gt places)

theorem IsWritten.isZero_iff (written : IsWritten number whole []) :
    number.abs.equals .zero = true ↔ digitsValue whole = 0 := by
  obtain ⟨magnitude, finite⟩ := written.exists_magnitude
  have value := congrArg Decimal.digits (written.ofParts_eq finite)
  have digits : digitsValue whole = (magnitude.shortest .up).positional.digits := by
    rw [← value, Decimal.ofParts, List.append_nil]
  rw [finite, digits]
  constructor
  · intro equal
    have isZero : magnitude = .zero := by
      simpa [Binary64.equals, Binary64.zero] using equal
    rw [isZero, Magnitude.shortest_zero]
    rfl
  · intro none
    rw [Magnitude.eq_zero_of_shortest none]
    rfl

theorem IsWritten.tell (written : IsWritten number whole fraction)
    (small : digitsValue whole < UInt64.size) :
    (PluralOperands.ofNumber number).Tell (digitsValue whole) fraction.length := by
  have parts := PluralOperands.parts_fractionText written.wholeDigits fraction
  have wholePart : PluralOperands.wholeOf number.abs.text = whole := by rw [written.text, parts.1]
  have fractionPart : PluralOperands.fractionOf number.abs.text = fraction := by
    rw [written.text, parts.2]
  constructor
  case whole =>
    change (PluralOperands.bounded? (PluralOperands.wholeOf number.abs.text)).getD _ = _
    rw [wholePart, PluralOperands.bounded?_of_digits written.nonempty written.wholeDigits small]
    rfl
  case places => exact congrArg List.length fractionPart
  case fraction =>
    change (PluralOperands.bounded? (PluralOperands.fractionOf number.abs.text)).getD 0 = 0 ↔ _
    rw [fractionPart, written.fraction_iff]
  case isZero =>
    intro none
    cases List.eq_nil_of_length_eq_zero none
    exact written.isZero_iff

/-- A number that ends in 2, 3 or 4, but not in 12, 13 or 14. -/
def EndsPaucal (i : Nat) : Prop :=
  (2 ≤ i % 10 ∧ i % 10 ≤ 4) ∧ ¬(12 ≤ i % 100 ∧ i % 100 ≤ 14)

def EndsTeen (i : Nat) : Prop :=
  11 ≤ i % 100 ∧ i % 100 ≤ 19

namespace CardinalRule

/-- The numbers of each category but the last, by their whole part and how many digits follow the
point. -/
def Counts (i v : Nat) : CardinalRule → PluralCategory → Prop
  | .english, .one => i = 1 ∧ v = 0
  | .french, .one => i = 0 ∨ i = 1
  | .eastSlavic, .one => v = 0 ∧ i % 10 = 1 ∧ i % 100 ≠ 11
  | .eastSlavic, .few => v = 0 ∧ EndsPaucal i
  | .eastSlavic, .many => v = 0 ∧ ¬(i % 10 = 1 ∧ i % 100 ≠ 11) ∧ ¬EndsPaucal i
  | .polish, .one => v = 0 ∧ i = 1
  | .polish, .few => v = 0 ∧ EndsPaucal i
  | .polish, .many => v = 0 ∧ i ≠ 1 ∧ ¬EndsPaucal i
  | .czech, .one => v = 0 ∧ i = 1
  | .czech, .few => v = 0 ∧ 2 ≤ i ∧ i ≤ 4
  | .czech, .many => 0 < v
  | .arabic, .zero => v = 0 ∧ i = 0
  | .arabic, .one => v = 0 ∧ i = 1
  | .arabic, .two => v = 0 ∧ i = 2
  | .arabic, .few => v = 0 ∧ 3 ≤ i % 100 ∧ i % 100 ≤ 10
  | .arabic, .many => v = 0 ∧ 11 ≤ i % 100 ∧ i % 100 ≤ 99
  | .hebrew, .one => i = 1 ∧ v = 0 ∨ i = 0 ∧ 0 < v
  | .hebrew, .two => i = 2 ∧ v = 0
  | .romanian, .one => i = 1 ∧ v = 0
  | .romanian, .few => ¬(i = 1 ∧ v = 0) ∧ (0 < v ∨ i = 0 ∨ 1 ≤ i % 100 ∧ i % 100 ≤ 19)
  | .lithuanian, .one => v = 0 ∧ i % 10 = 1 ∧ ¬EndsTeen i
  | .lithuanian, .few => v = 0 ∧ (2 ≤ i % 10 ∧ i % 10 ≤ 9) ∧ ¬EndsTeen i
  | .lithuanian, .many => 0 < v
  | _, _ => False

theorem categorizeOperands_iff {operands : PluralOperands} {i v : Nat} (tell : operands.Tell i v)
    (rule : CardinalRule) {category : PluralCategory} (listed : category ≠ .other) :
    rule.categorizeOperands operands = category ↔ rule.Counts i v category := by
  obtain ⟨rfl, rfl, fraction, isZero⟩ := tell
  cases rule <;> cases category <;>
    simp only [categorizeOperands, Counts, PluralOperands.isInteger, within, endsPaucal, EndsPaucal,
      EndsTeen] <;> grind

end CardinalRule

namespace OrdinalRule

/-- The whole numbers of each category but the last. -/
def Counts (i v : Nat) : OrdinalRule → PluralCategory → Prop
  | .english, .one => v = 0 ∧ i % 10 = 1 ∧ i % 100 ≠ 11
  | .english, .two => v = 0 ∧ i % 10 = 2 ∧ i % 100 ≠ 12
  | .english, .few => v = 0 ∧ i % 10 = 3 ∧ i % 100 ≠ 13
  | .french, .one => v = 0 ∧ i = 1
  | .italian, .many => v = 0 ∧ (i = 8 ∨ i = 11 ∨ i = 80 ∨ i = 800)
  | .swedish, .one => v = 0 ∧ (i % 10 = 1 ∨ i % 10 = 2) ∧ i % 100 ≠ 11 ∧ i % 100 ≠ 12
  | _, _ => False

theorem categorizeOperands_iff {operands : PluralOperands} {i v : Nat} (tell : operands.Tell i v)
    (rule : OrdinalRule) {category : PluralCategory} (listed : category ≠ .other) :
    rule.categorizeOperands operands = category ↔ rule.Counts i v category := by
  obtain ⟨rfl, rfl, fraction, isZero⟩ := tell
  cases rule <;> cases category <;>
    simp only [categorizeOperands, Counts, PluralOperands.isInteger] <;> grind

end OrdinalRule

/-- Every number has the category that its written digits are counted for. -/
theorem categorize_iff {number : Binary64} {whole fraction : List Char}
    (written : IsWritten number whole fraction) (small : digitsValue whole < UInt64.size) :
    (∀ (rule : CardinalRule) category, rule.categorize number = category ↔
      PluralCategory.OrElse (rule.Counts (digitsValue whole) fraction.length) category) ∧
    (∀ (rule : OrdinalRule) category, rule.categorize number = category ↔
      PluralCategory.OrElse (rule.Counts (digitsValue whole) fraction.length) category) := by
  have tell := written.tell small
  constructor
  · intro rule
    exact PluralCategory.eq_iff_orElse fun _ listed => rule.categorizeOperands_iff tell listed
  · intro rule
    exact PluralCategory.eq_iff_orElse fun _ listed => rule.categorizeOperands_iff tell listed

/-- The number that was read from `-112`. -/
def negative112 : Binary64 := .ofDecimal true (.ofParts ['1', '1', '2'] [] 0)

theorem categorize_negative112 :
    IsWritten negative112 ['1', '1', '2'] [] ∧ digitsValue ['1', '1', '2'] < UInt64.size ∧
      CardinalRule.eastSlavic.categorize negative112 = .many ∧
      CardinalRule.romanian.categorize negative112 = .few ∧
      OrdinalRule.english.categorize negative112 = .other := by
  have written : IsWritten negative112 ['1', '1', '2'] [] :=
    ⟨by decide, List.all_eq_true.mp rfl, List.all_eq_true.mp rfl, by decide +kernel⟩
  have small : digitsValue ['1', '1', '2'] < UInt64.size := by decide
  obtain ⟨cardinal, ordinal⟩ := categorize_iff written small
  refine ⟨written, small, (cardinal .eastSlavic .many).mpr ?_, (cardinal .romanian .few).mpr ?_,
    (ordinal .english .other).mpr ?_⟩
  · exact ⟨rfl, by decide, fun paucal => absurd paucal.2 (by decide)⟩
  · exact ⟨by decide, by decide⟩
  · intro category listed counted
    cases category with
    | one | few => exact absurd counted.2.1 (by decide)
    | two => exact counted.2.2 rfl
    | zero | many => exact counted
    | other => exact listed rfl

end Phrasebook
