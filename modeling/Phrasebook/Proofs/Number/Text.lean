import Mathlib.Data.List.TakeWhile
import Phrasebook.Number.Shortest

namespace Phrasebook

theorem digitsValue_toDigits (n : Nat) : digitsValue (Nat.toDigits 10 n) = n :=
  Nat.ofDigitChars_toDigits (by decide) (by decide)

theorem digitsValue_append_zeros (digits : List Char) (count : Nat) :
    digitsValue (digits ++ List.replicate count '0') = digitsValue digits * Nat.pow 10 count := by
  show Nat.ofDigitChars 10 _ 0 = _
  rw [Nat.ofDigitChars_append, Nat.ofDigitChars_replicate_zero, Nat.pow_eq, Nat.mul_comm]
  rfl

theorem digitsValue_zeros_append (digits : List Char) (count : Nat) :
    digitsValue (List.replicate count '0' ++ digits) = digitsValue digits := by
  show Nat.ofDigitChars 10 _ 0 = _
  rw [Nat.ofDigitChars_append, Nat.ofDigitChars_replicate_zero, Nat.mul_zero]
  rfl

def AllDigits (cs : List Char) : Prop :=
  ∀ c ∈ cs, c.isDigit = true

theorem allDigits_toDigits (n : Nat) : AllDigits (Nat.toDigits 10 n) :=
  fun _ => Nat.isDigit_of_mem_toDigits (by decide) (by decide)

theorem allDigits_zeros (count : Nat) : AllDigits (List.replicate count '0') := by
  intro c member
  rw [List.eq_of_mem_replicate member]
  rfl

theorem AllDigits.append {left right : List Char} (leftDigits : AllDigits left)
    (rightDigits : AllDigits right) : AllDigits (left ++ right) := by
  intro c member
  exact (List.mem_append.mp member).elim (leftDigits c) (rightDigits c)

namespace Decimal

/-- The two forms of a positional text: digits, or digits with a point between them. -/
inductive Positional (decimal : Decimal) : List Char → Prop where
  | whole {digits : List Char} (some : digits ≠ []) (allDigits : AllDigits digits)
      (value : Decimal.ofParts digits [] 0 = decimal.positional) : Positional decimal digits
  | pointed {whole fraction : List Char} (some : whole ≠ []) (wholeDigits : AllDigits whole)
      (fractionDigits : AllDigits fraction)
      (value : Decimal.ofParts whole fraction 0 = decimal.positional) :
      Positional decimal (whole ++ '.' :: fraction)

theorem ofParts_zeros {number : Nat} {exponent : Int} (nonneg : 0 ≤ exponent) :
    ofParts (Nat.toDigits 10 number ++ List.replicate exponent.toNat '0') [] 0 =
      (⟨number, exponent⟩ : Decimal).positional := by
  simp only [ofParts, List.append_nil, digitsValue_append_zeros, digitsValue_toDigits, positional]
  split
  · next small =>
      rw [show exponent = 0 by omega]
      simp
  · rfl

theorem ofParts_split {digits : List Char} {places : Nat} (within : places ≤ digits.length) :
    ofParts (digits.take (digits.length - places)) (digits.drop (digits.length - places)) 0 =
      ⟨digitsValue digits, -(places : Int)⟩ := by
  rw [ofParts, List.take_append_drop, List.length_drop]
  congr 1
  omega

theorem ofParts_fraction (digits : List Char) (zeros : Nat) :
    ofParts ['0'] (List.replicate zeros '0' ++ digits) 0 =
      ⟨digitsValue digits, -((zeros + digits.length : Nat) : Int)⟩ := by
  have leading : ['0'] ++ List.replicate zeros '0' = List.replicate (zeros + 1) '0' := rfl
  rw [ofParts, ← List.append_assoc, leading, digitsValue_zeros_append, List.length_append,
    List.length_replicate, Int.zero_sub]

theorem positionalText_positional (decimal : Decimal) :
    Positional decimal decimal.positionalText := by
  obtain ⟨number, exponent⟩ := decimal
  have value := digitsValue_toDigits number
  have allDigits := allDigits_toDigits number
  have nonempty : 0 < (Nat.toDigits 10 number).length := Nat.length_toDigits_pos
  unfold positionalText
  dsimp only
  by_cases isWhole : 0 ≤ exponent
  · rw [if_pos isWhole]
    refine .whole ?_ (allDigits.append (allDigits_zeros _)) (ofParts_zeros isWhole)
    exact List.append_ne_nil_of_left_ne_nil (List.ne_nil_of_length_pos nonempty) _
  · rw [if_neg isWhole]
    have same : (⟨number, exponent⟩ : Decimal).positional = ⟨number, exponent⟩ :=
      if_pos (by dsimp only; omega)
    generalize Nat.toDigits 10 number = digits at value allDigits nonempty
    by_cases within : (-exponent).toNat < digits.length
    · rw [if_pos within]
      refine .pointed ?_ ?_ ?_ ?_
      · exact List.ne_nil_of_length_pos (by rw [List.length_take]; omega)
      · exact fun c member => allDigits c (List.mem_of_mem_take member)
      · exact fun c member => allDigits c (List.mem_of_mem_drop member)
      · rw [same, ofParts_split (Nat.le_of_lt within), value]
        congr 1
        omega
    · rw [if_neg within]
      have leading : AllDigits ['0'] := by simp [AllDigits]
      refine .pointed (List.cons_ne_nil '0' []) leading ((allDigits_zeros _).append allDigits) ?_
      rw [same, ofParts_fraction, value]
      congr 1
      omega

theorem positional_of_nonpos {digits : Nat} {exponent : Int} (nonpos : exponent ≤ 0) :
    (⟨digits, exponent⟩ : Decimal).positional = ⟨digits, exponent⟩ :=
  if_pos nonpos

theorem Positional.head_isDigit {decimal : Decimal} {text : List Char}
    (positional : Positional decimal text) :
    ∃ c rest, text = c :: rest ∧ c.isDigit = true := by
  cases positional with
  | whole some allDigits value =>
      obtain ⟨c, rest, rfl⟩ := List.exists_cons_of_ne_nil some
      exact ⟨c, rest, rfl, allDigits c (by simp)⟩
  | @pointed whole fraction some wholeDigits fractionDigits value =>
      obtain ⟨c, rest, rfl⟩ := List.exists_cons_of_ne_nil some
      exact ⟨c, rest ++ '.' :: fraction, rfl, wholeDigits c (by simp)⟩

theorem Positional.mem {decimal : Decimal} {text : List Char}
    (positional : Positional decimal text) {c : Char} (member : c ∈ text) :
    c.isDigit = true ∨ c = '.' := by
  cases positional with
  | whole some allDigits value => exact .inl (allDigits c member)
  | pointed some wholeDigits fractionDigits value =>
      rcases List.mem_append.mp member with inWhole | rest
      · exact .inl (wholeDigits c inWhole)
      · rcases List.mem_cons.mp rest with point | inFraction
        · exact .inr point
        · exact .inl (fractionDigits c inFraction)

end Decimal

theorem toLower_of_isDigit {c : Char} (isDigit : c.isDigit = true) : c.toLower = c := by
  simp only [Char.isDigit, Bool.and_eq_true, decide_eq_true_eq] at isDigit
  unfold Char.toLower
  rw [dif_neg fun upper => absurd (UInt32.le_trans upper.1 isDigit.2) (by decide)]

namespace Binary64

theorem readNumeral?_of_positional {decimal : Decimal} {text : List Char}
    (positional : decimal.Positional text) : readNumeral? text = some decimal.positional := by
  cases positional with
  | whole some allDigits value =>
      have taken : text.takeWhile Char.isDigit = text := List.takeWhile_eq_self_iff.mpr allDigits
      have dropped : text.dropWhile Char.isDigit = [] := List.dropWhile_eq_nil_iff.mpr allDigits
      simp only [readNumeral?, taken, dropped, value]
      simp [some]
  | @pointed whole fraction some wholeDigits fractionDigits value =>
      have point : Char.isDigit '.' = false := rfl
      have taken : (whole ++ '.' :: fraction).takeWhile Char.isDigit = whole := by
        rw [List.takeWhile_append_of_pos wholeDigits]
        simp [point]
      have dropped : (whole ++ '.' :: fraction).dropWhile Char.isDigit = '.' :: fraction := by
        rw [List.dropWhile_append_of_pos wholeDigits]
        simp [point]
      have fractionTaken : fraction.takeWhile Char.isDigit = fraction :=
        List.takeWhile_eq_self_iff.mpr fractionDigits
      have fractionDropped : fraction.dropWhile Char.isDigit = [] :=
        List.dropWhile_eq_nil_iff.mpr fractionDigits
      simp only [readNumeral?, taken, dropped, fractionTaken, fractionDropped, value]
      simp [some]

theorem readUnsigned?_of_positional {decimal : Decimal} {text : List Char}
    (positional : decimal.Positional text) (negative : Bool) :
    readUnsigned? negative text = some (ofDecimal negative decimal.positional) := by
  obtain ⟨c, rest, rfl, isDigit⟩ := positional.head_isDigit
  have head : ∀ letter letters, letter.isDigit = false →
      (c :: rest).map Char.toLower ≠ letter :: letters := by
    intro letter letters isLetter same
    have lower : c.toLower = letter := (List.cons.inj same).1
    rw [toLower_of_isDigit isDigit] at lower
    rw [lower, isLetter] at isDigit
    contradiction
  unfold readUnsigned?
  simp only [head 'n' _ rfl, head 'i' _ rfl, readNumeral?_of_positional positional]
  simp

theorem ofDecimal_zero {digits : Nat} (nonzero : digits ≠ 0) (negative : Bool) :
    ofDecimal negative ⟨digits, 0⟩ = ofQuotient negative (digits * Magnitude.unitsPerOne) 1 := by
  unfold ofDecimal
  rw [if_neg nonzero, if_neg (by simp), if_pos (Int.le_refl 0)]
  dsimp only
  rw [show Nat.pow 10 (0 : Int).toNat = 1 from rfl, Nat.mul_one]

theorem ofDecimal_neg {digits places : Nat} (nonzero : digits ≠ 0) (positive : 0 < places)
    (many : places ≤ digits.log2) (negative : Bool) :
    ofDecimal negative ⟨digits, -(places : Int)⟩ =
      ofQuotient negative (digits * Magnitude.unitsPerOne) (Nat.pow 10 places) := by
  have count : (-(-(places : Int))).toNat = places := by omega
  unfold ofDecimal
  rw [if_neg nonzero, if_neg (by dsimp only; omega), if_neg (by dsimp only; omega)]
  dsimp only
  rw [count, if_neg (by omega)]

theorem read?_signed {text : List Char} {c : Char} {rest : List Char} (starts : text = c :: rest)
    (unsigned : c ≠ '-' ∧ c ≠ '+') (negative : Bool) :
    read? (signed negative text) = readUnsigned? negative text := by
  subst starts
  cases negative with
  | true => rfl
  | false =>
      unfold signed read?
      split
      · next same => exact absurd (List.cons.inj same).1 unsigned.1
      · next same => exact absurd (List.cons.inj same).1 unsigned.2
      · rfl

end Binary64

theorem roundHalfEven_mul (whole : Nat) {den : Nat} (positive : 0 < den) :
    roundHalfEven (whole * den) den = whole := by
  unfold roundHalfEven
  rw [Nat.mul_div_cancel _ positive, Nat.mul_mod_left]
  simp [positive]

namespace Magnitude

variable (magnitude : Magnitude)

theorem lostBits_units : lostBits magnitude.units = magnitude.exponent := by
  obtain ⟨significand, exponent, below, range, normal⟩ := magnitude
  simp only [Nat.pow_eq] at below normal
  simp only [lostBits, units, Nat.pow_eq]
  rcases normal with above | rfl
  · have log : (significand * 2 ^ exponent).log2 = 52 + exponent := by
      have positive : 0 < 2 ^ exponent := Nat.two_pow_pos exponent
      have nonzero : significand * 2 ^ exponent ≠ 0 :=
        Nat.mul_ne_zero (by omega) (Nat.ne_of_gt positive)
      rw [Nat.log2_eq_iff nonzero, Nat.pow_add, show 52 + exponent + 1 = 53 + exponent by omega,
        Nat.pow_add]
      exact ⟨Nat.mul_le_mul_right _ above, Nat.mul_lt_mul_of_pos_right below positive⟩
    omega
  · rw [Nat.pow_zero, Nat.mul_one]
    by_cases zero : significand = 0
    · simp [zero]
    · have := (Nat.log2_lt zero).mpr below
      omega

/-- No bit of a whole number of units that a magnitude has is lost. -/
theorem ofQuotient?_units {den : Nat} (positive : 0 < den) :
    ofQuotient? (magnitude.units * den) den = some magnitude := by
  have lost : lostBits (magnitude.units * den / den) = magnitude.exponent := by
    rw [Nat.mul_div_cancel _ positive, lostBits_units]
  have significand : roundedSignificand (magnitude.units * den) den = magnitude.significand := by
    unfold roundedSignificand
    rw [lost, units, Nat.mul_assoc, Nat.mul_comm (Nat.pow 2 _) den]
    exact roundHalfEven_mul _ (Nat.mul_pos positive (Nat.two_pow_pos _))
  obtain ⟨below, range, normal⟩ := magnitude.fits
  unfold ofQuotient?
  simp only [lost, significand, below, range, dif_pos]

theorem ofDecimal_of_unsigned {decimal : Decimal}
    (read : Binary64.ofDecimal false decimal = .finite false magnitude) (negative : Bool) :
    Binary64.ofDecimal negative decimal = .finite negative magnitude := by
  have rounded : ∀ num den, Binary64.ofQuotient false num den = .finite false magnitude →
      Binary64.ofQuotient negative num den = .finite negative magnitude := by
    intro num den read
    unfold Binary64.ofQuotient at read ⊢
    cases found : ofQuotient? num den with
    | none => simp [found] at read
    | some nearest => simpa [found] using read
  unfold Binary64.ofDecimal at read ⊢
  dsimp only at read ⊢
  split_ifs at read ⊢ with zero huge whole tiny
  · cases read
    rfl
  · exact rounded _ _ read
  · cases read
    rfl
  · exact rounded _ _ read

theorem ofQuotient_units (negative : Bool) {den : Nat} (positive : 0 < den) :
    Binary64.ofQuotient negative (magnitude.units * den) den = .finite negative magnitude := by
  have found := ofQuotient?_units magnitude positive
  unfold Binary64.ofQuotient
  rw [found]

theorem pow_two_add (left right : Nat) :
    Nat.pow 2 (left + right) = Nat.pow 2 left * Nat.pow 2 right :=
  Nat.pow_add 2 left right

theorem unitsPerOne_eq {places : Nat} (all : places = 1074) : unitsPerOne = Nat.pow 2 places :=
  all ▸ rfl

theorem units_of_large {high : Nat} (sum : magnitude.exponent = high + 1074) :
    magnitude.significand * Nat.pow 2 high * unitsPerOne = magnitude.units := by
  obtain ⟨places, all⟩ : ∃ places, places = 1074 := ⟨_, rfl⟩
  rw [← all] at sum
  rw [unitsPerOne_eq all, units, sum, pow_two_add, Nat.mul_assoc]

theorem units_of_small {places : Nat} (sum : magnitude.exponent + places = 1074) :
    magnitude.significand * Nat.pow 5 places * unitsPerOne =
      magnitude.units * Nat.pow 10 places := by
  have ten : Nat.pow 10 places = Nat.pow 2 places * Nat.pow 5 places := Nat.mul_pow 2 5 places
  rw [unitsPerOne_eq sum, pow_two_add, units, ten]
  simp only [Nat.mul_assoc, Nat.mul_comm, Nat.mul_left_comm]

theorem ofDecimal_exactDecimal (nonzero : magnitude.exactDecimal.digits ≠ 0) (negative : Bool) :
    Binary64.ofDecimal negative magnitude.exactDecimal.positional =
      .finite negative magnitude := by
  by_cases large : 1074 ≤ magnitude.exponent
  · obtain ⟨high, sum⟩ := Nat.exists_eq_add_of_le' large
    have exact : magnitude.exactDecimal =
        ⟨magnitude.significand * Nat.pow 2 high, 0⟩ := by
      unfold exactDecimal
      rw [if_pos large, show magnitude.exponent - 1074 = high by omega]
    rw [exact] at nonzero ⊢
    rw [Decimal.positional_of_nonpos (Int.le_refl 0), Binary64.ofDecimal_zero nonzero,
      units_of_large magnitude sum]
    simpa using ofQuotient_units magnitude negative Nat.one_pos
  · obtain ⟨places, sum⟩ : ∃ places, magnitude.exponent + places = 1074 :=
      ⟨1074 - magnitude.exponent, by omega⟩
    have exact : magnitude.exactDecimal =
        ⟨magnitude.significand * Nat.pow 5 places, -(places : Int)⟩ := by
      unfold exactDecimal
      rw [if_neg large, show 1074 - magnitude.exponent = places by omega]
      congr 1
      omega
    rw [exact] at nonzero ⊢
    have many : places ≤ (magnitude.significand * Nat.pow 5 places).log2 := by
      rw [Nat.le_log2 nonzero]
      calc
        2 ^ places ≤ Nat.pow 5 places := Nat.pow_le_pow_left (by decide) places
        _ ≤ magnitude.significand * Nat.pow 5 places :=
          Nat.le_mul_of_pos_left _
            (Nat.pos_of_ne_zero (Nat.ne_zero_of_mul_ne_zero_left nonzero))
    rw [Decimal.positional_of_nonpos (by omega),
      Binary64.ofDecimal_neg nonzero (by omega) many, units_of_small magnitude sum]
    exact ofQuotient_units magnitude negative (Nat.pow_pos (by decide))

theorem ofDecimal_shortestFrom {exact : Decimal}
    (exactRead : Binary64.ofDecimal false exact.positional = .finite false magnitude)
    (ties : TieRule) (dropped : Nat) :
    Binary64.ofDecimal false (magnitude.shortestFrom ties exact dropped).positional =
      .finite false magnitude := by
  induction dropped with
  | zero => exact exactRead
  | succ dropped ih =>
      unfold shortestFrom
      split
      · next decimal found =>
          have isRead := List.find?_some found
          exact eq_of_beq isRead
      · exact ih

theorem eq_zero_of_exactDecimal (none : magnitude.exactDecimal.digits = 0) :
    magnitude = .zero := by
  obtain ⟨significand, exponent, below, range, normal⟩ := magnitude
  have nothing : significand = 0 := by
    unfold exactDecimal at none
    split at none
    · exact (Nat.mul_eq_zero.mp none).resolve_right (Nat.ne_of_gt (Nat.two_pow_pos _))
    · exact (Nat.mul_eq_zero.mp none).resolve_right (Nat.ne_of_gt (Nat.pow_pos (by decide)))
  subst nothing
  rcases normal with above | rfl
  · simp at above
  · rfl

theorem ofDecimal_shortest (ties : TieRule) (negative : Bool) :
    Binary64.ofDecimal negative (magnitude.shortest ties).positional =
      .finite negative magnitude := by
  unfold shortest
  dsimp only
  split
  · next none =>
      rw [eq_zero_of_exactDecimal magnitude none]
      rfl
  · next nonzero =>
      refine ofDecimal_of_unsigned magnitude ?_ negative
      exact ofDecimal_shortestFrom magnitude (ofDecimal_exactDecimal magnitude nonzero false) _ _

end Magnitude

namespace Binary64

theorem read?_text {number : Binary64} (isNumber : number ≠ .nan) :
    read? number.text = some number := by
  cases number with
  | nan => contradiction
  | infinite negative => cases negative <;> rfl
  | finite negative magnitude =>
      have positional := (magnitude.shortest .up).positionalText_positional
      obtain ⟨c, rest, starts, isDigit⟩ := positional.head_isDigit
      have unsigned : c ≠ '-' ∧ c ≠ '+' := by
        constructor <;> rintro rfl <;> contradiction
      rw [text, read?_signed starts unsigned, readUnsigned?_of_positional positional,
        magnitude.ofDecimal_shortest]

theorem signed_append (negative : Bool) (text rest : List Char) :
    signed negative text ++ rest = signed negative (text ++ rest) := by
  cases negative <;> rfl

theorem mem_signed {negative : Bool} {unsigned : List Char} {c : Char}
    (member : c ∈ signed negative unsigned) : c = '-' ∨ c ∈ unsigned := by
  cases negative with
  | true => exact List.mem_cons.mp member
  | false => exact .inr member

/-- The characters with which numbers are written. -/
theorem mem_text {number : Binary64} (isNumber : number ≠ .nan) {c : Char}
    (member : c ∈ number.text) : c.isDigit = true ∨ c ∈ ['-', '.', 'i', 'n', 'f'] := by
  cases number with
  | nan => contradiction
  | infinite negative =>
      refine .inr ((mem_signed member).elim (fun minus => by simp [minus]) fun letter => ?_)
      exact List.mem_cons_of_mem _ (List.mem_cons_of_mem _ letter)
  | finite negative magnitude =>
      rcases mem_signed member with rfl | unsigned
      · exact .inr (by simp)
      · exact ((magnitude.shortest .up).positionalText_positional.mem unsigned).imp_right
          fun point => by simp [point]

theorem text_ne_nil (number : Binary64) : number.text ≠ [] := by
  cases number with
  | nan => simp [text]
  | infinite negative => cases negative <;> simp [text, signed]
  | finite negative magnitude =>
      obtain ⟨c, rest, starts, _⟩ :=
        (magnitude.shortest .up).positionalText_positional.head_isDigit
      cases negative <;> simp [text, signed, starts]

theorem displayText_ne_nil (number : Binary64) : number.displayText ≠ [] := by
  unfold displayText
  split
  · have digits : Nat.toDigits 10 number.wholePart ≠ [] :=
      List.ne_nil_of_length_pos Nat.length_toDigits_pos
    unfold signed
    split
    · exact List.cons_ne_nil _ _
    · exact digits
  · exact number.text_ne_nil

end Binary64

end Phrasebook
