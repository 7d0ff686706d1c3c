import Phrasebook.Proofs.Number.Text

namespace Phrasebook

/-! How many digits the shortest decimal of a number has, and which is the last of them.

A zero at the end could be left out.  With eighteen digits the decimal above a number is so near to
it that it is read as this number, so the search never comes to more of them.
-/

theorem roundHalfEven_near (whole : Nat) {den excess : Nat} (near : 2 * excess < den) :
    roundHalfEven (whole * den + excess) den = whole := by
  have positive : 0 < den := by omega
  have quotient : (whole * den + excess) / den = whole := by
    rw [Nat.mul_comm, Nat.mul_add_div positive, Nat.div_eq_of_lt (by omega), Nat.add_zero]
  have rest : (whole * den + excess) % den = excess := by
    rw [Nat.mul_comm, Nat.mul_add_mod, Nat.mod_eq_of_lt (by omega)]
  unfold roundHalfEven
  rw [quotient, rest]
  exact if_pos near

theorem roundHalfEven_mul_left (num den : Nat) {factor : Nat} (positive : 0 < factor) :
    roundHalfEven (factor * num) (factor * den) = roundHalfEven num den := by
  have twice : 2 * (factor * (num % den)) = factor * (2 * (num % den)) := Nat.mul_left_comm ..
  unfold roundHalfEven
  rw [Nat.mul_div_mul_left _ _ positive, Nat.mul_mod_mul_left]
  dsimp only
  rw [twice]
  simp only [Nat.mul_lt_mul_left positive, Nat.mul_right_inj (Nat.ne_of_gt positive)]

namespace Magnitude

variable (magnitude : Magnitude)

theorem two_pow_le_ten_pow {twos tens : Nat} (few : twos ≤ 3 * tens) :
    Nat.pow 2 twos ≤ Nat.pow 10 tens := by
  calc
    2 ^ twos ≤ 2 ^ (3 * tens) := Nat.pow_le_pow_right (by decide) few
    _ = (2 ^ 3) ^ tens := Nat.pow_mul 2 3 tens
    _ ≤ 10 ^ tens := Nat.pow_le_pow_left (by decide) tens

theorem lostBits_near {whole : Nat} (above : magnitude.units ≤ whole)
    (below : whole < magnitude.units + Nat.pow 2 magnitude.exponent) :
    lostBits whole = magnitude.exponent := by
  have exact := lostBits_units magnitude
  obtain ⟨significand, exponent, small, range, normal⟩ := magnitude
  simp only [Nat.pow_eq] at small normal
  simp only [units, Nat.pow_eq] at above below exact ⊢
  rcases normal with large | rfl
  · have positive : 0 < 2 ^ exponent := Nat.two_pow_pos exponent
    have lower : 2 ^ (52 + exponent) ≤ whole := by
      rw [Nat.pow_add]
      exact Nat.le_trans (Nat.mul_le_mul_right _ large) above
    have upper : whole < 2 ^ (52 + exponent + 1) := by
      rw [show 52 + exponent + 1 = 53 + exponent by omega, Nat.pow_add]
      calc
        whole < (significand + 1) * 2 ^ exponent := by rwa [Nat.succ_mul]
        _ ≤ 2 ^ 53 * 2 ^ exponent := Nat.mul_le_mul_right _ small
    have nonzero : whole ≠ 0 := Nat.ne_of_gt (Nat.lt_of_lt_of_le (Nat.two_pow_pos _) lower)
    have log := (Nat.log2_eq_iff nonzero).mpr ⟨lower, upper⟩
    unfold lostBits
    omega
  · have same : whole = significand * 2 ^ 0 := by
      rw [Nat.pow_zero] at above below ⊢
      omega
    rwa [same]

/-- What exceeds a magnitude by less than half of its last place is rounded to it. -/
theorem ofQuotient?_near {den excess : Nat} (near : 2 * excess < Nat.pow 2 magnitude.exponent * den) :
    ofQuotient? (magnitude.units * den + excess) den = some magnitude := by
  have positive : 0 < den := by
    refine Nat.pos_of_ne_zero ?_
    rintro rfl
    omega
  have lost : lostBits ((magnitude.units * den + excess) / den) = magnitude.exponent := by
    rw [Nat.mul_comm, Nat.mul_add_div positive]
    refine lostBits_near magnitude (Nat.le_add_right _ _) (Nat.add_lt_add_left ?_ _)
    exact Nat.div_lt_of_lt_mul (by rw [Nat.mul_comm den]; omega)
  have significand :
      roundedSignificand (magnitude.units * den + excess) den = magnitude.significand := by
    unfold roundedSignificand
    rw [lost, units, Nat.mul_assoc, Nat.mul_comm (Nat.pow 2 _) den]
    exact roundHalfEven_near _ (by rwa [Nat.mul_comm den])
  obtain ⟨below, range, normal⟩ := magnitude.fits
  unfold ofQuotient?
  simp only [lost, significand, below, range, dif_pos]

theorem ofQuotient_near {den excess : Nat}
    (near : 2 * excess < Nat.pow 2 magnitude.exponent * den) (negative : Bool) :
    Binary64.ofQuotient negative (magnitude.units * den + excess) den =
      .finite negative magnitude := by
  have found := ofQuotient?_near magnitude near
  unfold Binary64.ofQuotient
  rw [found]

end Magnitude

namespace Binary64

theorem ofQuotient_mul_left (negative : Bool) (num den : Nat) {factor : Nat}
    (positive : 0 < factor) :
    ofQuotient negative (factor * num) (factor * den) = ofQuotient negative num den := by
  have same : Magnitude.ofQuotient? (factor * num) (factor * den) =
      Magnitude.ofQuotient? num den := by
    have rounded : Magnitude.roundedSignificand (factor * num) (factor * den) =
        Magnitude.roundedSignificand num den := by
      unfold Magnitude.roundedSignificand
      rw [Nat.mul_div_mul_left _ _ positive, Nat.mul_assoc, roundHalfEven_mul_left _ _ positive]
    unfold Magnitude.ofQuotient?
    simp only [rounded, Nat.mul_div_mul_left _ _ positive]
  unfold ofQuotient
  rw [same]

theorem ofDecimal_nothing {decimal : Decimal} (none : decimal.digits = 0) {negative : Bool} :
    ofDecimal negative decimal = .finite negative .zero :=
  if_pos none

theorem ofQuotient_tiny {num den : Nat} (tiny : 2 * num < den) (negative : Bool) :
    ofQuotient negative num den = .finite negative .zero := by
  have nothing : Magnitude.zero.units * den + num = num := by
    rw [show Magnitude.zero.units = 0 from rfl, Nat.zero_mul, Nat.zero_add]
  have found := @Magnitude.ofQuotient_near .zero den num
    (by rwa [show Nat.pow 2 Magnitude.zero.exponent = 1 from rfl, Nat.one_mul]) negative
  rwa [nothing] at found

/-- What is decided by the size of the exponent alone is decided as rounding would. -/
theorem ofDecimal_places {digits : Nat} (nonzero : digits ≠ 0) (places : Nat) (negative : Bool) :
    ofDecimal negative ⟨digits, -(places : Int)⟩ =
      ofQuotient negative (digits * Magnitude.unitsPerOne) (Nat.pow 10 places) := by
  have count : (-(-(places : Int))).toNat = places := by omega
  rcases Nat.eq_zero_or_pos places with rfl | positive
  · exact ofDecimal_zero nonzero negative
  · unfold ofDecimal
    rw [if_neg nonzero, if_neg (by dsimp only; omega), if_neg (by dsimp only; omega)]
    dsimp only
    rw [count]
    split
    · next small =>
        obtain ⟨bits, all⟩ : ∃ bits, bits = 1074 := ⟨_, rfl⟩
        refine (ofQuotient_tiny ?_ negative).symm
        rw [Magnitude.unitsPerOne_eq all]
        calc
          2 * (digits * 2 ^ bits) < 2 * (2 ^ (digits.log2 + 1) * 2 ^ bits) := by
            have below : digits < 2 ^ (digits.log2 + 1) := Nat.lt_log2_self
            have positive : 0 < 2 ^ bits := Nat.two_pow_pos bits
            exact Nat.mul_lt_mul_of_pos_left (Nat.mul_lt_mul_of_pos_right below positive) (by decide)
          _ = 2 ^ (1 + (digits.log2 + 1 + bits)) := by
            rw [Nat.pow_add 2 1, Nat.pow_add 2 (digits.log2 + 1) bits, Nat.pow_one]
          _ ≤ 10 ^ places := Magnitude.two_pow_le_ten_pow (by omega)
    · rfl

/-- The nearest number to a decimal with an exponent of either sign. -/
theorem ofDecimal_scaled {digits : Nat} (nonzero : digits ≠ 0) (power places : Nat)
    (negative : Bool) :
    ofDecimal negative (⟨digits, (power : Int) - places⟩ : Decimal).positional =
      ofQuotient negative (digits * Nat.pow 10 power * Magnitude.unitsPerOne)
        (Nat.pow 10 places) := by
  have ten : ∀ count, 0 < Nat.pow 10 count := fun count => Nat.pow_pos (by decide)
  rcases Nat.le_total power places with few | many
  · obtain ⟨left, rfl⟩ := Nat.exists_eq_add_of_le few
    have split : Nat.pow 10 (power + left) = Nat.pow 10 power * Nat.pow 10 left :=
      Nat.pow_add 10 power left
    rw [show (power : Int) - ((power + left : Nat) : Int) = -(left : Int) by omega,
      Decimal.positional_of_nonpos (by omega), ofDecimal_places nonzero, split,
      Nat.mul_assoc, Nat.mul_left_comm, ofQuotient_mul_left negative _ _ (ten power)]
  · obtain ⟨left, rfl⟩ := Nat.exists_eq_add_of_le many
    have whole : (⟨digits, ((places + left : Nat) : Int) - places⟩ : Decimal).positional =
        ⟨digits * Nat.pow 10 left, 0⟩ := by
      rw [show ((places + left : Nat) : Int) - places = (left : Int) by omega]
      unfold Decimal.positional
      rcases Nat.eq_zero_or_pos left with rfl | positive
      · simp
      · rw [if_neg (by dsimp only; omega)]
        rfl
    have split : Nat.pow 10 (places + left) = Nat.pow 10 places * Nat.pow 10 left :=
      Nat.pow_add 10 places left
    have same := ofQuotient_mul_left negative (digits * Nat.pow 10 left * Magnitude.unitsPerOne) 1
      (ten places)
    rw [Nat.mul_one] at same
    rw [whole, ofDecimal_zero (Nat.mul_ne_zero nonzero (Nat.ne_of_gt (ten left))), split,
      Nat.mul_left_comm, Nat.mul_assoc (Nat.pow 10 places), same]

/-- A zero at the end of the digits can be left out. -/
theorem ofDecimal_shortened {digits : Nat} (nonzero : digits ≠ 0) (exponent : Int)
    (negative : Bool) :
    ofDecimal negative (⟨10 * digits, exponent⟩ : Decimal).positional =
      ofDecimal negative (⟨digits, exponent + 1⟩ : Decimal).positional := by
  obtain ⟨power, places, rfl⟩ : ∃ power places : Nat, exponent = (power : Int) - places :=
    ⟨exponent.toNat, (-exponent).toNat, by omega⟩
  have next : (power : Int) - places + 1 = ((power + 1 : Nat) : Int) - places := by omega
  have more : Nat.pow 10 (power + 1) = Nat.pow 10 power * 10 := Nat.pow_succ 10 power
  rw [next, ofDecimal_scaled nonzero, ofDecimal_scaled (by omega), more, Nat.mul_comm 10,
    Nat.mul_assoc digits, Nat.mul_comm 10]

end Binary64

namespace Magnitude

variable (magnitude : Magnitude)

theorem mem_neighbours_iff {ties : TieRule} {exact decimal : Decimal} {dropped : Nat} :
    decimal ∈ neighbours ties exact dropped ↔
      decimal = ⟨exact.digits / Nat.pow 10 dropped, exact.exponent + dropped⟩ ∨
        decimal = ⟨exact.digits / Nat.pow 10 dropped + 1, exact.exponent + dropped⟩ := by
  unfold neighbours
  dsimp only
  split
  · simp
  · simp [or_comm]

/-- The decimal reads back after so many digits are dropped, and no neighbour of fewer digits does. -/
structure FoundAt (magnitude : Magnitude) (ties : TieRule) (exact decimal : Decimal)
    (start dropped : Nat) : Prop where
  within : dropped ≤ start
  among : decimal ∈ neighbours ties exact dropped
  reads : magnitude.isReadFrom decimal = true
  first : ∀ more, dropped < more → more ≤ start → ∀ other ∈ neighbours ties exact more,
    magnitude.isReadFrom other = false

theorem shortestFrom_foundAt {ties : TieRule} {exact : Decimal}
    (reads : magnitude.isReadFrom exact = true) (start : Nat) :
    ∃ dropped, FoundAt magnitude ties exact (magnitude.shortestFrom ties exact start)
      start dropped := by
  induction start with
  | zero =>
      refine ⟨0, Nat.le_refl _, mem_neighbours_iff.mpr (.inl ?_), reads, ?_⟩
      · simp [shortestFrom]
      · intro more above below
        omega
  | succ start ih =>
      unfold shortestFrom
      split
      · next decimal found =>
          refine ⟨start + 1, Nat.le_refl _, List.mem_of_find?_eq_some found,
            List.find?_some found, ?_⟩
          intro more above below
          omega
      · next none =>
          obtain ⟨dropped, foundAt⟩ := ih
          refine ⟨dropped, Nat.le_succ_of_le foundAt.within, foundAt.among, foundAt.reads, ?_⟩
          intro more above below
          rcases Nat.lt_or_eq_of_le below with less | rfl
          · exact foundAt.first more above (Nat.le_of_lt_succ less)
          · intro decimal member
            exact Bool.eq_false_iff.mpr (List.find?_eq_none.mp none decimal member)

/-- The exact decimal has no exponent above zero, and as many units as the magnitude. -/
theorem exactDecimal_units : ∃ places : Nat, magnitude.exactDecimal.exponent = -(places : Int) ∧
    magnitude.exactDecimal.digits * unitsPerOne = magnitude.units * Nat.pow 10 places := by
  by_cases large : 1074 ≤ magnitude.exponent
  · obtain ⟨high, sum⟩ := Nat.exists_eq_add_of_le' large
    refine ⟨0, ?_, ?_⟩
    · simp [exactDecimal, large]
    · unfold exactDecimal
      rw [if_pos large, show magnitude.exponent - 1074 = high by omega]
      exact (units_of_large magnitude sum).trans (Nat.mul_one _).symm
  · obtain ⟨places, sum⟩ : ∃ places, magnitude.exponent + places = 1074 :=
      ⟨1074 - magnitude.exponent, by omega⟩
    refine ⟨places, ?_, ?_⟩
    · unfold exactDecimal
      rw [if_neg large]
      dsimp only
      omega
    · unfold exactDecimal
      rw [if_neg large, show 1074 - magnitude.exponent = places by omega]
      exact units_of_small magnitude sum

theorem isReadFrom_exactDecimal (nonzero : magnitude.exactDecimal.digits ≠ 0) :
    magnitude.isReadFrom magnitude.exactDecimal = true :=
  beq_iff_eq.mpr (ofDecimal_exactDecimal magnitude nonzero false)

theorem isReadFrom_shortened {digits : Nat} (nonzero : digits ≠ 0) (exponent : Int) :
    magnitude.isReadFrom ⟨10 * digits, exponent⟩ = magnitude.isReadFrom ⟨digits, exponent + 1⟩ := by
  unfold isReadFrom
  rw [Binary64.ofDecimal_shortened nonzero]

/-- The last of eighteen digits is worth less than half a place of a significand. -/
theorem two_mul_excess_lt {digits excess scale one significand place : Nat}
    (many : scale * Nat.pow 10 17 ≤ digits) (bounded : excess ≤ scale)
    (exact : digits * one = significand * place) (below : significand < Nat.pow 2 53)
    (positive : 0 < place) : 2 * (excess * one) < place := by
  have scaled : Nat.pow 2 53 * (2 * (excess * one)) < Nat.pow 2 53 * place := by
    calc
      Nat.pow 2 53 * (2 * (excess * one)) = Nat.pow 2 54 * (excess * one) := by
        rw [← Nat.mul_assoc]
      _ ≤ Nat.pow 10 17 * (scale * one) :=
        Nat.mul_le_mul (by decide) (Nat.mul_le_mul_right one bounded)
      _ = scale * Nat.pow 10 17 * one := by
        rw [Nat.mul_left_comm, Nat.mul_assoc]
      _ ≤ digits * one := Nat.mul_le_mul_right one many
      _ = significand * place := exact
      _ < Nat.pow 2 53 * place := Nat.mul_lt_mul_of_pos_right below positive
  exact Nat.lt_of_mul_lt_mul_left scaled

/-- With eighteen digits or more the neighbour above is read as the magnitude. -/
theorem isReadFrom_above {dropped : Nat}
    (many : Nat.pow 10 (dropped + 17) ≤ magnitude.exactDecimal.digits) :
    magnitude.isReadFrom ⟨magnitude.exactDecimal.digits / Nat.pow 10 dropped + 1,
      magnitude.exactDecimal.exponent + dropped⟩ = true := by
  obtain ⟨places, exponent, exact⟩ := exactDecimal_units magnitude
  have scale : 0 < Nat.pow 10 dropped := Nat.pow_pos (by decide)
  generalize magnitude.exactDecimal.digits = digits at many exact ⊢
  -- Dropping digits and going up by one adds no more than the unit of the last digit left.
  obtain ⟨excess, sum, bounded⟩ : ∃ excess,
      (digits / Nat.pow 10 dropped + 1) * Nat.pow 10 dropped = digits + excess ∧
        excess ≤ Nat.pow 10 dropped := by
    have parts := Nat.div_add_mod' digits (Nat.pow 10 dropped)
    refine ⟨Nat.pow 10 dropped - digits % Nat.pow 10 dropped, ?_, Nat.sub_le _ _⟩
    have rest := Nat.mod_lt digits scale
    rw [Nat.succ_mul]
    omega
  have split : Nat.pow 10 (dropped + 17) = Nat.pow 10 dropped * Nat.pow 10 17 :=
    Nat.pow_add 10 dropped 17
  rw [split] at many
  have near : 2 * (excess * unitsPerOne) < Nat.pow 2 magnitude.exponent * Nat.pow 10 places := by
    refine two_mul_excess_lt many bounded ?_ magnitude.fits.1 ?_
    · rw [exact, units, Nat.mul_assoc]
    · exact Nat.mul_pos (Nat.two_pow_pos _) (Nat.pow_pos (by decide))
  have rounded := ofQuotient_near magnitude near false
  rw [← exact, ← Nat.add_mul, ← sum] at rounded
  rw [exponent, show -(places : Int) + dropped = (dropped : Int) - places by omega]
  unfold isReadFrom
  rw [beq_iff_eq, Binary64.ofDecimal_scaled (Nat.succ_ne_zero _), rounded]

theorem shortest_of_exactDecimal (ties : TieRule) (none : magnitude.exactDecimal.digits = 0) :
    magnitude.shortest ties = ⟨0, 0⟩ :=
  if_pos none

theorem shortest_zero (ties : TieRule) : shortest .zero ties = ⟨0, 0⟩ := by
  have nothing : ∀ power, Magnitude.zero.significand * power = 0 := Nat.zero_mul
  refine shortest_of_exactDecimal _ ties ?_
  rw [exactDecimal, if_neg (by decide)]
  exact nothing _

theorem eq_zero_of_shortest {magnitude : Magnitude} {ties : TieRule}
    (none : (magnitude.shortest ties).positional.digits = 0) : magnitude = .zero := by
  have read := ofDecimal_shortest magnitude ties false
  rw [Binary64.ofDecimal_nothing none] at read
  exact (Binary64.finite.inj read).2.symm

/-- The shortest decimal of a number has a digit that is not zero, or it is the zero of one
digit. -/
theorem shortest_digits {ties : TieRule} (none : (magnitude.shortest ties).digits = 0) :
    magnitude.shortest ties = ⟨0, 0⟩ := by
  have nothing : (magnitude.shortest ties).positional.digits = 0 := by
    unfold Decimal.positional
    split
    · exact none
    · rw [none]
      exact Nat.zero_mul _
  rw [eq_zero_of_shortest nothing]
  exact shortest_zero ties

theorem lt_pow_length_toDigits (n : Nat) : n < Nat.pow 10 (Nat.toDigits 10 n).length :=
  (Nat.length_toDigits_le_iff (by decide) Nat.length_toDigits_pos).mp (Nat.le_refl _)

/-- The search starts where no digit is left. -/
theorem shortest_foundAt (ties : TieRule) (nonzero : magnitude.exactDecimal.digits ≠ 0) :
    ∃ start dropped, magnitude.exactDecimal.digits < Nat.pow 10 start ∧
      FoundAt magnitude ties magnitude.exactDecimal (magnitude.shortest ties) start dropped := by
  have same : magnitude.shortest ties = magnitude.shortestFrom ties magnitude.exactDecimal
      (Nat.toDigits 10 magnitude.exactDecimal.digits).length := if_neg nonzero
  obtain ⟨dropped, foundAt⟩ := shortestFrom_foundAt magnitude
    (isReadFrom_exactDecimal magnitude nonzero) _
  exact ⟨_, dropped, lt_pow_length_toDigits _, same ▸ foundAt⟩

theorem shortest_digits_le (ties : TieRule) : (magnitude.shortest ties).digits ≤ Nat.pow 10 18 := by
  by_cases zero : magnitude.exactDecimal.digits = 0
  · rw [shortest_of_exactDecimal magnitude ties zero]
    exact Nat.zero_le _
  · obtain ⟨start, dropped, below, foundAt⟩ := shortest_foundAt magnitude ties zero
    have bounded : magnitude.exactDecimal.digits / Nat.pow 10 dropped < Nat.pow 10 18 := by
      have split : Nat.pow 10 (18 + dropped) = Nat.pow 10 18 * Nat.pow 10 dropped :=
        Nat.pow_add 10 18 dropped
      refine (Nat.div_lt_iff_lt_mul (Nat.pow_pos (by decide))).mpr (split ▸ ?_)
      -- One digit more would have been dropped: the decimal above still reads back.
      refine Nat.lt_of_not_le fun many => ?_
      have above := @isReadFrom_above magnitude (dropped + 1)
        (by rwa [show dropped + 1 + 17 = 18 + dropped by omega])
      have room : dropped + 1 ≤ start := by
        have fewer := (Nat.pow_lt_pow_iff_right (by decide)).mp (Nat.lt_of_le_of_lt many below)
        omega
      have refused := foundAt.first (dropped + 1) (Nat.lt_succ_self _) room _
        (mem_neighbours_iff.mpr (.inr rfl))
      rw [above] at refused
      contradiction
    rcases mem_neighbours_iff.mp foundAt.among with same | same
    · rw [same]
      exact Nat.le_of_lt bounded
    · rw [same]
      exact bounded

/-- A neighbour that ends in a zero is one of fewer digits, too. -/
theorem mem_neighbours_shortened {ties : TieRule} {exact : Decimal} {shorter dropped : Nat}
    {exponent : Int} (among : ⟨10 * shorter, exponent⟩ ∈ neighbours ties exact dropped) :
    ⟨shorter, exponent + 1⟩ ∈ neighbours ties exact (dropped + 1) := by
  have split : Nat.pow 10 (dropped + 1) = Nat.pow 10 dropped * 10 := Nat.pow_succ 10 dropped
  have tenth : exact.digits / Nat.pow 10 (dropped + 1) =
      exact.digits / Nat.pow 10 dropped / 10 := by
    rw [split, Nat.div_div_eq_div_mul]
  rw [mem_neighbours_iff] at among ⊢
  simp only [Decimal.mk.injEq, tenth] at among ⊢
  omega

/-- The shortest decimal ends in a zero only if it is zero. -/
theorem shortest_digits_mod {ties : TieRule} (ends : (magnitude.shortest ties).digits % 10 = 0) :
    magnitude.shortest ties = ⟨0, 0⟩ := by
  by_cases zero : (magnitude.shortest ties).digits = 0
  · exact shortest_digits magnitude zero
  · have exact : magnitude.exactDecimal.digits ≠ 0 := fun none =>
      zero (congrArg Decimal.digits (shortest_of_exactDecimal magnitude ties none))
    obtain ⟨start, dropped, below, foundAt⟩ := shortest_foundAt magnitude ties exact
    generalize magnitude.shortest ties = decimal at ends zero foundAt
    obtain ⟨digits, exponent⟩ := decimal
    dsimp only at ends zero
    obtain ⟨shorter, rfl⟩ := Nat.dvd_of_mod_eq_zero ends
    have nonzero : shorter ≠ 0 := by omega
    have room : dropped < start := by
      refine Nat.lt_of_le_of_ne foundAt.within ?_
      rintro rfl
      have among := mem_neighbours_iff.mp foundAt.among
      rw [Nat.div_eq_of_lt below] at among
      simp only [Decimal.mk.injEq] at among
      omega
    have refused := foundAt.first (dropped + 1) (Nat.lt_succ_self _) room _
      (mem_neighbours_shortened foundAt.among)
    rw [← isReadFrom_shortened magnitude nonzero, foundAt.reads] at refused
    contradiction

end Magnitude

end Phrasebook
