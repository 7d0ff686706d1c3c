import Phrasebook.Text.Basic
import Phrasebook.Text.CaseMap

namespace Phrasebook.Text

/-! What the case maps leave alone.

The maps are tables of runs, so what holds of all characters is read off the runs.  A character that
was mapped is not mapped again, and characters of a class that no run touches, such as blanks, are
neither changed nor made.
-/

namespace CaseRun

def target (run : CaseRun) (point : Nat) : Nat :=
  Int.toNat (point + run.shift)

/-- All code points that the run moves to are those of characters. -/
def Lands (run : CaseRun) : Prop :=
  0 ≤ run.first + run.shift ∧
    (run.target run.last < 0xD800 ∨
      0xDFFF < run.target run.first ∧ run.target run.last < 0x110000)

instance (run : CaseRun) : Decidable run.Lands :=
  inferInstanceAs (Decidable (_ ∧ _))

/-- No character that the run moves to is covered by the other run: they are apart, or both leave
out every second character and stand between each other. -/
def passes (run other : CaseRun) : Bool :=
  Nat.blt (run.target run.last) other.first || Nat.blt other.last (run.target run.first) ||
    (Nat.beq run.step 2 || Nat.beq run.first run.last) && Nat.beq other.step 2 &&
      Nat.beq ((run.target run.first + other.first) % 2) 1

/-- The run moves no character of a range, and none into it. -/
def Misses (run : CaseRun) (range : Nat × Nat) : Prop :=
  (run.last < range.1 ∨ range.2 < run.first) ∧
    (run.target run.last < range.1 ∨ range.2 < run.target run.first)

instance (run : CaseRun) (range : Nat × Nat) : Decidable (run.Misses range) :=
  inferInstanceAs (Decidable (_ ∧ _))

variable {run other : CaseRun} {c : Char}

theorem covers_iff :
    run.covers c = true ↔
      run.first ≤ c.toNat ∧ c.toNat ≤ run.last ∧ (c.toNat - run.first) % run.step = 0 := by
  simp [covers, and_assoc]

theorem toNat_shifted (lands : run.Lands) (covers : run.covers c = true) :
    (run.shifted c).toNat = run.target c.toNat := by
  obtain ⟨lower, upper, _⟩ := covers_iff.mp covers
  obtain ⟨nonnegative, inside⟩ := lands
  have valid : (run.target c.toNat).isValidChar := by
    unfold target Nat.isValidChar at *
    omega
  change (Char.ofNat (run.target c.toNat)).toNat = run.target c.toNat
  rw [Char.ofNat, dif_pos valid]
  rfl

theorem covers_shifted (lands : run.Lands) (passes : run.passes other = true)
    (covers : run.covers c = true) : other.covers (run.shifted c) = false := by
  rw [Bool.eq_false_iff]
  intro again
  obtain ⟨lower, upper, steps⟩ := covers_iff.mp covers
  obtain ⟨lowerAgain, upperAgain, stepsAgain⟩ := covers_iff.mp again
  rw [toNat_shifted lands covers] at lowerAgain upperAgain stepsAgain
  obtain ⟨nonnegative, _⟩ := lands
  simp only [CaseRun.passes, Bool.or_eq_true, Bool.and_eq_true, Nat.blt_eq, Nat.beq_eq] at passes
  unfold target at *
  rcases passes with (below | above) | ⟨⟨everySecond | single, otherStep⟩, between⟩
  · omega
  · omega
  · rw [everySecond] at steps
    rw [otherStep] at stepsAgain
    omega
  · rw [otherStep] at stepsAgain
    omega

theorem inRanges_shifted {ranges : List (Nat × Nat)} (lands : run.Lands)
    (misses : ∀ range ∈ ranges, run.Misses range) (covers : run.covers c = true) :
    inRanges ranges (run.shifted c) = false ∧ inRanges ranges c = false := by
  obtain ⟨lower, upper, _⟩ := covers_iff.mp covers
  have landed := toNat_shifted lands covers
  obtain ⟨nonnegative, _⟩ := lands
  refine ⟨Bool.eq_false_iff.mpr fun inside => ?_, Bool.eq_false_iff.mpr fun inside => ?_⟩
  · obtain ⟨range, member, above, below⟩ := inRanges_iff.mp inside
    obtain ⟨_, outside⟩ := misses range member
    rw [landed] at above below
    unfold target at *
    omega
  · obtain ⟨range, member, above, below⟩ := inRanges_iff.mp inside
    obtain ⟨outside, _⟩ := misses range member
    omega

end CaseRun

variable {runs : List CaseRun} {ranges : List (Nat × Nat)}

theorem mapCase_cases (runs : List CaseRun) (c : Char) :
    mapCase runs c = c ∨
      ∃ run ∈ runs, run.covers c = true ∧ mapCase runs c = run.shifted c := by
  unfold mapCase
  cases found : runs.find? (·.covers c) with
  | none => exact .inl rfl
  | some run =>
      have covers : run.covers c = true := by simpa using List.find?_some found
      exact .inr ⟨run, List.mem_of_find?_eq_some found, covers, rfl⟩

theorem mapCase_mapCase (lands : ∀ run ∈ runs, run.Lands)
    (passes : (runs.all fun run => runs.all run.passes) = true) (c : Char) :
    mapCase runs (mapCase runs c) = mapCase runs c := by
  rcases mapCase_cases runs c with same | ⟨run, member, covers, shifted⟩
  · rw [same, same]
  · have uncovered : runs.find? (·.covers (run.shifted c)) = none := by
      refine List.find?_eq_none.mpr fun other isRun => Bool.not_eq_true _ ▸ ?_
      exact CaseRun.covers_shifted (lands run member)
        (List.all_eq_true.mp (List.all_eq_true.mp passes run member) other isRun) covers
    rw [shifted, mapCase, uncovered]

theorem inRanges_mapCase (lands : ∀ run ∈ runs, run.Lands)
    (misses : ∀ run ∈ runs, ∀ range ∈ ranges, run.Misses range) (c : Char) :
    inRanges ranges (mapCase runs c) = inRanges ranges c := by
  rcases mapCase_cases runs c with same | ⟨run, member, covers, shifted⟩
  · rw [same]
  · obtain ⟨outside, outsideBefore⟩ :=
      CaseRun.inRanges_shifted (lands run member) (misses run member) covers
    rw [shifted, outside, outsideBefore]

theorem lowerRuns_land : ∀ run ∈ lowerRuns, run.Lands := by
  decide +kernel

theorem upperRuns_land : ∀ run ∈ upperRuns, run.Lands := by
  decide +kernel

theorem lowerRuns_pass : (lowerRuns.all fun run => lowerRuns.all run.passes) = true := by
  decide +kernel

theorem upperRuns_pass : (upperRuns.all fun run => upperRuns.all run.passes) = true := by
  decide +kernel

/-- What is said of the characters of a list is decided along the list, and not for every character
there is. -/
instance (priority := 2000) decidableAlong (characters : List Char) (holds : Char → Prop)
    [DecidablePred holds] : Decidable (∀ c ∈ characters, holds c) :=
  List.decidableBAll holds characters

/-- The ranges of a few characters. -/
def points (characters : List Char) : List (Nat × Nat) :=
  characters.map fun c => (c.toNat, c.toNat)

theorem inRanges_points {characters : List Char} {c : Char} :
    inRanges (points characters) c = true ↔ c ∈ characters := by
  simp only [inRanges_iff, points, List.mem_map]
  constructor
  · rintro ⟨_, ⟨other, member, rfl⟩, lower, upper⟩
    rwa [← Char.toNat_inj.mp (Nat.le_antisymm lower upper)]
  · exact fun member => ⟨_, ⟨c, member, rfl⟩, Nat.le_refl _, Nat.le_refl _⟩

theorem mapCase_mem_iff {characters : List Char} (lands : ∀ run ∈ runs, run.Lands)
    (misses : ∀ run ∈ runs, ∀ range ∈ points characters, run.Misses range) (c : Char) :
    mapCase runs c ∈ characters ↔ c ∈ characters := by
  rw [← inRanges_points, ← inRanges_points, inRanges_mapCase lands misses]

/-- The characters that become several ones in upper case. -/
def expanding : List Char :=
  ['\u00DF', '\u0149', '\u01F0', '\u0390', '\u03B0', '\u0587']

/-- What the maps treat apart from their tables, and what they make of it. -/
def singular : List Char :=
  '\u0130' :: lowerAt [] '\u0130' [] ++ ['\u03A3', '\u03C2', '\u03C3'] ++ expanding ++
    expanding.flatMap upperOf

/-- A class of characters that neither map touches. -/
structure Caseless (ranges : List (Nat × Nat)) : Prop where
  lower : ∀ run ∈ lowerRuns, ∀ range ∈ ranges, run.Misses range
  upper : ∀ run ∈ upperRuns, ∀ range ∈ ranges, run.Misses range
  singular : ∀ c ∈ singular, inRanges ranges c = false

theorem caseless_blank : Caseless blankRanges where
  lower := by decide +kernel
  upper := by decide +kernel
  singular := by decide +kernel

/-- The characters belong to the same caseless classes. -/
def Alike (c d : Char) : Prop :=
  ∀ ranges, Caseless ranges → inRanges ranges d = inRanges ranges c

variable {before after : List Char} {c d : Char}

theorem Alike.isBlank (alike : Alike c d) : isBlank d = isBlank c :=
  alike _ caseless_blank

theorem alike_of_singular (member : c ∈ singular) (made : d ∈ singular) : Alike c d := by
  intro ranges caseless
  rw [caseless.singular c member, caseless.singular d made]

theorem lowerAt_cases (before : List Char) (c : Char) (after : List Char) :
    (c = '\u0130' ∧ lowerAt before c after = ['i', '\u0307']) ∨
      (c = '\u03A3' ∧ (lowerAt before c after = ['\u03C2'] ∨
        lowerAt before c after = ['\u03C3'])) ∨
      (c ≠ '\u0130' ∧ c ≠ '\u03A3' ∧ lowerAt before c after = [mapCase lowerRuns c]) := by
  unfold lowerAt
  by_cases dotted : c = '\u0130'
  · exact .inl ⟨dotted, if_pos dotted⟩
  · by_cases sigma : c = '\u03A3'
    · rw [if_neg dotted, if_pos sigma]
      refine .inr (.inl ⟨sigma, ?_⟩)
      split
      · exact .inl rfl
      · exact .inr rfl
    · rw [if_neg dotted, if_neg sigma]
      exact .inr (.inr ⟨dotted, sigma, rfl⟩)

theorem alike_of_lowerAt (member : d ∈ lowerAt before c after) : Alike c d := by
  rcases lowerAt_cases before c after with ⟨rfl, made⟩ | ⟨rfl, made⟩ | ⟨_, _, made⟩
  · have isSingular : ∀ d ∈ ['i', '\u0307'], d ∈ singular := by decide +kernel
    rw [made] at member
    exact alike_of_singular (by decide +kernel) (isSingular d member)
  · have isSingular : d ∈ singular := by
      rcases made with made | made
      all_goals
        rw [made, List.mem_singleton] at member
        rw [member]
        decide +kernel
    exact alike_of_singular (by decide +kernel) isSingular
  · rw [made, List.mem_singleton] at member
    rw [member]
    exact fun ranges caseless => inRanges_mapCase lowerRuns_land caseless.lower c

/-- What is in lower case stays, wherever it stands. -/
def IsLower (c : Char) : Prop :=
  ∀ before after, lowerAt before c after = [c]

theorem isLower_of_mapCase (notDotted : c ≠ '\u0130') (notSigma : c ≠ '\u03A3')
    (same : mapCase lowerRuns c = c) : IsLower c := by
  intro before after
  rw [lowerAt, if_neg notDotted, if_neg notSigma, same]

theorem isLower_of_lowerAt (member : d ∈ lowerAt before c after) : IsLower d := by
  rcases lowerAt_cases before c after with ⟨_, made⟩ | ⟨_, made⟩ | ⟨notDotted, notSigma, made⟩
  · rw [made] at member
    have lower : ∀ d ∈ ['i', '\u0307'],
        d ≠ '\u0130' ∧ d ≠ '\u03A3' ∧ mapCase lowerRuns d = d := by decide +kernel
    obtain ⟨notDotted, notSigma, same⟩ := lower d member
    exact isLower_of_mapCase notDotted notSigma same
  · rcases made with made | made
    all_goals
      rw [made, List.mem_singleton] at member
      rw [member]
      exact isLower_of_mapCase (by decide) (by decide) (by decide +kernel)
  · rw [made, List.mem_singleton] at member
    have same : mapCase lowerRuns d = d := by
      rw [member, mapCase_mapCase lowerRuns_land lowerRuns_pass]
    refine isLower_of_mapCase ?_ ?_ same
    · have missed := @mapCase_mem_iff _ ['\u0130'] lowerRuns_land (by decide +kernel) c
      simpa [← member, notDotted] using missed
    · rintro rfl
      exact absurd same (by decide +kernel)

theorem upperOf_of_notMem (plain : c ∉ expanding) : upperOf c = [mapCase upperRuns c] := by
  simp only [expanding, List.mem_cons, List.not_mem_nil, or_false, not_or] at plain
  simp [upperOf, plain]

theorem alike_of_upperOf (member : d ∈ upperOf c) : Alike c d := by
  by_cases expands : c ∈ expanding
  · have isSingular : ∀ c ∈ expanding, c ∈ singular ∧ ∀ d ∈ upperOf c, d ∈ singular := by
      decide +kernel
    obtain ⟨isSource, isMade⟩ := isSingular c expands
    exact alike_of_singular isSource (isMade d member)
  · rw [upperOf_of_notMem expands, List.mem_singleton] at member
    rw [member]
    exact fun ranges caseless => inRanges_mapCase upperRuns_land caseless.upper c

theorem upperOf_of_mem (member : d ∈ upperOf c) : upperOf d = [d] := by
  by_cases expands : c ∈ expanding
  · have settled : ∀ c ∈ expanding, ∀ d ∈ upperOf c, upperOf d = [d] := by decide +kernel
    exact settled c expands d member
  · rw [upperOf_of_notMem expands, List.mem_singleton] at member
    have missed := @mapCase_mem_iff _ expanding upperRuns_land (by decide +kernel) c
    rw [member, upperOf_of_notMem (mt missed.mp expands),
      mapCase_mapCase upperRuns_land upperRuns_pass]

/-- A text comes from another one by writing alike characters, one or more, for each. -/
inductive Recased : List Char → List Char → Prop where
  | nil : Recased [] []
  | cons {c d : Char} {cs pieces ds : List Char} (alike : ∀ piece ∈ d :: pieces, Alike c piece)
      (rest : Recased cs ds) : Recased (c :: cs) (d :: pieces ++ ds)

namespace Recased

variable {cs ds : List Char}

theorem refl (cs : List Char) : Recased cs cs := by
  induction cs with
  | nil => exact .nil
  | cons c cs ih =>
      have alike : ∀ d ∈ [c], Alike c d := by simp [Alike]
      exact .cons alike ih

theorem eq_nil_iff (recased : Recased cs ds) : ds = [] ↔ cs = [] := by
  cases recased <;> simp

theorem of_mem (recased : Recased cs ds) (member : d ∈ ds) : ∃ c ∈ cs, Alike c d := by
  induction recased with
  | nil => contradiction
  | cons alike rest ih =>
      rcases List.mem_append.mp member with here | later
      · exact ⟨_, List.mem_cons_self, alike d here⟩
      · obtain ⟨c, isSource, alike⟩ := ih later
        exact ⟨c, List.mem_cons_of_mem _ isSource, alike⟩

theorem heads (recased : Recased cs ds) : Option.Rel Alike cs.head? ds.head? := by
  cases recased with
  | nil => exact .none
  | cons alike rest => exact .some (alike _ List.mem_cons_self)

theorem lasts (recased : Recased cs ds) : Option.Rel Alike cs.getLast? ds.getLast? := by
  induction recased with
  | nil => exact .none
  | @cons c d cs pieces ds alike rest ih =>
      rw [List.getLast?_append]
      cases rest with
      | nil =>
          rw [List.getLast?_eq_some_getLast (List.cons_ne_nil d pieces)]
          exact .some (alike _ (List.getLast_mem _))
      | cons _ _ =>
          rw [List.getLast?_cons_cons]
          rw [List.cons_append, List.getLast?_eq_some_getLast (List.cons_ne_nil _ _)] at ih ⊢
          exact ih

end Recased

theorem recased_of_pieces {c : Char} {cs pieces ds : List Char} (nonempty : pieces ≠ [])
    (alike : ∀ piece ∈ pieces, Alike c piece) (rest : Recased cs ds) :
    Recased (c :: cs) (pieces ++ ds) := by
  obtain ⟨d, pieces, rfl⟩ := List.exists_cons_of_ne_nil nonempty
  exact .cons alike rest

theorem recased_lowerAfter (before cs : List Char) : Recased cs (lowerAfter before cs) := by
  induction cs generalizing before with
  | nil => exact .nil
  | cons c cs ih =>
      have nonempty : lowerAt before c cs ≠ [] := by
        rcases lowerAt_cases before c cs with ⟨_, made⟩ | ⟨_, made | made⟩ | ⟨_, _, made⟩ <;>
          simp [made]
      exact recased_of_pieces nonempty (fun _ => alike_of_lowerAt) (ih (c :: before))

theorem recased_upperOf (cs : List Char) : Recased cs (cs.flatMap upperOf) := by
  induction cs with
  | nil => exact .nil
  | cons c cs ih =>
      have nonempty : upperOf c ≠ [] := by
        by_cases expands : c ∈ expanding
        · have written : ∀ c ∈ expanding, upperOf c ≠ [] := by decide +kernel
          exact written c expands
        · simp [upperOf_of_notMem expands]
      exact recased_of_pieces nonempty (fun _ => alike_of_upperOf) ih

theorem isLower_of_lowerAfter {before cs : List Char} {d : Char}
    (member : d ∈ lowerAfter before cs) : IsLower d := by
  induction cs generalizing before with
  | nil => contradiction
  | cons c cs ih =>
      rcases List.mem_append.mp member with here | later
      · exact isLower_of_lowerAt here
      · exact ih later

theorem lowerAfter_of_isLower {before cs : List Char} (lower : ∀ c ∈ cs, IsLower c) :
    lowerAfter before cs = cs := by
  induction cs generalizing before with
  | nil => rfl
  | cons c cs ih =>
      obtain ⟨here, later⟩ := List.forall_mem_cons.mp lower
      rw [lowerAfter, here before cs, ih later, List.singleton_append]

theorem flatMap_upperOf_of_settled {cs : List Char} (settled : ∀ c ∈ cs, upperOf c = [c]) :
    cs.flatMap upperOf = cs := by
  induction cs with
  | nil => rfl
  | cons c cs ih =>
      obtain ⟨here, later⟩ := List.forall_mem_cons.mp settled
      rw [List.flatMap_cons, here, ih later, List.singleton_append]

theorem upperOf_of_flatMap {cs : List Char} {d : Char} (member : d ∈ cs.flatMap upperOf) :
    upperOf d = [d] := by
  obtain ⟨c, _, made⟩ := List.mem_flatMap.mp member
  exact upperOf_of_mem made

end Phrasebook.Text
