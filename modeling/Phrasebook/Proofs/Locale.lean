import Mathlib.Data.List.TakeWhile
import Phrasebook.Locale
import Phrasebook.Proofs.Text.Casing
import Phrasebook.Proofs.Text.Trimming

namespace Phrasebook.Locale

open Text

variable {cs ds base region rest : List Char} {separator : Char} {locale : String}

def Unseparated (cs : List Char) : Prop :=
  ∀ c ∈ cs, isSeparator c = false

theorem cut_of_unseparated (free : Unseparated cs) : cut cs = (cs, none) := by
  have goesOn : ∀ c ∈ cs, (!isSeparator c) = true := fun c member => by rw [free c member]; rfl
  rw [cut, List.takeWhile_eq_self_iff.mpr goesOn, List.dropWhile_eq_nil_iff.mpr goesOn]

theorem cut_append (free : Unseparated base) (ends : isSeparator separator = true)
    (rest : List Char) : cut (base ++ separator :: rest) = (base, some rest) := by
  have goesOn : ∀ c ∈ base, (!isSeparator c) = true := fun c member => by rw [free c member]; rfl
  simp [cut, List.takeWhile_append_of_pos goesOn, List.dropWhile_append_of_pos goesOn, ends]

theorem cut_cases (cs : List Char) :
    Unseparated cs ∨ ∃ base separator rest, cs = base ++ separator :: rest ∧ Unseparated base ∧
      isSeparator separator = true := by
  induction cs with
  | nil => exact .inl nofun
  | cons c cs ih =>
      cases ends : isSeparator c with
      | true => exact .inr ⟨[], c, cs, rfl, nofun, ends⟩
      | false =>
          rcases ih with free | ⟨base, separator, rest, rfl, free, isEnd⟩
          · exact .inl (List.forall_mem_cons.mpr ⟨ends, free⟩)
          · exact .inr ⟨c :: base, separator, rest, rfl, List.forall_mem_cons.mpr ⟨ends, free⟩,
              isEnd⟩

theorem isSeparator_eq (c : Char) : isSeparator c = inRanges (points ['-', '_']) c := by
  rw [Bool.eq_iff_iff, inRanges_points]
  simp [isSeparator]

theorem caseless_separator : Caseless (points ['-', '_']) where
  lower := by decide +kernel
  upper := by decide +kernel
  singular := by decide +kernel

theorem isBlank_of_isSeparator (ends : isSeparator separator = true) :
    isBlank separator = false := by
  have solid : ∀ c ∈ ['-', '_'], isBlank c = false := by decide
  rw [isSeparator_eq, inRanges_points] at ends
  exact solid separator ends

theorem unseparated_of_recased (recased : Recased cs ds) (free : Unseparated cs) :
    Unseparated ds := by
  intro d member
  obtain ⟨c, isSource, alike⟩ := recased.of_mem member
  rw [isSeparator_eq, alike _ caseless_separator, ← isSeparator_eq, free c isSource]

theorem solid_iff {first second : Option Char} (alike : Option.Rel Alike first second) :
    (∀ c, second = some c → isBlank c = false) ↔ ∀ c, first = some c → isBlank c = false := by
  cases alike with
  | none => exact Iff.rfl
  | some alike => simp [alike.isBlank]

theorem trimmed_iff_of_recased (recased : Recased cs ds) : Trimmed ds ↔ Trimmed cs := by
  have heads := solid_iff recased.heads
  have lasts := solid_iff recased.lasts
  exact ⟨fun trimmed => ⟨heads.mp trimmed.head, lasts.mp trimmed.last⟩,
    fun trimmed => ⟨heads.mpr trimmed.head, lasts.mpr trimmed.last⟩⟩

def regionOf (region : List Char) : List Char :=
  (normalizeRegion (String.ofList region)).toList

theorem regionOf_cases (region : List Char) :
    regionOf region = region ∨ regionOf region = region.flatMap upperOf := by
  unfold regionOf normalizeRegion
  split
  · exact .inr (by simp [toUpper])
  · exact .inl (by simp)

theorem regionOf_regionOf (region : List Char) : regionOf (regionOf region) = regionOf region := by
  rcases regionOf_cases region with same | upper
  · rw [same, same]
  · have settled : ∀ c ∈ regionOf region, upperOf c = [c] := fun c member =>
      upperOf_of_flatMap (upper ▸ member)
    rcases regionOf_cases (regionOf region) with same | again
    · exact same
    · rw [again, flatMap_upperOf_of_settled settled]

theorem recased_regionOf (region : List Char) : Recased region (regionOf region) := by
  rcases regionOf_cases region with same | upper
  · rw [same]
    exact .refl region
  · rw [upper]
    exact recased_upperOf region

/-- The normal form of all that follows the base. -/
def regionForm (region : List Char) : List Char :=
  match cut region with
  | (first, none) => regionOf first
  | (first, some rest) => regionOf first ++ '-' :: rest

theorem regionForm_of_unseparated (free : Unseparated region) :
    regionForm region = regionOf region := by
  rw [regionForm, cut_of_unseparated free]

theorem regionForm_append (free : Unseparated base) (ends : isSeparator separator = true)
    (rest : List Char) : regionForm (base ++ separator :: rest) = regionOf base ++ '-' :: rest := by
  rw [regionForm, cut_append free ends]

theorem regionForm_regionForm (region : List Char) :
    regionForm (regionForm region) = regionForm region := by
  have free {first : List Char} : Unseparated first → Unseparated (regionOf first) :=
    unseparated_of_recased (recased_regionOf first)
  rcases cut_cases region with whole | ⟨first, separator, rest, rfl, whole, ends⟩
  · rw [regionForm_of_unseparated whole, regionForm_of_unseparated (free whole), regionOf_regionOf]
  · rw [regionForm_append whole ends, regionForm_append (free whole) rfl, regionOf_regionOf]

theorem regionForm_ne_nil (nonempty : region ≠ []) : regionForm region ≠ [] := by
  rcases cut_cases region with whole | ⟨first, separator, rest, rfl, whole, ends⟩
  · rw [regionForm_of_unseparated whole]
    exact mt (recased_regionOf region).eq_nil_iff.mp nonempty
  · rw [regionForm_append whole ends]
    simp

/-- The separators of a normal form are no blanks. -/
theorem solid_hyphen_append {before : List Char}
    (solid : ∀ c, rest.getLast? = some c → isBlank c = false) :
    ∀ c, (before ++ '-' :: rest).getLast? = some c → isBlank c = false := by
  intro c last
  rw [List.getLast?_append, List.getLast?_cons] at last
  cases found : rest.getLast? with
  | none =>
      rw [found] at last
      cases last
      decide
  | some d =>
      rw [found] at last
      cases last
      exact solid d found

theorem solid_of_append {before : List Char}
    (solid : ∀ c, (before ++ separator :: rest).getLast? = some c → isBlank c = false) :
    ∀ c, rest.getLast? = some c → isBlank c = false := by
  intro c last
  refine solid c ?_
  rw [List.getLast?_append, List.getLast?_cons, last]
  rfl

theorem solid_regionForm (solid : ∀ c, region.getLast? = some c → isBlank c = false) :
    ∀ c, (regionForm region).getLast? = some c → isBlank c = false := by
  rcases cut_cases region with whole | ⟨first, separator, rest, rfl, whole, ends⟩
  · rw [regionForm_of_unseparated whole]
    exact (solid_iff (recased_regionOf region).lasts).mpr solid
  · rw [regionForm_append whole ends]
    exact solid_hyphen_append (solid_of_append solid)

theorem normalize_language (free : Unseparated base)
    (text : (trim locale).toList = base ∨
      ∃ separator, isSeparator separator = true ∧ (trim locale).toList = base ++ [separator]) :
    (normalize locale).toList = lowerAfter [] base := by
  have isSplit : split (trim locale) = (String.ofList base, none) := by
    unfold split
    rcases text with text | ⟨separator, ends, text⟩
    · rw [text, cut_of_unseparated free]
    · rw [text, cut_append free ends]
  simp only [normalize, isSplit, toLower, String.toList_ofList]

theorem normalize_region (free : Unseparated base) (ends : isSeparator separator = true)
    (nonempty : region ≠ []) (text : (trim locale).toList = base ++ separator :: region) :
    (normalize locale).toList = lowerAfter [] base ++ '-' :: regionForm region := by
  have isSplit : split (trim locale) = (String.ofList base, some (String.ofList region)) := by
    obtain ⟨c, rest, rfl⟩ := List.exists_cons_of_ne_nil nonempty
    rw [split, text, cut_append free ends]
  simp only [normalize, isSplit, String.toList_ofList, regionForm, regionOf]
  rcases cut region with ⟨first, _ | rest⟩ <;> simp [toLower, toString]

/-- What a text is besides its normal form. -/
inductive Spelled (locale : String) : Prop where
  | language {base : List Char} (text : (trim locale).toList = base) (free : Unseparated base)
  /-- Nothing follows the separator. -/
  | dangling {base : List Char} {separator : Char}
      (text : (trim locale).toList = base ++ [separator]) (free : Unseparated base)
      (ends : isSeparator separator = true)
  | region {base region : List Char} {separator : Char}
      (text : (trim locale).toList = base ++ separator :: region) (free : Unseparated base)
      (ends : isSeparator separator = true) (nonempty : region ≠ [])

theorem spelled (locale : String) : Spelled locale := by
  rcases cut_cases (trim locale).toList with free | ⟨base, separator, region, text, free, ends⟩
  · exact .language rfl free
  · by_cases empty : region = []
    · subst empty
      exact .dangling text free ends
    · exact .region text free ends empty

theorem trimmed_region (text : (trim locale).toList = base ++ separator :: region) :
    Trimmed (lowerAfter [] base ++ '-' :: regionForm region) := by
  have trimmed := text ▸ trimmed_trim locale
  refine ⟨fun c head => ?_, solid_hyphen_append (solid_regionForm (solid_of_append trimmed.last))⟩
  cases base with
  | nil =>
      cases head
      decide
  | cons first base =>
      have heads := (recased_lowerAfter [] (first :: base)).heads
      have solid := (solid_iff heads).mpr fun c isFirst => trimmed.head c (by cases isFirst; rfl)
      rw [List.head?_append] at head
      cases found : (lowerAfter [] (first :: base)).head? with
      | none =>
          rw [found] at heads
          cases heads
      | some d =>
          rw [found] at head
          cases head
          exact solid c found

/-- Normalizing twice is normalizing once and then trimming. -/
theorem normalize_normalize_eq (locale : String) :
    normalize (normalize locale) = trim (normalize locale) := by
  have ofBase {base : List Char} (free : Unseparated base)
      (form : (normalize locale).toList = lowerAfter [] base) :
      normalize (normalize locale) = trim (normalize locale) := by
    have kept : ∀ c ∈ (trim (normalize locale)).toList, c ∈ lowerAfter [] base := fun c member =>
      form ▸ mem_of_mem_trim member
    have freeForm := unseparated_of_recased (recased_lowerAfter [] base) free
    have again := normalize_language (fun c member => freeForm c (kept c member)) (.inl rfl)
    rw [← String.toList_inj, again]
    exact lowerAfter_of_isLower fun c member => isLower_of_lowerAfter (kept c member)
  cases spelled locale with
  | language text free => exact ofBase free (normalize_language free (.inl text))
  | dangling text free ends =>
      exact ofBase free (normalize_language free (.inr ⟨_, ends, text⟩))
  | @region base region separator text free ends nonempty =>
      have form := normalize_region free ends nonempty text
      have trimmed : trim (normalize locale) = normalize locale :=
        trim_of_trimmed (form ▸ trimmed_region text)
      have freeForm := unseparated_of_recased (recased_lowerAfter [] base) free
      have again := normalize_region freeForm rfl (regionForm_ne_nil nonempty) (trimmed ▸ form)
      rw [trimmed, ← String.toList_inj, again, form, regionForm_regionForm,
        lowerAfter_of_isLower fun c member => isLower_of_lowerAfter member]

/-- But for blanks around it, the locale is a language with a blank at its end and a separator with
nothing behind it. -/
def EndsLoose (locale : String) : Prop :=
  ∃ language blank separator, (trim locale).toList = language ++ [blank, separator] ∧
    Unseparated language ∧ isBlank blank = true ∧ isSeparator separator = true

theorem EndsLoose.cut (loose : EndsLoose locale) :
    ∃ language blank, isBlank blank = true ∧
      cut (trim locale).toList = (language ++ [blank], some []) := by
  obtain ⟨language, blank, separator, text, free, isBlank, ends⟩ := loose
  have freeBase : Unseparated (language ++ [blank]) := by
    intro c member
    rcases List.mem_append.mp member with before | last
    · exact free c before
    · rw [List.mem_singleton.mp last, Bool.eq_false_iff]
      intro ends
      rw [isBlank_of_isSeparator ends] at isBlank
      contradiction
  refine ⟨language, blank, isBlank, ?_⟩
  rw [text, ← cut_append freeBase ends, List.append_assoc]
  rfl

theorem trim_normalize_iff (locale : String) :
    trim (normalize locale) = normalize locale ↔ ¬ EndsLoose locale := by
  have trimmed := trimmed_trim locale
  rw [trim_eq_self_iff]
  cases spelled locale with
  | language text free =>
      rw [normalize_language free (.inl text), trimmed_iff_of_recased (recased_lowerAfter [] _)]
      refine iff_of_true (text ▸ trimmed) fun loose => ?_
      obtain ⟨_, _, _, isCut⟩ := loose.cut
      rw [text, cut_of_unseparated free] at isCut
      cases isCut
  | @dangling base separator text free ends =>
      rw [normalize_language free (.inr ⟨_, ends, text⟩),
        trimmed_iff_of_recased (recased_lowerAfter [] _)]
      constructor
      · intro trimmedBase loose
        obtain ⟨language, blank, isBlank, isCut⟩ := loose.cut
        rw [text, cut_append free ends] at isCut
        cases isCut
        exact Bool.false_ne_true ((trimmedBase.last blank (by simp)).symm.trans isBlank)
      · refine fun notLoose => ⟨fun c head => trimmed.head c ?_, fun c last => ?_⟩
        · rw [text, List.head?_append, head, Option.some_or]
        · obtain ⟨language, rfl⟩ := List.getLast?_eq_some_iff.mp last
          rw [Bool.eq_false_iff]
          intro isBlank
          refine notLoose ⟨language, c, separator, ?_, fun d member => ?_, isBlank, ends⟩
          · rw [text, List.append_assoc]
            rfl
          · exact free d (List.mem_append_left _ member)
  | region text free ends nonempty =>
      rw [normalize_region free ends nonempty text]
      refine iff_of_true (trimmed_region text) fun loose => ?_
      obtain ⟨_, _, _, isCut⟩ := loose.cut
      rw [text, cut_append free ends] at isCut
      cases isCut
      exact nonempty rfl

/-- Normalizing once more trims at most: it changes the normal form exactly of a locale that ends
loose, and nothing changes after that. -/
theorem normalize_settles (locale : String) :
    normalize (normalize locale) = trim (normalize locale) ∧
      (normalize (normalize locale) = normalize locale ↔ ¬ EndsLoose locale) ∧
      normalize (normalize (normalize locale)) = normalize (normalize locale) := by
  have once := normalize_normalize_eq locale
  have twice := normalize_normalize_eq (normalize locale)
  refine ⟨once, ?_, ?_⟩
  · rw [once]
    exact trim_normalize_iff locale
  · rw [twice, once, trim_trim]

/-- The blank in front of the separator is left by the first time, and goes with the second one. -/
theorem normalize_dangling :
    normalize "tr -" = "tr " ∧ normalize (normalize "tr -") = "tr" ∧
      ¬ ∀ locale, normalize (normalize locale) = normalize locale := by
  have first : normalize "tr -" = "tr " := by decide +kernel
  have second : normalize "tr " = "tr" := by decide +kernel
  refine ⟨first, by rw [first, second], fun settled => ?_⟩
  have same := settled "tr -"
  rw [first, second] at same
  exact absurd same (by decide)

end Phrasebook.Locale
