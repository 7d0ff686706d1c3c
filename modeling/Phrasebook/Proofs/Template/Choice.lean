import Phrasebook.Proofs.Number.Equality
import Phrasebook.Proofs.Template.Parsing

namespace Phrasebook

namespace Selector

/-- The selector is for this number and for all that equal it. -/
def isExactly (number : Binary64) : Selector → Bool
  | .exact wanted => wanted.equals number
  | .category _ => false

def keyword? : Selector → Option String
  | .exact _ => none
  | .category name => some name.keyword

theorem same_of_isExactly {left right : Selector} {number : Binary64}
    (leftExactly : left.isExactly number = true) (rightExactly : right.isExactly number = true) :
    left.same right = true := by
  cases left with
  | category name => contradiction
  | exact left =>
      cases right with
      | category name => contradiction
      | exact right => exact Binary64.equals_of_equals leftExactly rightExactly

theorem eq_of_keyword? {selector : Selector} {category : PluralCategory}
    (named : selector.keyword? = some category.keyword) : selector = .category category := by
  cases selector with
  | exact number => contradiction
  | category name =>
      revert named
      cases name <;> cases category <;> decide

theorem same_of_keyword? {left right : Selector} {word : String}
    (leftNamed : left.keyword? = some word) (rightNamed : right.keyword? = some word) :
    left.same right = true := by
  cases left with
  | exact number => contradiction
  | category name =>
      rw [eq_of_keyword? (rightNamed.trans leftNamed.symm)]
      simp [same]

end Selector

namespace Template

theorem Decisive.countP_le_one {κ : Type} {style : OptionStyle κ}
    {options : List (κ × List Node)} (decisive : Decisive style options) (chosen : κ → Bool)
    (clash : ∀ left right, chosen left = true → chosen right = true →
      style.same left right = true) :
    options.countP (fun option => chosen option.1) ≤ 1 := by
  have distinct := decisive.distinct
  clear decisive
  induction options with
  | nil => simp
  | cons option options ih =>
      obtain ⟨apart, distinct⟩ := List.pairwise_cons.mp distinct
      rw [List.countP_cons]
      split
      · next isChosen =>
          have none : options.countP (fun option => chosen option.1) = 0 := by
            refine List.countP_eq_zero.mpr fun other member alsoChosen => ?_
            have same := clash _ _ isChosen alsoChosen
            rw [apart other member] at same
            contradiction
          omega
      · exact ih distinct

/-- Which option of a plural argument is meant. -/
structure PluralChoice (options : List (Selector × List Node)) : Prop where
  other : options.countP (fun option => option.1.keyword? == some "other") = 1
  numbers : ∀ number, options.countP (fun option => option.1.isExactly number) ≤ 1
  words : ∀ word, options.countP (fun option => option.1.keyword? == some word) ≤ 1
  categories : ∀ option ∈ options, ∀ word, option.1.keyword? = some word →
    word ∈ ["zero", "one", "two", "few", "many", "other"]

/-- Which option of a select argument is meant. -/
structure SelectChoice (options : List (String × List Node)) : Prop where
  other : options.countP (fun option => option.1 == "other") = 1
  words : ∀ word, options.countP (fun option => option.1 == word) ≤ 1
  plain : ∀ option ∈ options, option.1.toList.head? ≠ some '='

theorem Decisive.pluralChoice {options : List (Selector × List Node)}
    (decisive : Decisive pluralStyle options) : PluralChoice options := by
  have words : ∀ word, options.countP (fun option => option.1.keyword? == some word) ≤ 1 := by
    intro word
    refine decisive.countP_le_one (·.keyword? == some word) fun left right => ?_
    rw [beq_iff_eq, beq_iff_eq]
    exact Selector.same_of_keyword?
  constructor
  case other =>
    obtain ⟨option, member, isOther⟩ := decisive.other
    have named : option.1 = .category .other := eq_of_beq isOther
    have some : 0 < options.countP (fun option => option.1.keyword? == some "other") :=
      List.countP_pos_iff.mpr ⟨option, member, by rw [named]; rfl⟩
    have := words "other"
    omega
  case numbers =>
    exact fun number => decisive.countP_le_one (Selector.isExactly number) fun left right =>
      Selector.same_of_isExactly
  case words => exact words
  case categories =>
    intro option member word named
    cases selector : option.1 with
    | exact number =>
        rw [selector] at named
        contradiction
    | category name =>
        rw [selector] at named
        cases named
        cases name <;> decide

theorem Decisive.selectChoice {options : List (String × List Node)}
    (decisive : Decisive selectStyle options)
    (plain : ∀ option ∈ options, option.1.toList.head? ≠ some '=') : SelectChoice options := by
  have words : ∀ word, options.countP (fun option => option.1 == word) ≤ 1 := by
    intro word
    refine decisive.countP_le_one (· == word) fun left right => ?_
    rw [beq_iff_eq, beq_iff_eq]
    intro leftWord rightWord
    exact beq_iff_eq.mpr (leftWord.trans rightWord.symm)
  constructor
  case other =>
    obtain ⟨option, member, isOther⟩ := decisive.other
    have some : 0 < options.countP (fun option => option.1 == "other") :=
      List.countP_pos_iff.mpr ⟨option, member, isOther⟩
    have := words "other"
    omega
  case words => exact words
  case plain => exact plain

/-- Whatever is read as a template is well formed at all levels, and each number and each word has
one option at most. -/
theorem parse_wellFormed {source : String} {template : List Node}
    (read : parse source = .ok template) {context : Context} {around : Nat} {nodes : List Node}
    (message : Message template context around nodes) :
    WellFormedAt context around nodes ∧
      (∀ name kind offset options, .plural name kind offset options ∈ nodes →
        PluralChoice options) ∧
      (∀ name options, .select name options ∈ nodes → SelectChoice options) := by
  have wellFormed := wellFormed_of_parse read message
  refine ⟨wellFormed, fun name kind offset options member => ?_, fun name options member => ?_⟩
  · exact (wellFormed.plurals name kind offset options member).pluralChoice
  · obtain ⟨decisive, keys⟩ := wellFormed.selects name options member
    exact decisive.selectChoice fun option among => (keys option among).2

/-- A template with all three kinds of messages. -/
def guestsSource : String :=
  "\x7bn, plural, one \x7b# guest\x7d other \x7b# of " ++
    "\x7bhost, select, ann \x7bhers\x7d other \x7b'#'s\x7d\x7d\x7d\x7d"

def hostOptions : List (String × List Node) :=
  [("ann", [.text "hers"]), ("other", [.text "'#'s"])]

def manyGuests : List Node :=
  [.pound, .text " of ", .select "host" hostOptions]

def guests : List Node :=
  [.plural "n" .cardinal .zero
    [(.category .one, [.pound, .text " guest"]), (.category .other, manyGuests)]]

theorem parse_guestsSource : parse guestsSource = .ok guests := by
  rfl

theorem parse_wellFormed_guests :
    parse guestsSource = .ok guests ∧ Message guests .pluralOption 1 manyGuests ∧
      WellFormedAt .pluralOption 1 manyGuests ∧ SelectChoice hostOptions := by
  have message : Message guests .pluralOption 1 manyGuests :=
    .pluralOption .whole (List.mem_singleton.mpr rfl)
      (List.mem_cons_of_mem _ (List.mem_singleton.mpr rfl))
  obtain ⟨wellFormed, _, selects⟩ := parse_wellFormed parse_guestsSource message
  exact ⟨parse_guestsSource, message, wellFormed, selects "host" hostOptions (by simp [manyGuests])⟩

end Template

end Phrasebook
