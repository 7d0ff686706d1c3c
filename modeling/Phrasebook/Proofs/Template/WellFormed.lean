import Mathlib.Data.List.Chain
import Phrasebook.Template.Parser

namespace Phrasebook

namespace Node

def isText : Node → Bool
  | .text _ => true
  | _ => false

/-- The name of an argument. -/
def name? : Node → Option String
  | .text _ => none
  | .argument name => some name
  | .number name => some name
  | .pound => none
  | .plural name _ _ _ => some name
  | .select name _ => some name

end Node

namespace Template

structure IsName (name : String) : Prop where
  nonempty : name ≠ ""
  plain : ∀ c ∈ name.toList,
    Text.isBlank c = false ∧ c ∉ ['\x7b', '\x7d', ',', '#', '\'']

theorem isNameChar_iff {c : Char} :
    isNameChar c = true ↔
      Text.isBlank c = false ∧ c ∉ ['\x7b', '\x7d', ',', '#', '\''] := by
  simp [isNameChar, and_assoc]

theorem isName_iff {name : String} :
    IsName name ↔ name ≠ "" ∧ name.toList.all isNameChar = true := by
  rw [List.all_eq_true]
  constructor
  · intro isName
    exact ⟨isName.nonempty, fun c member => isNameChar_iff.mpr (isName.plain c member)⟩
  · rintro ⟨nonempty, chars⟩
    exact ⟨nonempty, fun c member => isNameChar_iff.mp (chars c member)⟩

instance (name : String) : Decidable (IsName name) :=
  decidable_of_iff _ isName_iff.symm

/-- Each message of a template, with what it is the body of and how many options are around it. -/
inductive Message (template : List Node) : Context → Nat → List Node → Prop where
  | whole : Message template .top 0 template
  | pluralOption {context : Context} {around : Nat} {nodes body : List Node} {name : String}
      {kind : PluralKind} {offset : Binary64} {options : List (Selector × List Node)}
      {selector : Selector} (outer : Message template context around nodes)
      (argument : .plural name kind offset options ∈ nodes)
      (option : (selector, body) ∈ options) :
      Message template .pluralOption (around + 1) body
  | selectOption {context : Context} {around : Nat} {nodes body : List Node} {name : String}
      {options : List (String × List Node)} {key : String}
      (outer : Message template context around nodes)
      (argument : .select name options ∈ nodes) (option : (key, body) ∈ options) :
      Message template .selectOption (around + 1) body

/-- No two options are for the same, and one is for all other cases. -/
structure Decisive {κ : Type} (style : OptionStyle κ) (options : List (κ × List Node)) :
    Prop where
  distinct : options.Pairwise fun left right => style.same left.1 right.1 = false
  other : ∃ option ∈ options, style.isOther option.1 = true

/-- No text follows another one. -/
def TextsApart (nodes : List Node) : Prop :=
  nodes.IsChain fun left right => left.isText = true → right.isText = false

structure WellFormedAt (context : Context) (around : Nat) (nodes : List Node) : Prop where
  texts : ∀ text, .text text ∈ nodes → text ≠ ""
  apart : TextsApart nodes
  names : ∀ node ∈ nodes, ∀ name, node.name? = some name → IsName name
  shallow : ∀ node ∈ nodes, node.name?.isSome → around ≤ 31
  pounds : .pound ∈ nodes → context = .pluralOption
  plurals : ∀ name kind offset options, .plural name kind offset options ∈ nodes →
    Decisive pluralStyle options
  selects : ∀ name options, .select name options ∈ nodes →
    Decisive selectStyle options ∧
      ∀ option ∈ options, IsName option.1 ∧ option.1.toList.head? ≠ some '='

def WellFormed (template : List Node) : Prop :=
  ∀ {context around nodes}, Message template context around nodes →
    WellFormedAt context around nodes

/-- What a message has if the bodies of its options have it, all messages have: they get no
deeper than arguments may stand. -/
theorem WellFormed.inward {template : List Node} (wellFormed : WellFormed template)
    {motive : ∀ context around nodes, Message template context around nodes → Prop}
    (step : ∀ {context around nodes} (message : Message template context around nodes),
      (∀ name kind offset options (argument : .plural name kind offset options ∈ nodes)
        (option) (among : option ∈ options),
        motive .pluralOption (around + 1) option.2 (.pluralOption message argument among)) →
      (∀ name options (argument : .select name options ∈ nodes)
        (option) (among : option ∈ options),
        motive .selectOption (around + 1) option.2 (.selectOption message argument among)) →
      motive context around nodes message)
    {context : Context} {around : Nat} {nodes : List Node}
    (message : Message template context around nodes) : motive context around nodes message := by
  -- The induction is on the levels that are left: with none left, a message has no arguments.
  have upTo : ∀ levels {context around nodes} (message : Message template context around nodes),
      31 < around + levels → motive context around nodes message := by
    intro levels
    induction levels with
    | zero =>
        intro context around nodes message deep
        have shallow := (wellFormed message).shallow
        refine step message (fun name kind offset options argument => ?_)
          (fun name options argument => ?_)
        · have := shallow _ argument rfl
          omega
        · have := shallow _ argument rfl
          omega
    | succ levels ih =>
        intro context around nodes message deep
        refine step message (fun name kind offset options argument option among => ?_)
          (fun name options argument option among => ?_)
        · exact ih (.pluralOption message argument among) (by omega)
        · exact ih (.selectOption message argument among) (by omega)
  exact upTo 32 message (by omega)

end Template

end Phrasebook
