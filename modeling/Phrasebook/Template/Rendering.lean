import Phrasebook.Params
import Phrasebook.Template.Parser

namespace Phrasebook

/-! Rendering templates with values.

A node is turned into a function of the number that a pound sign stands for.  The functions of all
options of an argument are formed, and only that of the chosen option is called.
-/

structure CompiledTemplate where
  nodes : List Node
  cardinal : CardinalRule
  ordinal : OrdinalRule

namespace CompiledTemplate

def compile (template locale : String) : Except TemplateFault CompiledTemplate := do
  return ⟨← Template.parse template, .ofLocale locale, .ofLocale locale⟩

/-- The text of some nodes, given the number of the plural argument around them. -/
abbrev Rendering := Option Binary64 → Except RenderFault String

def categorize (template : CompiledTemplate) (kind : PluralKind) (number : Binary64) :
    PluralCategory :=
  match kind with
  | .cardinal => template.cardinal.categorize number
  | .ordinal => template.ordinal.categorize number

def firstOption? {κ α : Type} (condition : κ → Bool) (options : List (κ × α)) : Option α :=
  (options.find? (condition ·.1)).map Prod.snd

/-- The option of a number: one that matches it exactly, one of its category, or the one for all
other cases. -/
def choosePlural {α : Type} (number : Binary64) (category : PluralCategory)
    (options : List (Selector × α)) : Option α :=
  let exact := firstOption? (fun selector =>
    match selector with
    | .exact wanted => wanted.equals number
    | .category _ => false) options
  exact <|> firstOption? (· == .category category) options
    <|> firstOption? (· == .category .other) options

def chooseSelect {α : Type} (key : String) (options : List (String × α)) : Option α :=
  firstOption? (· == key) options <|> firstOption? (· == "other") options

mutual

def renderNode (template : CompiledTemplate) (params : Params) : Node → Rendering
  | .text text, _ => .ok text
  | .argument name, _ =>
      match params.get? name with
      | some value => .ok value.displayText
      | none => .error (.unbound name)
  | .number name, _ =>
      match params.number? name with
      | some number => .ok (String.ofList number.displayText)
      | none => .error (.notANumber name)
  | .pound, some number => .ok (String.ofList number.displayText)
  | .pound, none => .ok ""
  | .plural name kind offset options, _ =>
      match params.number? name with
      | none => .error (.pluralNotANumber name)
      | some number =>
          let shifted := number.sub offset
          match choosePlural number (template.categorize kind shifted)
              (pluralRenderings template params options) with
          | some rendering => rendering (some shifted)
          | none => .error (.noOption name)
  | .select name options, pound =>
      let key := ((params.get? name).map Json.displayText).getD ""
      match chooseSelect key (selectRenderings template params options) with
      | some rendering => rendering pound
      | none => .error (.noOption name)

def renderNodes (template : CompiledTemplate) (params : Params) : List Node → Rendering
  | [], _ => .ok ""
  | node :: nodes, pound =>
      match renderNode template params node pound with
      | .error fault => .error fault
      | .ok text =>
          match renderNodes template params nodes pound with
          | .error fault => .error fault
          | .ok rest => .ok (text ++ rest)

def pluralRenderings (template : CompiledTemplate) (params : Params) :
    List (Selector × List Node) → List (Selector × Rendering)
  | [] => []
  | (selector, nodes) :: options =>
      (selector, renderNodes template params nodes) ::
        pluralRenderings template params options

def selectRenderings (template : CompiledTemplate) (params : Params) :
    List (String × List Node) → List (String × Rendering)
  | [] => []
  | (key, nodes) :: options =>
      (key, renderNodes template params nodes) :: selectRenderings template params options

end

def evaluate (template : CompiledTemplate) (params : Params) : Except RenderFault String :=
  renderNodes template params template.nodes none

end CompiledTemplate

end Phrasebook
