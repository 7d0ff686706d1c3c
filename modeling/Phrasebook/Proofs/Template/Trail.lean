import Phrasebook.Template.Rendering

namespace Phrasebook.CompiledTemplate

/-! What an evaluation meets on its way through a template.

The way is through the bodies of the chosen options only.  A pound sign belongs to the plural
argument whose option it stands in directly: within a select option there is none.
-/

inductive Encounter where
  | text (text : String)
  | argument (name : String)
  | number (name : String)
  /-- A pound sign, with the number and the offset of its plural argument. -/
  | pound (number offset : Binary64)
  /-- The choice between the options of a plural argument. -/
  | plural (name : String)

def Encounter.written (params : Params) : Encounter → Except RenderFault String
  | .text content => .ok content
  | .argument name =>
      match params.get? name with
      | some value => .ok value.displayText
      | none => .error (.unbound name)
  | .number name =>
      match params.number? name with
      | some value => .ok (String.ofList value.displayText)
      | none => .error (.notANumber name)
  | .pound value offset => .ok (String.ofList (value.sub offset).displayText)
  | .plural name =>
      match params.number? name with
      | some _ => .ok ""
      | none => .error (.pluralNotANumber name)

/-- What a fault says is missing at an encounter. -/
inductive Missing (params : Params) : Encounter → RenderFault → Prop where
  | argument {name : String} (absent : params.get? name = none) :
      Missing params (.argument name) (.unbound name)
  | number {name : String} (notANumber : params.number? name = none) :
      Missing params (.number name) (.notANumber name)
  | plural {name : String} (notANumber : params.number? name = none) :
      Missing params (.plural name) (.pluralNotANumber name)

/-- Two texts after each other, or the first fault. -/
def joined : Except RenderFault String → Except RenderFault String → Except RenderFault String
  | .error fault, _ => .error fault
  | .ok _, .error fault => .error fault
  | .ok text, .ok rest => .ok (text ++ rest)

def writeAll (params : Params) : List Encounter → Except RenderFault String
  | [] => .ok ""
  | encounter :: trail => joined (encounter.written params) (writeAll params trail)

theorem joined_assoc (first second third : Except RenderFault String) :
    joined (joined first second) third = joined first (joined second third) := by
  cases first with
  | error fault => rfl
  | ok first =>
      cases second with
      | error fault => rfl
      | ok second =>
          cases third with
          | error fault => rfl
          | ok third => simp [joined, String.append_assoc]

theorem empty_joined (rest : Except RenderFault String) : joined (.ok "") rest = rest := by
  cases rest <;> simp [joined]

theorem joined_empty (text : Except RenderFault String) : joined text (.ok "") = text := by
  cases text <;> simp [joined]

variable {params : Params} {encounter : Encounter} {trail : List Encounter} {fault : RenderFault}

theorem writeAll_append (before after : List Encounter) :
    writeAll params (before ++ after) =
      joined (writeAll params before) (writeAll params after) := by
  induction before with
  | nil => exact (empty_joined _).symm
  | cons encounter before ih => rw [List.cons_append, writeAll, writeAll, ih, joined_assoc]

theorem missing_of_written (fails : encounter.written params = .error fault) :
    Missing params encounter fault := by
  cases encounter with
  | text text => contradiction
  | pound number offset => contradiction
  | argument name =>
      cases value : params.get? name with
      | some value => simp [Encounter.written, value] at fails
      | none =>
          simp only [Encounter.written, value] at fails
          cases fails
          exact .argument value
  | number name =>
      cases value : params.number? name with
      | some number => simp [Encounter.written, value] at fails
      | none =>
          simp only [Encounter.written, value] at fails
          cases fails
          exact .number value
  | plural name =>
      cases value : params.number? name with
      | some number => simp [Encounter.written, value] at fails
      | none =>
          simp only [Encounter.written, value] at fails
          cases fails
          exact .plural value

theorem missing_of_writeAll (fails : writeAll params trail = .error fault) :
    ∃ encounter ∈ trail, Missing params encounter fault := by
  induction trail with
  | nil => contradiction
  | cons encounter trail ih =>
      cases first : encounter.written params with
      | error earlier =>
          rw [writeAll, first] at fails
          cases fails
          exact ⟨encounter, List.mem_cons_self, missing_of_written first⟩
      | ok text =>
          cases rest : writeAll params trail with
          | ok rest => simp [writeAll, first, rest, joined] at fails
          | error later =>
              rw [writeAll, first, rest] at fails
              cases fails
              obtain ⟨encounter, member, missing⟩ := ih rest
              exact ⟨encounter, List.mem_cons_of_mem _ member, missing⟩

/-- What is met between here and the end of a message.  `enclosing` is the number and the offset
of the plural argument that the message is an option of. -/
inductive Trail (template : CompiledTemplate) (params : Params) :
    Option (Binary64 × Binary64) → List Node → List Encounter → Prop where
  | done {enclosing : Option (Binary64 × Binary64)} : Trail template params enclosing [] []
  | text {enclosing : Option (Binary64 × Binary64)} {text : String} {nodes : List Node}
      {trail : List Encounter} (more : Trail template params enclosing nodes trail) :
      Trail template params enclosing (.text text :: nodes) (.text text :: trail)
  | argument {enclosing : Option (Binary64 × Binary64)} {name : String} {nodes : List Node}
      {trail : List Encounter} (more : Trail template params enclosing nodes trail) :
      Trail template params enclosing (.argument name :: nodes) (.argument name :: trail)
  | number {enclosing : Option (Binary64 × Binary64)} {name : String} {nodes : List Node}
      {trail : List Encounter} (more : Trail template params enclosing nodes trail) :
      Trail template params enclosing (.number name :: nodes) (.number name :: trail)
  | pound {number offset : Binary64} {nodes : List Node} {trail : List Encounter}
      (more : Trail template params (some (number, offset)) nodes trail) :
      Trail template params (some (number, offset)) (.pound :: nodes)
        (.pound number offset :: trail)
  /-- Without a number no option is chosen. -/
  | unchosen {enclosing : Option (Binary64 × Binary64)} {name : String} {kind : PluralKind}
      {offset : Binary64} {options : List (Selector × List Node)} {nodes : List Node}
      {trail : List Encounter} (notANumber : params.number? name = none)
      (more : Trail template params enclosing nodes trail) :
      Trail template params enclosing (.plural name kind offset options :: nodes)
        (.plural name :: trail)
  | plural {enclosing : Option (Binary64 × Binary64)} {name : String} {kind : PluralKind}
      {number offset : Binary64} {options : List (Selector × List Node)} {body nodes : List Node}
      {inside trail : List Encounter} (isNumber : params.number? name = some number)
      (chosen : choosePlural number (template.categorize kind (number.sub offset)) options =
        some body)
      (within : Trail template params (some (number, offset)) body inside)
      (more : Trail template params enclosing nodes trail) :
      Trail template params enclosing (.plural name kind offset options :: nodes)
        (.plural name :: (inside ++ trail))
  | select {enclosing : Option (Binary64 × Binary64)} {name : String}
      {options : List (String × List Node)} {body nodes : List Node}
      {inside trail : List Encounter}
      (chosen : chooseSelect (((params.get? name).map Json.displayText).getD "") options =
        some body)
      (within : Trail template params none body inside)
      (more : Trail template params enclosing nodes trail) :
      Trail template params enclosing (.select name options :: nodes) (inside ++ trail)

theorem Trail.unique {template : CompiledTemplate} {params : Params}
    {enclosing : Option (Binary64 × Binary64)} {nodes : List Node} {first second : List Encounter}
    (left : Trail template params enclosing nodes first)
    (right : Trail template params enclosing nodes second) : second = first := by
  induction left generalizing second with
  | done =>
      cases right
      rfl
  | text more ih =>
      cases right with
      | text more => rw [ih more]
  | argument more ih =>
      cases right with
      | argument more => rw [ih more]
  | number more ih =>
      cases right with
      | number more => rw [ih more]
  | pound more ih =>
      cases right with
      | pound more => rw [ih more]
  | unchosen notANumber more ih =>
      cases right with
      | unchosen _ more => rw [ih more]
      | plural isNumber chosen within more =>
          rw [notANumber] at isNumber
          contradiction
  | plural isNumber chosen within more ihWithin ihMore =>
      cases right with
      | unchosen notANumber more =>
          rw [notANumber] at isNumber
          contradiction
      | plural isNumber' chosen' within more =>
          cases isNumber.symm.trans isNumber'
          cases chosen.symm.trans chosen'
          rw [ihWithin within, ihMore more]
  | select chosen within more ihWithin ihMore =>
      cases right with
      | select chosen' within more =>
          cases chosen.symm.trans chosen'
          rw [ihWithin within, ihMore more]

end Phrasebook.CompiledTemplate
