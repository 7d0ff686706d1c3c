import Mathlib.Data.Option.Basic
import Phrasebook.Proofs.Number.Text
import Phrasebook.Proofs.Template.Choice
import Phrasebook.Proofs.Template.Trail

namespace Phrasebook.CompiledTemplate

open Template (Context Decisive Message WellFormed pluralStyle selectStyle)

variable {κ α β : Type} {condition : κ → Bool} {value : α} {options : List (κ × α)}

theorem firstOption?_map (condition : κ → Bool) (change : α → β) (options : List (κ × α)) :
    firstOption? condition (options.map fun option => (option.1, change option.2)) =
      (firstOption? condition options).map change := by
  unfold firstOption?
  rw [List.find?_map, Option.map_map, Option.map_map]
  rfl

theorem mem_of_firstOption? (found : firstOption? condition options = some value) :
    ∃ option ∈ options, option.2 = value := by
  obtain ⟨option, isFirst, same⟩ := Option.map_eq_some_iff.mp found
  exact ⟨option, List.mem_of_find?_eq_some isFirst, same⟩

theorem firstOption?_ne_none {option : κ × α} (member : option ∈ options)
    (fits : condition option.1 = true) : firstOption? condition options ≠ none := by
  intro none
  have unfit := List.find?_eq_none.mp (Option.map_eq_none_iff.mp none) option member
  exact unfit fits

theorem map_orElse (change : α → β) (first second : Option α) :
    (first <|> second).map change = (first.map change <|> second.map change) := by
  cases first <;> rfl

theorem mem_of_choosePlural {number : Binary64} {category : PluralCategory}
    {options : List (Selector × α)} (chosen : choosePlural number category options = some value) :
    ∃ option ∈ options, option.2 = value := by
  rcases (Option.orElse_eq_some _ _ _).mp chosen with equal | ⟨_, chosen⟩
  · exact mem_of_firstOption? equal
  · rcases (Option.orElse_eq_some _ _ _).mp chosen with named | ⟨_, other⟩
    · exact mem_of_firstOption? named
    · exact mem_of_firstOption? other

theorem mem_of_chooseSelect {key : String} {options : List (String × α)}
    (chosen : chooseSelect key options = some value) : ∃ option ∈ options, option.2 = value := by
  rcases (Option.orElse_eq_some _ _ _).mp chosen with named | ⟨_, other⟩
  · exact mem_of_firstOption? named
  · exact mem_of_firstOption? other

theorem choosePlural_map (number : Binary64) (category : PluralCategory) (change : α → β)
    (options : List (Selector × α)) :
    choosePlural number category (options.map fun option => (option.1, change option.2)) =
      (choosePlural number category options).map change := by
  simp only [choosePlural, firstOption?_map, map_orElse]

theorem chooseSelect_map (key : String) (change : α → β) (options : List (String × α)) :
    chooseSelect key (options.map fun option => (option.1, change option.2)) =
      (chooseSelect key options).map change := by
  simp only [chooseSelect, firstOption?_map, map_orElse]

theorem choosePlural_of_decisive {options : List (Selector × List Node)}
    (decisive : Decisive pluralStyle options) (number : Binary64) (category : PluralCategory) :
    ∃ option ∈ options, choosePlural number category options = some option.2 := by
  cases chosen : choosePlural number category options with
  | some body =>
      obtain ⟨option, member, same⟩ := mem_of_choosePlural chosen
      exact ⟨option, member, by rw [same]⟩
  | none =>
      have unnamed := ((Option.orElse_eq_none _ _).mp chosen).2
      have noOther := ((Option.orElse_eq_none _ _).mp unnamed).2
      obtain ⟨other, member, isOther⟩ := decisive.other
      exact absurd noOther (firstOption?_ne_none member isOther)

theorem chooseSelect_of_decisive {options : List (String × List Node)}
    (decisive : Decisive selectStyle options) (key : String) :
    ∃ option ∈ options, chooseSelect key options = some option.2 := by
  cases chosen : chooseSelect key options with
  | some body =>
      obtain ⟨option, member, same⟩ := mem_of_chooseSelect chosen
      exact ⟨option, member, by rw [same]⟩
  | none =>
      have noOther := ((Option.orElse_eq_none _ _).mp chosen).2
      obtain ⟨other, member, isOther⟩ := decisive.other
      exact absurd noOther (firstOption?_ne_none member isOther)

variable {template : CompiledTemplate} {params : Params} {parsed nodes : List Node}
  {context : Context} {around : Nat} {enclosing : Option (Binary64 × Binary64)}
  {pound : Option Binary64} {node : Node}

theorem pluralRenderings_eq_map (options : List (Selector × List Node)) :
    pluralRenderings template params options =
      options.map fun option => (option.1, renderNodes template params option.2) := by
  induction options with
  | nil => rfl
  | cons option options ih => rw [List.map_cons, ← ih, pluralRenderings]

theorem selectRenderings_eq_map (options : List (String × List Node)) :
    selectRenderings template params options =
      options.map fun option => (option.1, renderNodes template params option.2) := by
  induction options with
  | nil => rfl
  | cons option options ih => rw [List.map_cons, ← ih, selectRenderings]

theorem renderNodes_cons (nodes : List Node) :
    renderNodes template params (node :: nodes) pound =
      joined (renderNode template params node pound) (renderNodes template params nodes pound) := by
  rw [renderNodes]
  cases renderNode template params node pound with
  | error fault => rfl
  | ok text => cases renderNodes template params nodes pound <;> rfl

/-- Where a message stands: in a plural option a pound sign is for the number of its argument less
the offset. -/
inductive Enclosed : Context → Option (Binary64 × Binary64) → Option Binary64 → Prop where
  | plural {number offset : Binary64} :
      Enclosed .pluralOption (some (number, offset)) (some (number.sub offset))
  | other {context : Context} {pound : Option Binary64} (notPlural : context ≠ .pluralOption) :
      Enclosed context none pound

/-- Rendering a node writes what the way through it meets. -/
def NodeFollowed (template : CompiledTemplate) (params : Params)
    (enclosing : Option (Binary64 × Binary64)) (pound : Option Binary64) (node : Node) : Prop :=
  ∃ inside, renderNode template params node pound = writeAll params inside ∧
    ∀ nodes trail, Trail template params enclosing nodes trail →
      Trail template params enclosing (node :: nodes) (inside ++ trail)

/-- Rendering a message writes what the way through it meets. -/
def Followed (template : CompiledTemplate) (params : Params)
    (enclosing : Option (Binary64 × Binary64)) (pound : Option Binary64) (nodes : List Node) :
    Prop :=
  ∃ trail, renderNodes template params nodes pound = writeAll params trail ∧
    Trail template params enclosing nodes trail

theorem followed_of_nodes
    (followed : ∀ node ∈ nodes, NodeFollowed template params enclosing pound node) :
    Followed template params enclosing pound nodes := by
  induction nodes with
  | nil => exact ⟨[], rfl, .done⟩
  | cons node nodes ih =>
      obtain ⟨first, others⟩ := List.forall_mem_cons.mp followed
      obtain ⟨inside, rendered, through⟩ := first
      obtain ⟨trail, restRendered, follows⟩ := ih others
      refine ⟨inside ++ trail, ?_, through nodes trail follows⟩
      rw [renderNodes_cons, rendered, restRendered, writeAll_append]

theorem nodeFollowed_single {encounter : Encounter}
    (rendered : renderNode template params node pound = encounter.written params)
    (through : ∀ nodes trail, Trail template params enclosing nodes trail →
      Trail template params enclosing (node :: nodes) (encounter :: trail)) :
    NodeFollowed template params enclosing pound node := by
  refine ⟨[encounter], ?_, through⟩
  rw [writeAll, writeAll, joined_empty, rendered]

theorem nodeFollowed_plural {name : String} {kind : PluralKind} {offset : Binary64}
    {options : List (Selector × List Node)} (decisive : Decisive pluralStyle options)
    (bodies : ∀ option ∈ options, ∀ number,
      Followed template params (some (number, offset)) (some (number.sub offset)) option.2) :
    NodeFollowed template params enclosing pound (.plural name kind offset options) := by
  cases value : params.number? name with
  | none =>
      refine nodeFollowed_single ?_ fun nodes trail => .unchosen value
      simp only [renderNode, Encounter.written, value]
  | some number =>
      let category := template.categorize kind (number.sub offset)
      obtain ⟨option, member, chosen⟩ := choosePlural_of_decisive decisive number category
      obtain ⟨inside, rendered, within⟩ := bodies option member number
      refine ⟨.plural name :: inside, ?_, fun nodes trail => .plural value chosen within⟩
      have choice : choosePlural number category (pluralRenderings template params options) =
          some (renderNodes template params option.2) := by
        rw [pluralRenderings_eq_map, choosePlural_map, chosen]
        rfl
      have met : Encounter.written params (.plural name) = .ok "" := by
        simp only [Encounter.written, value]
      rw [writeAll, met, empty_joined, ← rendered]
      simp only [renderNode, value, category, choice]

theorem nodeFollowed_select {name : String} {options : List (String × List Node)}
    (decisive : Decisive selectStyle options)
    (bodies : ∀ option ∈ options, Followed template params none pound option.2) :
    NodeFollowed template params enclosing pound (.select name options) := by
  let key := ((params.get? name).map Json.displayText).getD ""
  obtain ⟨option, member, chosen⟩ := chooseSelect_of_decisive decisive key
  obtain ⟨inside, rendered, within⟩ := bodies option member
  refine ⟨inside, ?_, fun nodes trail => .select chosen within⟩
  have choice : chooseSelect key (selectRenderings template params options) =
      some (renderNodes template params option.2) := by
    rw [selectRenderings_eq_map, chooseSelect_map, chosen]
    rfl
  rw [← rendered]
  simp only [renderNode, key, choice]

theorem followed_of_message (wellFormed : WellFormed parsed)
    (message : Message parsed context around nodes) (enclosed : Enclosed context enclosing pound) :
    Followed template params enclosing pound nodes := by
  induction message using wellFormed.inward generalizing enclosing pound with
  | @step context around nodes message plurals selects =>
      have wellFormedAt := wellFormed message
      refine followed_of_nodes fun node member => ?_
      cases node with
      | text text => exact nodeFollowed_single rfl fun nodes trail => .text
      | argument name => exact nodeFollowed_single rfl fun nodes trail => .argument
      | number name => exact nodeFollowed_single rfl fun nodes trail => .number
      | pound =>
          have inPlural := wellFormedAt.pounds member
          -- Only here the way could end: no number stands for a pound sign outside plural options.
          cases enclosed with
          | plural => exact nodeFollowed_single rfl fun nodes trail => .pound
          | other notPlural => contradiction
      | plural name kind offset options =>
          have decisive := wellFormedAt.plurals name kind offset options member
          refine nodeFollowed_plural decisive fun option among number => ?_
          exact plurals name kind offset options member option among .plural
      | select name options =>
          have decisive := (wellFormedAt.selects name options member).1
          refine nodeFollowed_select decisive fun option among => ?_
          exact selects name options member option among (.other (by decide))

/-- A plain argument has a value, and one that must be a number has a numeric one. -/
def HasValue (params : Params) : Node → Prop
  | .argument name => params.get? name ≠ none
  | .number name => params.number? name ≠ none
  | .plural name _ _ _ => params.number? name ≠ none
  | _ => True

def Supplied (params : Params) (parsed : List Node) : Prop :=
  ∀ {context around nodes}, Message parsed context around nodes →
    ∀ node ∈ nodes, HasValue params node

variable {trail : List Encounter} {fault : RenderFault} {encounter : Encounter}

/-- The node stands in some message of the template. -/
def Occurs (parsed : List Node) (node : Node) : Prop :=
  ∃ context around nodes, Message parsed context around nodes ∧ node ∈ nodes

theorem Supplied.hasValue (supplied : Supplied params parsed) {node : Node}
    (occurs : Occurs parsed node) : HasValue params node := by
  obtain ⟨context, around, nodes, message, member⟩ := occurs
  exact supplied message node member

theorem Occurs.pluralOption {name : String} {kind : PluralKind} {offset : Binary64}
    {options : List (Selector × List Node)}
    (occurs : Occurs parsed (.plural name kind offset options))
    {option : Selector × List Node} (among : option ∈ options) :
    ∀ node ∈ option.2, Occurs parsed node := by
  obtain ⟨context, around, nodes, message, argument⟩ := occurs
  exact fun node member => ⟨_, _, _, .pluralOption message argument among, member⟩

theorem Occurs.selectOption {name : String} {options : List (String × List Node)}
    (occurs : Occurs parsed (.select name options)) {option : String × List Node}
    (among : option ∈ options) : ∀ node ∈ option.2, Occurs parsed node := by
  obtain ⟨context, around, nodes, message, argument⟩ := occurs
  exact fun node member => ⟨_, _, _, .selectOption message argument among, member⟩

theorem Trail.complete (follows : Trail template params enclosing nodes trail)
    (supplied : Supplied params parsed) (occur : ∀ node ∈ nodes, Occurs parsed node) :
    ∀ encounter ∈ trail, ¬Missing params encounter fault := by
  induction follows with
  | done => simp
  | text more ih =>
      exact List.forall_mem_cons.mpr ⟨nofun, ih (List.forall_mem_cons.mp occur).2⟩
  | argument more ih =>
      obtain ⟨here, others⟩ := List.forall_mem_cons.mp occur
      refine List.forall_mem_cons.mpr ⟨fun missing => ?_, ih others⟩
      cases missing with
      | argument absent => exact supplied.hasValue here absent
  | number more ih =>
      obtain ⟨here, others⟩ := List.forall_mem_cons.mp occur
      refine List.forall_mem_cons.mpr ⟨fun missing => ?_, ih others⟩
      cases missing with
      | number notANumber => exact supplied.hasValue here notANumber
  | pound more ih =>
      exact List.forall_mem_cons.mpr ⟨nofun, ih (List.forall_mem_cons.mp occur).2⟩
  | unchosen notANumber more ih =>
      obtain ⟨here, _⟩ := List.forall_mem_cons.mp occur
      exact absurd notANumber (supplied.hasValue here)
  | plural isNumber chosen within more ihWithin ihMore =>
      obtain ⟨here, others⟩ := List.forall_mem_cons.mp occur
      obtain ⟨option, among, rfl⟩ := mem_of_choosePlural chosen
      refine List.forall_mem_cons.mpr ⟨fun missing => ?_, List.forall_mem_append.mpr
        ⟨ihWithin (here.pluralOption among), ihMore others⟩⟩
      cases missing with
      | plural notANumber => exact supplied.hasValue here notANumber
  | select chosen within more ihWithin ihMore =>
      obtain ⟨here, others⟩ := List.forall_mem_cons.mp occur
      obtain ⟨option, among, rfl⟩ := mem_of_chooseSelect chosen
      exact List.forall_mem_append.mpr ⟨ihWithin (here.selectOption among), ihMore others⟩

/-- An evaluation is told by the one way through the template. -/
structure Explained (template : CompiledTemplate) (params : Params) (trail : List Encounter) :
    Prop where
  follows : Trail template params none template.nodes trail
  unique : ∀ other, Trail template params none template.nodes other → other = trail
  writes : template.evaluate params = writeAll params trail
  faults : ∀ fault, template.evaluate params = .error fault →
    ∃ encounter ∈ trail, Missing params encounter fault
  pounds : ∀ number offset, .pound number offset ∈ trail →
    Encounter.written params (.pound number offset) ≠ .ok ""

variable {source locale : String}

theorem written_pound_ne_empty {params : Params} (number offset : Binary64) :
    Encounter.written params (.pound number offset) ≠ .ok "" := by
  intro empty
  have none : (String.ofList (number.sub offset).displayText).toList = [] := by
    rw [Except.ok.inj empty]
    rfl
  rw [String.toList_ofList] at none
  exact (number.sub offset).displayText_ne_nil none

theorem wellFormed_of_compile (compiled : compile source locale = .ok template) :
    WellFormed template.nodes := by
  obtain ⟨nodes, read, compiled⟩ := bind_eq_ok compiled
  cases compiled
  exact Template.wellFormed_of_parse read

/-- Evaluating an accepted template fails only for a missing value on the way through it, and
never for want of an option. -/
theorem evaluate_of_compile (compiled : compile source locale = .ok template) (params : Params) :
    (∃ trail, Explained template params trail) ∧
      (∀ name, template.evaluate params ≠ .error (.noOption name)) ∧
      (Supplied params template.nodes → ∃ text, template.evaluate params = .ok text) := by
  have wellFormed : WellFormed template.nodes := wellFormed_of_compile compiled
  obtain ⟨trail, writes, follows⟩ : Followed template params none none template.nodes :=
    followed_of_message wellFormed .whole (.other (by decide))
  have faults : ∀ fault, template.evaluate params = .error fault →
      ∃ encounter ∈ trail, Missing params encounter fault :=
    fun fault fails => missing_of_writeAll (writes.symm.trans fails)
  have explained : Explained template params trail :=
    ⟨follows, fun other right => follows.unique right, writes, faults,
      fun number offset _ => written_pound_ne_empty number offset⟩
  refine ⟨⟨trail, explained⟩, fun name fails => ?_, fun supplied => ?_⟩
  · obtain ⟨encounter, _, missing⟩ := faults _ fails
    nomatch missing
  · cases result : template.evaluate params with
    | ok text => exact ⟨text, rfl⟩
    | error fault =>
        obtain ⟨encounter, member, missing⟩ := faults fault result
        have occur : ∀ node ∈ template.nodes, Occurs template.nodes node :=
          fun node among => ⟨_, _, _, .whole, among⟩
        exact absurd missing (follows.complete supplied occur encounter member)

open Template (guests guestsSource hostOptions manyGuests)

theorem guests_messages {context : Context} {around : Nat} {nodes : List Node}
    (message : Message guests context around nodes) :
    nodes = guests ∨ nodes = [.pound, .text " guest"] ∨ nodes = manyGuests ∨
      nodes = [.text "hers"] ∨ nodes = [.text "'#'s"] := by
  induction message with
  | whole => exact .inl rfl
  | pluralOption outer argument option ih =>
      rcases ih with rfl | rfl | rfl | rfl | rfl
      · simp only [guests, List.mem_singleton] at argument
        cases argument
        simp only [List.mem_cons, Prod.mk.injEq, List.not_mem_nil, or_false] at option
        rcases option with ⟨_, rfl⟩ | ⟨_, rfl⟩
        · simp
        · simp
      all_goals simp [manyGuests] at argument
  | selectOption outer argument option ih =>
      rcases ih with rfl | rfl | rfl | rfl | rfl
      case inr.inr.inl =>
        simp only [manyGuests, List.mem_cons, reduceCtorEq, Node.select.injEq, List.not_mem_nil,
          or_false, false_or] at argument
        obtain ⟨_, rfl⟩ := argument
        simp only [hostOptions, List.mem_cons, Prod.mk.injEq, List.not_mem_nil, or_false] at option
        rcases option with ⟨_, rfl⟩ | ⟨_, rfl⟩
        · simp
        · simp
      all_goals simp [guests] at argument

def threeGuests : Params :=
  .ofList [("n", .integer 3)]

theorem evaluate_guests :
    ∃ template, compile guestsSource "en" = .ok template ∧ Supplied threeGuests template.nodes ∧
      ∃ text, template.evaluate threeGuests = .ok text := by
  have compiled : compile guestsSource "en" = .ok ⟨guests, .ofLocale "en", .ofLocale "en"⟩ := by
    rw [compile, Template.parse_guestsSource]
    rfl
  have supplied : Supplied threeGuests guests := by
    intro context around nodes message
    have isNumber : threeGuests.number? "n" ≠ none := by
      exact Option.some_ne_none (Binary64.ofInt 3)
    rcases guests_messages message with rfl | rfl | rfl | rfl | rfl
    all_goals simp [guests, manyGuests, HasValue, isNumber]
  exact ⟨_, compiled, supplied, (evaluate_of_compile compiled threeGuests).2.2 supplied⟩

end Phrasebook.CompiledTemplate
