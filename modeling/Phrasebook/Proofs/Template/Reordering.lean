import Phrasebook.Proofs.Template.Evaluation
import Phrasebook.Proofs.Template.Sameness

namespace Phrasebook

/-- An option with its message before and after a change. -/
structure OptionChange (κ : Type) where
  selector : κ
  before : List Node
  after : List Node

namespace OptionChange

variable {κ : Type}

def old (change : OptionChange κ) : κ × List Node :=
  (change.selector, change.before)

def new (change : OptionChange κ) : κ × List Node :=
  (change.selector, change.after)

end OptionChange

/-- The same nodes but for the order of options, in any arguments at any depth: the messages of the
options are reordered themselves, and then the options are permuted. -/
inductive Reordered : List Node → List Node → Prop where
  | nil : Reordered [] []
  | same (node : Node) {nodes others : List Node} (more : Reordered nodes others) :
      Reordered (node :: nodes) (node :: others)
  | plural {name : String} {kind : PluralKind} {offset : Binary64}
      {changes : List (OptionChange Selector)} {options : List (Selector × List Node)}
      {nodes others : List Node}
      (inside : ∀ change ∈ changes, Reordered change.before change.after)
      (permuted : (changes.map OptionChange.new).Perm options) (more : Reordered nodes others) :
      Reordered (.plural name kind offset (changes.map OptionChange.old) :: nodes)
        (.plural name kind offset options :: others)
  | select {name : String} {changes : List (OptionChange String)}
      {options : List (String × List Node)} {nodes others : List Node}
      (inside : ∀ change ∈ changes, Reordered change.before change.after)
      (permuted : (changes.map OptionChange.new).Perm options) (more : Reordered nodes others) :
      Reordered (.select name (changes.map OptionChange.old) :: nodes)
        (.select name options :: others)

theorem Reordered.refl (nodes : List Node) : Reordered nodes nodes := by
  induction nodes with
  | nil => exact .nil
  | cons node nodes ih => exact .same node ih

namespace CompiledTemplate

open Template (Decisive WellFormed pluralStyle selectStyle)

variable {κ α : Type}

theorem firstOption?_perm {condition : κ → Bool} {same : κ → κ → Bool}
    {options others : List (κ × α)}
    (distinct : options.Pairwise fun left right => same left.1 right.1 = false)
    (clash : ∀ left right, condition left = true → condition right = true → same left right = true)
    (permuted : options.Perm others) :
    firstOption? condition options = firstOption? condition others := by
  have single : options.Pairwise fun left right =>
      ¬ (condition left.1 = true ∧ condition right.1 = true) := by
    refine distinct.imp fun {left right} apart both => ?_
    rw [clash left.1 right.1 both.1 both.2] at apart
    contradiction
  clear distinct
  refine congrArg (Option.map Prod.snd) ?_
  induction permuted with
  | nil => rfl
  | cons option permuted ih =>
      rw [List.find?_cons, List.find?_cons, ih (List.pairwise_cons.mp single).2]
  | swap left right options =>
      have apart := (List.pairwise_cons.mp single).1 left List.mem_cons_self
      cases fits : condition left.1 with
      | true =>
          have unfit : condition right.1 = false :=
            Bool.eq_false_iff.mpr fun alsoFits => apart ⟨alsoFits, fits⟩
          simp only [List.find?_cons, fits, unfit]
      | false => simp only [List.find?_cons, fits]
  | trans first second ihFirst ihSecond =>
      have singleAfter := single.perm first fun apart both => apart ⟨both.2, both.1⟩
      exact (ihFirst single).trans (ihSecond singleAfter)

theorem choosePlural_eq (number : Binary64) (category : PluralCategory)
    (options : List (Selector × α)) :
    choosePlural number category options =
      (firstOption? (Selector.isExactly number) options
        <|> firstOption? (· == .category category) options
        <|> firstOption? (· == .category .other) options) := rfl

theorem choosePlural_perm {options others : List (Selector × α)}
    (distinct : options.Pairwise fun left right => left.1.same right.1 = false)
    (permuted : options.Perm others) (number : Binary64) (category : PluralCategory) :
    choosePlural number category options = choosePlural number category others := by
  have named : ∀ name : PluralCategory, firstOption? (· == .category name) options =
      firstOption? (· == .category name) others := by
    refine fun name => firstOption?_perm distinct (fun left right isLeft isRight => ?_) permuted
    rw [eq_of_beq isLeft, eq_of_beq isRight]
    exact Selector.same_self nofun
  have exactly : firstOption? (Selector.isExactly number) options =
      firstOption? (Selector.isExactly number) others :=
    firstOption?_perm distinct (fun _ _ => Selector.same_of_isExactly) permuted
  rw [choosePlural_eq, choosePlural_eq, exactly, named, named]

theorem chooseSelect_perm {options others : List (String × α)}
    (distinct : options.Pairwise fun left right => (left.1 == right.1) = false)
    (permuted : options.Perm others) (key : String) :
    chooseSelect key options = chooseSelect key others := by
  have named : ∀ word : String, firstOption? (· == word) options =
      firstOption? (· == word) others := by
    refine fun word => firstOption?_perm distinct (fun left right isLeft isRight => ?_) permuted
    rw [eq_of_beq isLeft, eq_of_beq isRight]
    exact beq_self_eq_true word
  rw [chooseSelect, chooseSelect, named, named]

variable {template : CompiledTemplate} {params : Params} {parsed nodes others : List Node}

/-- After the changes the options render as before. -/
def RenderAlike {κ : Type} (template : CompiledTemplate) (params : Params)
    (changes : List (OptionChange κ)) : Prop :=
  ∀ change ∈ changes,
    renderNodes template params change.before = renderNodes template params change.after

theorem renderings_perm {κ : Type} {changes : List (OptionChange κ)}
    {options : List (κ × List Node)}
    (alike : RenderAlike template params changes)
    (permuted : (changes.map OptionChange.new).Perm options) :
    ((changes.map OptionChange.old).map fun option =>
        (option.1, renderNodes template params option.2)).Perm
      (options.map fun option => (option.1, renderNodes template params option.2)) := by
  have rendered : (changes.map OptionChange.old).map
        (fun option => (option.1, renderNodes template params option.2)) =
      (changes.map OptionChange.new).map
        (fun option => (option.1, renderNodes template params option.2)) := by
    rw [List.map_map, List.map_map]
    refine List.map_congr_left fun change among => ?_
    exact congrArg (Prod.mk change.selector) (alike change among)
  rw [rendered]
  exact permuted.map _

theorem renderNode_plural_reordered (name : String) (kind : PluralKind) (offset : Binary64)
    {changes : List (OptionChange Selector)} {options : List (Selector × List Node)}
    (decisive : Decisive pluralStyle (changes.map OptionChange.old))
    (alike : RenderAlike template params changes)
    (permuted : (changes.map OptionChange.new).Perm options) :
    renderNode template params (.plural name kind offset (changes.map OptionChange.old)) =
      renderNode template params (.plural name kind offset options) := by
  have choice : ∀ number category,
      choosePlural number category
          (pluralRenderings template params (changes.map OptionChange.old)) =
        choosePlural number category (pluralRenderings template params options) := by
    rw [pluralRenderings_eq_map, pluralRenderings_eq_map]
    refine choosePlural_perm ?_ (renderings_perm alike permuted)
    exact List.pairwise_map.mpr decisive.distinct
  funext pound
  simp only [renderNode, choice]

theorem renderNode_select_reordered (name : String) {changes : List (OptionChange String)}
    {options : List (String × List Node)}
    (decisive : Decisive selectStyle (changes.map OptionChange.old))
    (alike : RenderAlike template params changes)
    (permuted : (changes.map OptionChange.new).Perm options) :
    renderNode template params (.select name (changes.map OptionChange.old)) =
      renderNode template params (.select name options) := by
  have choice : ∀ key,
      chooseSelect key (selectRenderings template params (changes.map OptionChange.old)) =
        chooseSelect key (selectRenderings template params options) := by
    rw [selectRenderings_eq_map, selectRenderings_eq_map]
    refine chooseSelect_perm ?_ (renderings_perm alike permuted)
    exact List.pairwise_map.mpr decisive.distinct
  funext pound
  simp only [renderNode, choice]

theorem Occurs.decisive_plural {name : String} {kind : PluralKind} {offset : Binary64}
    {options : List (Selector × List Node)}
    (occurs : Occurs parsed (.plural name kind offset options)) (wellFormed : WellFormed parsed) :
    Decisive pluralStyle options := by
  obtain ⟨_, _, _, message, member⟩ := occurs
  exact (wellFormed message).plurals name kind offset options member

theorem Occurs.decisive_select {name : String} {options : List (String × List Node)}
    (occurs : Occurs parsed (.select name options)) (wellFormed : WellFormed parsed) :
    Decisive selectStyle options := by
  obtain ⟨_, _, _, message, member⟩ := occurs
  exact ((wellFormed message).selects name options member).1

theorem renderNodes_reordered (wellFormed : WellFormed parsed) (reordered : Reordered nodes others)
    (occur : ∀ node ∈ nodes, Occurs parsed node) :
    renderNodes template params nodes = renderNodes template params others := by
  -- Only what was read needs to be well formed: the options of `others` have the same selectors.
  induction reordered with
  | nil => rfl
  | same node more ih =>
      funext pound
      rw [renderNodes_cons, renderNodes_cons, ih (List.forall_mem_cons.mp occur).2]
  | @plural name kind offset changes options nodes others inside permuted more ihInside ihMore =>
      obtain ⟨here, rest⟩ := List.forall_mem_cons.mp occur
      have alike : RenderAlike template params changes := fun change among =>
        ihInside change among (here.pluralOption (List.mem_map_of_mem among))
      have sameNode := renderNode_plural_reordered name kind offset
        (here.decisive_plural wellFormed) alike permuted
      funext pound
      rw [renderNodes_cons, renderNodes_cons, ihMore rest, sameNode]
  | @select name changes options nodes others inside permuted more ihInside ihMore =>
      obtain ⟨here, rest⟩ := List.forall_mem_cons.mp occur
      have alike : RenderAlike template params changes := fun change among =>
        ihInside change among (here.selectOption (List.mem_map_of_mem among))
      have sameNode := renderNode_select_reordered name (here.decisive_select wellFormed)
        alike permuted
      funext pound
      rw [renderNodes_cons, renderNodes_cons, ihMore rest, sameNode]

variable {first second : CompiledTemplate}

mutual

/-- Of the template around it, rendering reads the plural rules only. -/
theorem renderNode_of_rules (rules : first.categorize = second.categorize) :
    ∀ node : Node, renderNode first params node = renderNode second params node
  | .plural name kind offset options => by
      funext pound
      simp only [renderNode, rules, pluralRenderings_of_rules rules options]
  | .select name options => by
      funext pound
      simp only [renderNode, selectRenderings_of_rules rules options]
  | .text _ => rfl
  | .argument _ => rfl
  | .number _ => rfl
  | .pound => by
      funext pound
      cases pound <;> rfl

theorem renderNodes_of_rules (rules : first.categorize = second.categorize) :
    ∀ nodes : List Node, renderNodes first params nodes = renderNodes second params nodes
  | [] => rfl
  | node :: nodes => by
      funext pound
      rw [renderNodes_cons, renderNodes_cons, renderNode_of_rules rules node,
        renderNodes_of_rules rules nodes]

theorem pluralRenderings_of_rules (rules : first.categorize = second.categorize) :
    ∀ options : List (Selector × List Node),
      pluralRenderings first params options = pluralRenderings second params options
  | [] => rfl
  | (selector, body) :: options => by
      rw [pluralRenderings, pluralRenderings, renderNodes_of_rules rules body,
        pluralRenderings_of_rules rules options]

theorem selectRenderings_of_rules (rules : first.categorize = second.categorize) :
    ∀ options : List (String × List Node),
      selectRenderings first params options = selectRenderings second params options
  | [] => rfl
  | (key, body) :: options => by
      rw [selectRenderings, selectRenderings, renderNodes_of_rules rules body,
        selectRenderings_of_rules rules options]

end

/-- With its options in another order, at any depth, a template gives the same text or the same
fault. -/
theorem evaluate_reordered {source : String} {nodes others : List Node}
    (read : Template.parse source = .ok nodes) (reordered : Reordered nodes others)
    (locale : String) (params : Params) :
    evaluate ⟨others, .ofLocale locale, .ofLocale locale⟩ params =
      evaluate ⟨nodes, .ofLocale locale, .ofLocale locale⟩ params := by
  have wellFormed : WellFormed nodes := Template.wellFormed_of_parse read
  have occur : ∀ node ∈ nodes, Occurs nodes node := fun node member => ⟨_, _, _, .whole, member⟩
  have sameRules : categorize ⟨others, .ofLocale locale, .ofLocale locale⟩ =
      categorize ⟨nodes, .ofLocale locale, .ofLocale locale⟩ := rfl
  rw [evaluate, evaluate, renderNodes_of_rules sameRules,
    renderNodes_reordered wellFormed reordered occur]

open Template (guests guestsSource hostOptions manyGuests)

def hostChanges : List (OptionChange String) :=
  hostOptions.map fun option => ⟨option.1, option.2, option.2⟩

def manyGuestsReordered : List Node :=
  [.pound, .text " of ", .select "host" hostOptions.reverse]

def guestChanges : List (OptionChange Selector) :=
  [⟨.category .one, [.pound, .text " guest"], [.pound, .text " guest"]⟩,
    ⟨.category .other, manyGuests, manyGuestsReordered⟩]

def guestsReordered : List Node :=
  [.plural "n" .cardinal .zero (guestChanges.map OptionChange.new).reverse]

theorem reordered_guests : Reordered guests guestsReordered := by
  have kept : ∀ change ∈ hostChanges, Reordered change.before change.after := by
    intro change among
    obtain ⟨option, _, rfl⟩ := List.mem_map.mp among
    exact .refl option.2
  have manyReordered : Reordered manyGuests manyGuestsReordered :=
    .same _ (.same _ (@Reordered.select _ hostChanges _ _ _ kept (List.reverse_perm _).symm .nil))
  have inside : ∀ change ∈ guestChanges, Reordered change.before change.after :=
    List.forall_mem_cons.mpr ⟨.refl _, List.forall_mem_singleton.mpr manyReordered⟩
  exact @Reordered.plural _ _ _ guestChanges _ _ _ inside (List.reverse_perm _).symm .nil

theorem evaluate_reordered_guests :
    Template.parse guestsSource = .ok guests ∧ Reordered guests guestsReordered ∧
      evaluate ⟨guestsReordered, .ofLocale "en", .ofLocale "en"⟩ threeGuests =
        evaluate ⟨guests, .ofLocale "en", .ofLocale "en"⟩ threeGuests :=
  ⟨Template.parse_guestsSource, reordered_guests,
    evaluate_reordered Template.parse_guestsSource reordered_guests "en" threeGuests⟩

end CompiledTemplate

end Phrasebook
