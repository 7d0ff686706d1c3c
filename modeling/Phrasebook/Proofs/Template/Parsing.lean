import Mathlib.Data.List.TakeWhile
import Phrasebook.Error
import Phrasebook.Proofs.Template.WellFormed

namespace Phrasebook.Template

theorem isName_nameOf {cs : List Char} (nonempty : nameOf cs ≠ "") : IsName (nameOf cs) where
  nonempty := nonempty
  plain := by
    intro c member
    rw [nameOf, String.toList_ofList] at member
    exact isNameChar_iff.mp (List.mem_takeWhile_imp member)

variable {length : Nat} {argument : Parser Node} {context : Context} {pending : List Char}
  {nodes : List Node}

/-- The nodes that reading can end in when some text is pending. -/
inductive Assembled (argument : Parser Node) (context : Context) :
    List Char → List Node → Prop where
  | done {pending : List Char} : Assembled argument context pending (flush pending [])
  | argument {pending cs rest : List Char} {node : Node} {nodes : List Node}
      (read : argument cs = .ok (node, rest)) (more : Assembled argument context [] nodes) :
      Assembled argument context pending (flush pending (node :: nodes))
  | pound {pending : List Char} {nodes : List Node} (inPlural : context = .pluralOption)
      (more : Assembled argument context [] nodes) :
      Assembled argument context pending (flush pending (.pound :: nodes))
  | text {pending longer : List Char} {nodes : List Node}
      (more : Assembled argument context longer nodes) : Assembled argument context pending nodes

theorem readNodes_assembled {fuel : Nat} {cs rest : List Char}
    (read : readNodes length argument context fuel pending cs = .ok (nodes, rest)) :
    Assembled argument context pending nodes := by
  induction fuel generalizing pending cs nodes rest with
  | zero =>
      cases read
      exact .done
  | succ fuel ih =>
      cases cs with
      | nil =>
          cases read
          exact .done
      | cons c cs =>
          unfold readNodes at read
          split_ifs at read with opens closes top isPound isQuote
          · obtain ⟨⟨node, between⟩, readNode, read⟩ := bind_eq_ok read
            obtain ⟨⟨more, after⟩, readMore, read⟩ := bind_eq_ok read
            cases read
            exact .argument readNode (ih readMore)
          · cases read
            exact .done
          · obtain ⟨⟨more, after⟩, readMore, read⟩ := bind_eq_ok read
            cases read
            exact .pound isPound.2 (ih readMore)
          · exact .text (ih read)
          · exact .text (ih read)

theorem mem_flush {node : Node} (member : node ∈ flush pending nodes) :
    (∃ text, node = .text text ∧ text ≠ "") ∨ node ∈ nodes := by
  cases pending with
  | nil => exact .inr member
  | cons c pending =>
      rcases List.mem_cons.mp member with rfl | member
      · refine .inl ⟨_, rfl, fun empty => ?_⟩
        simp [← String.toList_inj] at empty
      · exact .inr member

theorem Assembled.mem (assembled : Assembled argument context pending nodes) {node : Node}
    (member : node ∈ nodes) :
    (∃ text, node = .text text ∧ text ≠ "") ∨ (node = .pound ∧ context = .pluralOption) ∨
      ∃ cs rest, argument cs = .ok (node, rest) := by
  induction assembled with
  | done => exact .inl ((mem_flush member).resolve_right (by simp))
  | argument read more ih =>
      rcases mem_flush member with text | member
      · exact .inl text
      · rcases List.mem_cons.mp member with rfl | member
        · exact .inr (.inr ⟨_, _, read⟩)
        · exact ih member
  | pound inPlural more ih =>
      rcases mem_flush member with text | member
      · exact .inl text
      · rcases List.mem_cons.mp member with rfl | member
        · exact .inr (.inl ⟨rfl, inPlural⟩)
        · exact ih member
  | text more ih => exact ih member

theorem TextsApart.flush_cons {node : Node} (apart : TextsApart nodes)
    (notText : node.isText = false) (pending : List Char) :
    TextsApart (flush pending (node :: nodes)) := by
  have fromNode : TextsApart (node :: nodes) :=
    List.isChain_cons.mpr ⟨fun next _ isText => by simp [notText] at isText, apart⟩
  cases pending with
  | nil => exact fromNode
  | cons c pending =>
      refine List.isChain_cons.mpr ⟨fun next isNext _ => ?_, fromNode⟩
      cases isNext
      exact notText

theorem Assembled.apart (noTexts : ∀ cs node rest, argument cs = .ok (node, rest) →
      node.isText = false)
    (assembled : Assembled argument context pending nodes) : TextsApart nodes := by
  induction assembled with
  | @done pending => cases pending <;> simp [TextsApart, flush]
  | argument read more ih => exact ih.flush_cons (noTexts _ _ _ read) _
  | pound inPlural more ih => exact ih.flush_cons rfl _
  | text more ih => exact ih

variable {κ : Type} {style : OptionStyle κ} {body : Parser (List Node)}

/-- What options can be read after some that were taken before. -/
structure OptionsRead (style : OptionStyle κ) (body : Parser (List Node)) (taken : List κ)
    (options : List (κ × List Node)) : Prop where
  selectors : ∀ option ∈ options, ∃ cs, style.selector (nameOf cs) = .ok option.1
  bodies : ∀ option ∈ options, ∃ cs rest, body cs = .ok (option.2, rest)
  free : ∀ selector ∈ taken, ∀ option ∈ options, style.same selector option.1 = false
  distinct : options.Pairwise fun left right => style.same left.1 right.1 = false

theorem readOptions_read {fuel : Nat} {taken : List κ} {cs rest : List Char}
    {options : List (κ × List Node)}
    (read : readOptions length style body fuel taken cs = .ok (options, rest)) :
    OptionsRead style body taken options := by
  induction fuel generalizing taken cs options rest with
  | zero => contradiction
  | succ fuel ih =>
      unfold readOptions at read
      split at read
      · contradiction
      · cases read
        exact ⟨by simp, by simp, by simp, .nil⟩
      · obtain ⟨selector, readSelector, read⟩ := bind_eq_ok read
        split_ifs at read with isTaken
        obtain ⟨opened, _, read⟩ := bind_eq_ok read
        obtain ⟨⟨nodes, between⟩, readBody, read⟩ := bind_eq_ok read
        obtain ⟨closed, _, read⟩ := bind_eq_ok read
        obtain ⟨⟨more, after⟩, readMore, read⟩ := bind_eq_ok read
        cases read
        have ⟨selectors, bodies, free, distinct⟩ := ih readMore
        have isFree : ∀ earlier ∈ taken, style.same earlier selector = false := by
          simpa using isTaken
        refine ⟨?_, ?_, ?_, List.pairwise_cons.mpr ⟨?_, distinct⟩⟩
        · exact List.forall_mem_cons.mpr ⟨⟨_, readSelector⟩, selectors⟩
        · exact List.forall_mem_cons.mpr ⟨⟨opened, between, readBody⟩, bodies⟩
        · intro earlier member
          exact List.forall_mem_cons.mpr
            ⟨isFree earlier member, free earlier (List.mem_append_left _ member)⟩
        · exact free selector (by simp)

theorem readAllOptions_read {cs rest : List Char} {options : List (κ × List Node)}
    (read : readAllOptions length style body cs = .ok (options, rest)) :
    OptionsRead style body [] options ∧ Decisive style options := by
  obtain ⟨⟨all, after⟩, readAll, read⟩ := bind_eq_ok read
  dsimp only at read
  split_ifs at read with isDecided
  cases read
  have optionsRead := readOptions_read readAll
  exact ⟨optionsRead, optionsRead.distinct, List.any_eq_true.mp isDecided⟩

theorem selectSelector_eq_ok {token key : String} (read : selectSelector token = .ok key) :
    key = token ∧ token ≠ "" ∧ token.toList.head? ≠ some '=' := by
  unfold selectSelector at read
  split at read
  · contradiction
  · contradiction
  · next nonempty plain =>
      cases read
      refine ⟨rfl, fun empty => nonempty (by rw [empty]; rfl), fun starts => ?_⟩
      obtain ⟨rest, same⟩ := List.head?_eq_some_iff.mp starts
      exact plain rest same

variable {below levels : Nat} {name : String} {node : Node}

/-- The nodes that are read as arguments, with `below` levels inside them. -/
inductive ArgumentRead (length below : Nat) (name : String) : Node → Prop where
  | argument : ArgumentRead length below name (.argument name)
  | number : ArgumentRead length below name (.number name)
  | plural {kind : PluralKind} {offset : Binary64} {options : List (Selector × List Node)}
      {cs rest : List Char}
      (read : readAllOptions length pluralStyle
        (readMessage length (readArgument length below) .pluralOption) cs = .ok (options, rest)) :
      ArgumentRead length below name (.plural name kind offset options)
  | select {options : List (String × List Node)} {cs rest : List Char}
      (read : readAllOptions length selectStyle
        (readMessage length (readArgument length below) .selectOption) cs = .ok (options, rest)) :
      ArgumentRead length below name (.select name options)

theorem readStyled_node {cs rest : List Char} {wanted : Node}
    (read : readStyled length wanted cs = .ok (node, rest)) : node = wanted := by
  unfold readStyled at read
  dsimp only at read
  split at read
  · obtain ⟨styled, _, read⟩ := bind_eq_ok read
    obtain ⟨closed, _, read⟩ := bind_eq_ok read
    cases read
    rfl
  · obtain ⟨styled, _, read⟩ := bind_eq_ok read
    obtain ⟨closed, _, read⟩ := bind_eq_ok read
    cases read
    rfl

theorem readKind_read {cs rest : List Char}
    (read : readKind length (readMessage length (readArgument length below)) name cs =
      .ok (node, rest)) :
    ArgumentRead length below name node := by
  unfold readKind at read
  dsimp only at read
  split_ifs at read
  · cases readStyled_node read
    exact .number
  · cases readStyled_node read
    exact .argument
  · obtain ⟨comma, _, read⟩ := bind_eq_ok read
    obtain ⟨⟨offset, between⟩, _, read⟩ := bind_eq_ok read
    obtain ⟨⟨options, after⟩, readOptions, read⟩ := bind_eq_ok read
    cases read
    exact .plural readOptions
  · obtain ⟨comma, _, read⟩ := bind_eq_ok read
    obtain ⟨⟨offset, between⟩, _, read⟩ := bind_eq_ok read
    obtain ⟨⟨options, after⟩, readOptions, read⟩ := bind_eq_ok read
    cases read
    exact .plural readOptions
  · obtain ⟨comma, _, read⟩ := bind_eq_ok read
    obtain ⟨⟨options, after⟩, readOptions, read⟩ := bind_eq_ok read
    cases read
    exact .select readOptions

theorem readArgument_read {cs rest : List Char}
    (read : readArgument length levels cs = .ok (node, rest)) :
    ∃ below name, levels = below + 1 ∧ IsName name ∧ ArgumentRead length below name node := by
  cases levels with
  | zero => contradiction
  | succ below =>
      unfold readArgument at read
      dsimp only at read
      split_ifs at read with empty
      refine ⟨below, _, rfl, isName_nameOf empty, ?_⟩
      split at read
      · cases read
        exact .argument
      · exact readKind_read read
      · contradiction

variable {source : String} {template : List Node} {around : Nat}

/-- Reading with as many levels as are left inside the options gives the message. -/
def IsRead (context : Context) (around : Nat) (nodes : List Node) : Prop :=
  ∃ length levels cs rest, levels + around = maxLevels ∧
    readMessage length (readArgument length levels) context cs = .ok (nodes, rest)

theorem ArgumentRead.name?_eq {length below : Nat} {name : String}
    (read : ArgumentRead length below name node) : node.name? = some name := by
  cases read <;> rfl

theorem ArgumentRead.notText {length below : Nat} {name : String}
    (read : ArgumentRead length below name node) : node.isText = false := by
  cases read <;> rfl

theorem IsRead.mem (isRead : IsRead context around nodes) (member : node ∈ nodes) :
    (∃ text, node = .text text ∧ text ≠ "") ∨ (node = .pound ∧ context = .pluralOption) ∨
      ∃ length below name, below + (around + 1) = maxLevels ∧ IsName name ∧
        ArgumentRead length below name node := by
  obtain ⟨length, levels, cs, rest, sum, read⟩ := isRead
  rcases (readNodes_assembled read).mem member with text | pound | ⟨start, after, readNode⟩
  · exact .inl text
  · exact .inr (.inl pound)
  · obtain ⟨below, name, rfl, isName, argumentRead⟩ := readArgument_read readNode
    exact .inr (.inr ⟨length, below, name, by omega, isName, argumentRead⟩)

theorem IsRead.named (isRead : IsRead context around nodes) (member : node ∈ nodes)
    {name : String} (named : node.name? = some name) :
    ∃ length below, below + (around + 1) = maxLevels ∧ IsName name ∧
      ArgumentRead length below name node := by
  rcases isRead.mem member with ⟨_, rfl, _⟩ | ⟨rfl, _⟩ | ⟨length, below, other, sum, isName, read⟩
  · contradiction
  · contradiction
  · cases read.name?_eq.symm.trans named
    exact ⟨length, below, sum, isName, read⟩

theorem IsRead.plural {name : String} {kind : PluralKind} {offset : Binary64}
    {options : List (Selector × List Node)} (isRead : IsRead context around nodes)
    (member : .plural name kind offset options ∈ nodes) :
    Decisive pluralStyle options ∧
      ∀ option ∈ options, IsRead .pluralOption (around + 1) option.2 := by
  obtain ⟨length, below, sum, _, read⟩ := isRead.named member rfl
  cases read with
  | plural read =>
      have ⟨optionsRead, decisive⟩ := readAllOptions_read read
      refine ⟨decisive, fun option among => ?_⟩
      obtain ⟨cs, rest, readBody⟩ := optionsRead.bodies option among
      exact ⟨length, below, cs, rest, sum, readBody⟩

theorem IsRead.select {name : String} {options : List (String × List Node)}
    (isRead : IsRead context around nodes) (member : .select name options ∈ nodes) :
    Decisive selectStyle options ∧
      (∀ option ∈ options, IsName option.1 ∧ option.1.toList.head? ≠ some '=') ∧
      ∀ option ∈ options, IsRead .selectOption (around + 1) option.2 := by
  obtain ⟨length, below, sum, _, read⟩ := isRead.named member rfl
  cases read with
  | select read =>
      have ⟨optionsRead, decisive⟩ := readAllOptions_read read
      refine ⟨decisive, fun option among => ?_, fun option among => ?_⟩
      · obtain ⟨cs, readKey⟩ := optionsRead.selectors option among
        obtain ⟨same, nonempty, plain⟩ := selectSelector_eq_ok readKey
        rw [same]
        exact ⟨isName_nameOf nonempty, plain⟩
      · obtain ⟨cs, rest, readBody⟩ := optionsRead.bodies option among
        exact ⟨length, below, cs, rest, sum, readBody⟩

theorem IsRead.apart (isRead : IsRead context around nodes) : TextsApart nodes := by
  obtain ⟨length, levels, cs, rest, sum, read⟩ := isRead
  refine (readNodes_assembled read).apart fun start node after readNode => ?_
  obtain ⟨below, name, _, _, argumentRead⟩ := readArgument_read readNode
  exact argumentRead.notText

theorem IsRead.wellFormedAt (isRead : IsRead context around nodes) :
    WellFormedAt context around nodes := by
  constructor
  case texts =>
    intro text member
    rcases isRead.mem member with ⟨_, same, nonempty⟩ | ⟨same, _⟩ | ⟨_, _, _, _, _, read⟩
    · cases same
      exact nonempty
    · contradiction
    · contradiction
  case apart => exact isRead.apart
  case names =>
    intro node member name named
    obtain ⟨_, _, _, isName, _⟩ := isRead.named member named
    exact isName
  case shallow =>
    intro node member named
    obtain ⟨name, named⟩ := Option.isSome_iff_exists.mp named
    obtain ⟨_, below, sum, _, _⟩ := isRead.named member named
    unfold maxLevels at sum
    omega
  case pounds =>
    intro member
    rcases isRead.mem member with ⟨_, same, _⟩ | ⟨_, inPlural⟩ | ⟨_, _, _, _, _, read⟩
    · contradiction
    · exact inPlural
    · contradiction
  case plurals => exact fun name kind offset options member => (isRead.plural member).1
  case selects =>
    intro name options member
    obtain ⟨decisive, keys, _⟩ := isRead.select member
    exact ⟨decisive, keys⟩

theorem Message.isRead (read : parse source = .ok template)
    (message : Message template context around nodes) : IsRead context around nodes := by
  induction message with
  | whole =>
      obtain ⟨⟨all, rest⟩, readAll, read⟩ := bind_eq_ok read
      cases read
      exact ⟨_, maxLevels, _, rest, rfl, readAll⟩
  | pluralOption outer argument option ih => exact (ih.plural argument).2 _ option
  | selectOption outer argument option ih => exact (ih.select argument).2.2 _ option

theorem wellFormed_of_parse (read : parse source = .ok template) : WellFormed template :=
  fun message => (message.isRead read).wellFormedAt

end Phrasebook.Template
