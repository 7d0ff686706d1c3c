import Phrasebook.Error
import Phrasebook.Proofs.Template.WellFormed

namespace Phrasebook.Template

def Shortens {α : Type} (read : Parser α) : Prop :=
  ∀ {cs rest : List Char} {value : α}, read cs = .ok (value, rest) → rest <:+ cs

variable {length : Nat} {cs rest : List Char}

theorem dropBlanks_suffix (cs : List Char) : Text.dropBlanks cs <:+ cs :=
  List.dropWhile_suffix _

theorem afterName_suffix (cs : List Char) : afterName cs <:+ cs :=
  List.dropWhile_suffix _

theorem expect_eq_ok {wanted : Char} (found : expect length wanted cs = .ok rest) :
    cs = wanted :: rest := by
  cases cs with
  | nil => contradiction
  | cons c cs =>
      simp only [expect] at found
      split_ifs at found with same
      cases found
      rw [same]

theorem expect_suffix {wanted : Char} (found : expect length wanted cs = .ok rest) :
    rest <:+ cs := by
  rw [expect_eq_ok found]
  exact List.suffix_cons wanted rest

theorem quotedText_suffix (cs : List Char) : (quotedText cs).2 <:+ cs := by
  fun_induction quotedText cs with
  | case1 => exact List.suffix_refl []
  | case2 rest text after read ih =>
      rw [read] at ih
      exact (ih.trans (List.suffix_cons _ _)).trans (List.suffix_cons _ _)
  | case3 rest => exact List.suffix_cons _ _
  | case4 c rest _ _ text after read ih =>
      rw [read] at ih
      exact ih.trans (List.suffix_cons _ _)

theorem apostropheText_suffix (context : Context) (cs : List Char) :
    (apostropheText context cs).2 <:+ cs := by
  cases cs with
  | nil => exact List.suffix_refl []
  | cons c rest =>
      simp only [apostropheText]
      split_ifs
      · exact List.suffix_cons c rest
      · exact quotedText_suffix (c :: rest)
      · exact List.suffix_refl (c :: rest)

theorem skipStyle_suffix {nested : Nat} (skipped : skipStyle nested cs = .ok rest) :
    rest <:+ cs := by
  induction cs generalizing nested with
  | nil => contradiction
  | cons c cs ih =>
      unfold skipStyle at skipped
      split_ifs at skipped with opens closes
      · exact (ih skipped).trans (List.suffix_cons c cs)
      · cases nested with
        | zero =>
            cases skipped
            exact List.suffix_refl (c :: cs)
        | succ nested => exact (ih skipped).trans (List.suffix_cons c cs)
      · exact (ih skipped).trans (List.suffix_cons c cs)

theorem readOffset_shortens : Shortens readOffset := by
  intro cs rest offset read
  unfold readOffset at read
  dsimp only at read
  split_ifs at read with marked
  · split at read
    · cases read
      have token := (afterName_suffix _).trans
        (dropBlanks_suffix ((Text.dropBlanks cs).drop offsetMark.length))
      exact (token.trans (List.drop_suffix _ _)).trans (dropBlanks_suffix cs)
    · contradiction
  · cases read
    exact dropBlanks_suffix cs

/-- The node is no argument, or was read as one from some end of the characters. -/
def ReadFrom (argument : Parser Node) (cs : List Char) (node : Node) : Prop :=
  node.name? = none ∨
    ∃ start after, '\x7b' :: start <:+ cs ∧ argument start = .ok (node, after)

theorem ReadFrom.mono {argument : Parser Node} {inner : List Char} {node : Node}
    (readFrom : ReadFrom argument inner node) (within : inner <:+ cs) :
    ReadFrom argument cs node := by
  rcases readFrom with plain | ⟨start, after, opens, read⟩
  · exact .inl plain
  · exact .inr ⟨start, after, opens.trans within, read⟩

theorem forall_mem_flush {argument : Parser Node} {pending : List Char} {nodes : List Node}
    (all : ∀ node ∈ nodes, ReadFrom argument cs node) :
    ∀ node ∈ flush pending nodes, ReadFrom argument cs node := by
  cases pending with
  | nil => exact all
  | cons c pending => exact List.forall_mem_cons.mpr ⟨.inl rfl, all⟩

theorem readNodes_within {argument : Parser Node} (shortens : Shortens argument)
    {context : Context} {fuel : Nat} {pending : List Char} {nodes : List Node}
    (read : readNodes length argument context fuel pending cs = .ok (nodes, rest)) :
    rest <:+ cs ∧ ∀ node ∈ nodes, ReadFrom argument cs node := by
  induction fuel generalizing pending cs nodes rest with
  | zero =>
      cases read
      exact ⟨List.suffix_refl _, forall_mem_flush (by simp)⟩
  | succ fuel ih =>
      cases cs with
      | nil =>
          cases read
          exact ⟨List.suffix_refl _, forall_mem_flush (by simp)⟩
      | cons c cs =>
          have inside := List.suffix_cons c cs
          unfold readNodes at read
          split_ifs at read with opens closes top isPound isQuote
          · obtain ⟨⟨node, between⟩, readNode, read⟩ := bind_eq_ok read
            obtain ⟨⟨more, after⟩, readMore, read⟩ := bind_eq_ok read
            cases read
            obtain ⟨ends, others⟩ := ih readMore
            have left := (shortens readNode).trans inside
            refine ⟨ends.trans left, forall_mem_flush (List.forall_mem_cons.mpr ⟨?_, ?_⟩)⟩
            · exact .inr ⟨cs, between, opens ▸ List.suffix_refl _, readNode⟩
            · exact fun other member => (others other member).mono left
          · cases read
            exact ⟨List.suffix_refl _, forall_mem_flush (by simp)⟩
          · obtain ⟨⟨more, after⟩, readMore, read⟩ := bind_eq_ok read
            cases read
            obtain ⟨ends, others⟩ := ih readMore
            refine ⟨ends.trans inside, forall_mem_flush (List.forall_mem_cons.mpr ⟨.inl rfl, ?_⟩)⟩
            exact fun other member => (others other member).mono inside
          · obtain ⟨ends, others⟩ := ih read
            have left := (apostropheText_suffix context cs).trans inside
            exact ⟨ends.trans left, fun other member => (others other member).mono left⟩
          · obtain ⟨ends, others⟩ := ih read
            exact ⟨ends.trans inside, fun other member => (others other member).mono inside⟩

theorem readMessage_shortens {argument : Parser Node} (shortens : Shortens argument)
    (context : Context) : Shortens (readMessage length argument context) :=
  fun read => (readNodes_within shortens read).1

variable {κ : Type} {style : OptionStyle κ} {body : Parser (List Node)}
  {options : List (κ × List Node)}

theorem readOptions_within (shortens : Shortens body) {fuel : Nat} {taken : List κ}
    (read : readOptions length style body fuel taken cs = .ok (options, rest)) :
    rest <:+ cs ∧ ∀ option ∈ options, ∃ start after,
      start <:+ cs ∧ body start = .ok (option.2, after) := by
  induction fuel generalizing taken cs options rest with
  | zero => contradiction
  | succ fuel ih =>
      have inside := dropBlanks_suffix cs
      unfold readOptions at read
      split at read
      · contradiction
      · next after starts =>
          cases read
          rw [starts] at inside
          exact ⟨(List.suffix_cons _ _).trans inside, by simp⟩
      · obtain ⟨selector, _, read⟩ := bind_eq_ok read
        split_ifs at read
        obtain ⟨opened, isOpened, read⟩ := bind_eq_ok read
        obtain ⟨⟨nodes, between⟩, readBody, read⟩ := bind_eq_ok read
        obtain ⟨closed, isClosed, read⟩ := bind_eq_ok read
        obtain ⟨⟨more, after⟩, readMore, read⟩ := bind_eq_ok read
        cases read
        obtain ⟨ends, others⟩ := ih readMore
        have starts : opened <:+ cs :=
          (expect_suffix isOpened).trans
            ((dropBlanks_suffix _).trans ((afterName_suffix _).trans inside))
        have left : closed <:+ cs :=
          (expect_suffix isClosed).trans ((shortens readBody).trans starts)
        refine ⟨ends.trans left, List.forall_mem_cons.mpr
          ⟨⟨opened, between, starts, readBody⟩, fun option member => ?_⟩⟩
        obtain ⟨start, after, within, readOther⟩ := others option member
        exact ⟨start, after, within.trans left, readOther⟩

theorem readAllOptions_within (shortens : Shortens body)
    (read : readAllOptions length style body cs = .ok (options, rest)) :
    rest <:+ cs ∧ ∀ option ∈ options, ∃ start after,
      start <:+ cs ∧ body start = .ok (option.2, after) := by
  obtain ⟨⟨all, after⟩, readAll, read⟩ := bind_eq_ok read
  dsimp only at read
  split_ifs at read
  cases read
  exact readOptions_within shortens readAll

end Phrasebook.Template

namespace Phrasebook

/-- The word that announces the options of an argument. -/
def Node.keyword? : Node → Option String
  | .plural _ .cardinal _ _ => some "plural"
  | .plural _ .ordinal _ _ => some "selectordinal"
  | .select _ _ => some "select"
  | _ => none

/-- The bodies of the options of an argument. -/
def Node.bodies : Node → List (Template.Context × List Node)
  | .plural _ _ _ options => options.map fun option => (.pluralOption, option.2)
  | .select _ options => options.map fun option => (.selectOption, option.2)
  | _ => []

namespace Template

/-- A word with a comma after it, and blanks around the word. -/
structure Leads (word : String) (cs inner : List Char) : Prop where
  word : nameOf (Text.dropBlanks cs) = word
  comma : Text.dropBlanks (afterName (Text.dropBlanks cs)) = ',' :: inner

/-- What stands after the brace of an argument with options. -/
def Announces (name keyword : String) (cs : List Char) : Prop :=
  ∃ inner options, Leads name cs inner ∧ Leads keyword inner options

/-- What is read of an argument. -/
structure ArgumentWithin (body : Context → Parser (List Node)) (cs rest : List Char)
    (node : Node) : Prop where
  ends : rest <:+ cs
  bodies : ∀ message ∈ node.bodies, ∃ start after,
    start <:+ cs ∧ body message.1 start = .ok (message.2, after)

variable {length : Nat} {body : Context → Parser (List Node)} {cs inner rest : List Char}
  {name word : String} {node : Node}

theorem ArgumentWithin.mono (within : ArgumentWithin body inner rest node)
    (isInner : inner <:+ cs) :
    ArgumentWithin body cs rest node where
  ends := within.ends.trans isInner
  bodies message member := by
    obtain ⟨start, after, isStart, read⟩ := within.bodies message member
    exact ⟨start, after, isStart.trans isInner, read⟩

theorem readStyled_within (body : Context → Parser (List Node)) {wanted : Node}
    (plain : wanted.bodies = [])
    (read : readStyled length wanted cs = .ok (node, rest)) :
    node = wanted ∧ ArgumentWithin body cs rest node := by
  -- both with a style and without one
  have closes : ∀ {styled : List Char}, styled <:+ cs →
      (expect length '\x7d' (Text.dropBlanks styled) >>= fun closed => .ok (wanted, closed)) =
        .ok (node, rest) →
      node = wanted ∧ ArgumentWithin body cs rest node := by
    intro styled isStyled read
    obtain ⟨closed, isClosed, read⟩ := bind_eq_ok read
    cases read
    have ends := (expect_suffix isClosed).trans ((dropBlanks_suffix _).trans isStyled)
    exact ⟨rfl, ends, by simp [plain]⟩
  unfold readStyled at read
  dsimp only at read
  split at read
  · obtain ⟨styled, isStyled, read⟩ := bind_eq_ok read
    exact closes ((skipStyle_suffix isStyled).trans (List.suffix_cons _ _)) read
  · exact closes (List.suffix_refl _) read

theorem readPlural_within (shortens : Shortens (body .pluralOption)) {kind : PluralKind}
    (read : readPlural length (body .pluralOption) name kind cs = .ok (node, rest)) :
    (∃ offset options, node = .plural name kind offset options) ∧ (∃ inner, cs = ',' :: inner) ∧
      ArgumentWithin body cs rest node := by
  obtain ⟨comma, isComma, read⟩ := bind_eq_ok read
  obtain ⟨⟨offset, between⟩, readOffset, read⟩ := bind_eq_ok read
  obtain ⟨⟨options, after⟩, readOptions, read⟩ := bind_eq_ok read
  cases read
  obtain ⟨ends, bodies⟩ := readAllOptions_within shortens readOptions
  have left : between <:+ cs := (readOffset_shortens readOffset).trans (expect_suffix isComma)
  refine ⟨⟨offset, options, rfl⟩, ⟨comma, expect_eq_ok isComma⟩, ends.trans left, ?_⟩
  simp only [Node.bodies, List.forall_mem_map]
  intro option member
  obtain ⟨start, after, isStart, readBody⟩ := bodies option member
  exact ⟨start, after, isStart.trans left, readBody⟩

theorem readSelect_within (shortens : Shortens (body .selectOption))
    (read : readSelect length (body .selectOption) name cs = .ok (node, rest)) :
    (∃ options, node = .select name options) ∧ (∃ inner, cs = ',' :: inner) ∧
      ArgumentWithin body cs rest node := by
  obtain ⟨comma, isComma, read⟩ := bind_eq_ok read
  obtain ⟨⟨options, after⟩, readOptions, read⟩ := bind_eq_ok read
  cases read
  obtain ⟨ends, bodies⟩ := readAllOptions_within shortens readOptions
  have left : comma <:+ cs := expect_suffix isComma
  refine ⟨⟨options, rfl⟩, ⟨comma, expect_eq_ok isComma⟩, ends.trans left, ?_⟩
  simp only [Node.bodies, List.forall_mem_map]
  intro option member
  obtain ⟨start, after, isStart, readBody⟩ := bodies option member
  exact ⟨start, after, isStart.trans left, readBody⟩

theorem readKind_within (shortens : ∀ context, Shortens (body context))
    (read : readKind length body name cs = .ok (node, rest)) :
    ArgumentWithin body cs rest node ∧ ∀ keyword, node.keyword? = some keyword →
      node.name? = some name ∧ ∃ options, Leads keyword cs options := by
  have isRest : Text.dropBlanks (afterName (Text.dropBlanks cs)) <:+ cs :=
    (dropBlanks_suffix _).trans ((afterName_suffix _).trans (dropBlanks_suffix cs))
  unfold readKind at read
  dsimp only at read
  split_ifs at read with isNumber isDate isPlural isOrdinal isSelect
  · obtain ⟨rfl, within⟩ := readStyled_within body rfl read
    exact ⟨within.mono isRest, nofun⟩
  · obtain ⟨rfl, within⟩ := readStyled_within body rfl read
    exact ⟨within.mono isRest, nofun⟩
  · obtain ⟨⟨offset, options, rfl⟩, ⟨inner, comma⟩, within⟩ := readPlural_within (shortens _) read
    refine ⟨within.mono isRest, ?_⟩
    rintro _ ⟨⟩
    exact ⟨rfl, inner, isPlural, comma⟩
  · obtain ⟨⟨offset, options, rfl⟩, ⟨inner, comma⟩, within⟩ := readPlural_within (shortens _) read
    refine ⟨within.mono isRest, ?_⟩
    rintro _ ⟨⟩
    exact ⟨rfl, inner, isOrdinal, comma⟩
  · obtain ⟨⟨options, rfl⟩, ⟨inner, comma⟩, within⟩ := readSelect_within (shortens _) read
    refine ⟨within.mono isRest, ?_⟩
    rintro _ ⟨⟩
    exact ⟨rfl, inner, isSelect, comma⟩

theorem readArgument_within (levels : Nat)
    (read : readArgument length levels cs = .ok (node, rest)) :
    ∃ below, ArgumentWithin (readMessage length (readArgument length below)) cs rest node ∧
      ∀ keyword, node.keyword? = some keyword →
        ∃ name, node.name? = some name ∧ Announces name keyword cs := by
  induction levels generalizing cs rest node with
  | zero => contradiction
  | succ below ih =>
      have shortens : Shortens (readArgument length below) := fun read =>
        let ⟨_, within, _⟩ := ih read
        within.ends
      refine ⟨below, ?_⟩
      have isRest : Text.dropBlanks (afterName (Text.dropBlanks cs)) <:+ cs :=
        (dropBlanks_suffix _).trans ((afterName_suffix _).trans (dropBlanks_suffix cs))
      unfold readArgument at read
      dsimp only at read
      split_ifs at read with empty
      split at read
      · next after starts =>
          cases read
          rw [starts] at isRest
          exact ⟨⟨(List.suffix_cons _ _).trans isRest, by simp [Node.bodies]⟩, nofun⟩
      · next inner starts =>
          obtain ⟨within, announced⟩ := readKind_within (readMessage_shortens shortens) read
          rw [starts] at isRest
          refine ⟨within.mono ((List.suffix_cons _ _).trans isRest), fun keyword has => ?_⟩
          obtain ⟨named, options, leads⟩ := announced keyword has
          exact ⟨_, named, inner, options, ⟨rfl, starts⟩, leads⟩
      · contradiction

theorem readArgument_shortens (length levels : Nat) : Shortens (readArgument length levels) :=
  fun read =>
    let ⟨_, within, _⟩ := readArgument_within levels read
    within.ends

variable {source : String} {template nodes : List Node} {context : Context} {around : Nat}

/-- The message was read from some end of the characters. -/
def ReadWithin (cs : List Char) (context : Context) (nodes : List Node) : Prop :=
  ∃ length levels start rest, start <:+ cs ∧
    readMessage length (readArgument length levels) context start = .ok (nodes, rest)

/-- An argument with options stands somewhere in the characters of its message, and so do the
bodies of its options. -/
theorem ReadWithin.options (within : ReadWithin cs context nodes) (member : node ∈ nodes)
    {keyword : String} (has : node.keyword? = some keyword) :
    (∃ name start, node.name? = some name ∧ '\x7b' :: start <:+ cs ∧
      Announces name keyword start) ∧
      ∀ message ∈ node.bodies, ReadWithin cs message.1 message.2 := by
  obtain ⟨length, levels, start, rest, isStart, read⟩ := within
  rcases (readNodes_within (readArgument_shortens length levels) read).2 node member with
    plain | ⟨inside, after, opens, readNode⟩
  · cases node <;> contradiction
  · obtain ⟨below, ⟨_, bodies⟩, announced⟩ := readArgument_within levels readNode
    obtain ⟨name, named, announces⟩ := announced keyword has
    refine ⟨⟨name, inside, named, opens.trans isStart, announces⟩, fun message among => ?_⟩
    obtain ⟨body, left, isBody, readBody⟩ := bodies message among
    exact ⟨length, below, body, left,
      isBody.trans ((List.suffix_cons _ _).trans (opens.trans isStart)), readBody⟩

theorem Message.readWithin (read : parse source = .ok template)
    (message : Message template context around nodes) :
    ReadWithin source.toList context nodes := by
  induction message with
  | whole =>
      obtain ⟨⟨all, rest⟩, readAll, read⟩ := bind_eq_ok read
      cases read
      exact ⟨_, maxLevels, _, rest, List.suffix_refl _, readAll⟩
  | @pluralOption context around nodes body name kind offset options selector outer argument option
      ih =>
      obtain ⟨keyword, has⟩ : ∃ keyword,
          (Node.plural name kind offset options).keyword? = some keyword := by
        cases kind <;> exact ⟨_, rfl⟩
      exact (ih.options argument has).2 (.pluralOption, body) (List.mem_map_of_mem option)
  | @selectOption context around nodes body name options key outer argument option ih =>
      exact (ih.options argument rfl).2 (.selectOption, body) (List.mem_map_of_mem option)

end Template

end Phrasebook
