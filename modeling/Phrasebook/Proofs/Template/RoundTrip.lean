import Phrasebook.Proofs.Template.Reading

namespace Phrasebook.Template

/-! A well-formed template is what is read from its text.

A message is read back for all that can follow it, once the arguments in it are; arguments are read
back from the innermost messages outward, with as many levels left as options are not yet around
them.
-/

/-- What can follow a message. -/
inductive Ends : Context → List Char → Prop where
  | top : Ends .top []
  | option {context : Context} {rest : List Char} (inside : context ≠ .top) :
      Ends context ('\x7d' :: rest)

/-- The argument is read from its text, whatever follows it. -/
def ArgumentReadable (argument : Parser Node) (context : Context) (node : Node) : Prop :=
  ∃ inner, nodeSource context node = '\x7b' :: inner ∧
    ∀ rest, argument (inner ++ rest) = .ok (unsignedNode node, rest)

structure MessageReadable (argument : Parser Node) (context : Context) (nodes : List Node) :
    Prop where
  texts : ∀ text, .text text ∈ nodes → text ≠ ""
  apart : TextsApart nodes
  pounds : .pound ∈ nodes → context = .pluralOption
  arguments : ∀ node ∈ nodes, node.name?.isSome → ArgumentReadable argument context node

variable {length fuel : Nat} {argument : Parser Node} {context : Context}
  {pending rest after : List Char} {node : Node} {nodes : List Node}

theorem MessageReadable.tail (readable : MessageReadable argument context (node :: nodes)) :
    MessageReadable argument context nodes where
  texts := fun text member => readable.texts text (List.mem_cons_of_mem _ member)
  apart := (List.isChain_cons.mp readable.apart).2
  pounds := fun member => readable.pounds (List.mem_cons_of_mem _ member)
  arguments := (List.forall_mem_cons.mp readable.arguments).2

theorem readNodes_end (ends : Ends context rest) :
    readNodes length argument context fuel pending rest = .ok (flush pending [], rest) := by
  cases fuel with
  | zero => rfl
  | succ fuel =>
      cases ends with
      | top => rfl
      | option inside => rw [readNodes, if_neg (by decide), if_pos rfl, if_neg inside]

theorem readNodes_argument (readable : ArgumentReadable argument context node)
    (more : readNodes length argument context fuel [] rest = .ok (nodes, after)) :
    readNodes length argument context (fuel + 1) pending (nodeSource context node ++ rest) =
      .ok (flush pending (unsignedNode node :: nodes), after) := by
  obtain ⟨inner, starts, reads⟩ := readable
  rw [starts, List.cons_append, readNodes, if_pos rfl]
  simp only [reads rest, ok_bind, more]

theorem readNodes_pound (inPlural : context = .pluralOption)
    (more : readNodes length argument context fuel [] rest = .ok (nodes, after)) :
    readNodes length argument context (fuel + 1) pending ('#' :: rest) =
      .ok (flush pending (.pound :: nodes), after) := by
  rw [readNodes, if_neg (by decide), if_neg (by decide), if_pos ⟨rfl, inPlural⟩]
  simp only [ok_bind, more]

/-- A text is followed by an argument, a pound sign or the end, and never by an apostrophe. -/
theorem messageSource_lone (readable : MessageReadable argument context (node :: nodes))
    (isText : node.isText = true) (ends : Ends context rest) :
    (messageSource context nodes ++ rest).head? ≠ some '\'' := by
  cases nodes with
  | nil =>
      change rest.head? ≠ some '\''
      cases ends <;> simp
  | cons next nodes =>
      have notText : next.isText = false :=
        (List.isChain_cons.mp readable.apart).1 next rfl isText
      have arguments := readable.tail.arguments next List.mem_cons_self
      cases next with
      | text text => contradiction
      | pound => simp [messageSource, nodeSource]
      | _ =>
          obtain ⟨inner, starts, _⟩ := arguments rfl
          rw [messageSource, starts]
          simp

theorem flush_text {text : String} (nonempty : text ≠ "") (nodes : List Node) :
    flush (text.toList.reverse ++ []) nodes = .text text :: nodes := by
  have reversed : text.toList.reverse ≠ [] := by simpa using nonempty
  obtain ⟨c, cs, starts⟩ := List.exists_cons_of_ne_nil reversed
  have back : (c :: cs).reverse = text.toList := by rw [← starts, List.reverse_reverse]
  rw [List.append_nil, starts, flush, back, String.ofList_toList]
  exact List.cons_ne_nil c cs

theorem readNodes_messageSource (readable : MessageReadable argument context nodes)
    (ends : Ends context rest) (fresh : pending = [] ∨ ∀ node ∈ nodes.head?, node.isText = false)
    (room : (messageSource context nodes ++ rest).length ≤ fuel) :
    readNodes length argument context fuel pending (messageSource context nodes ++ rest) =
      .ok (flush pending (unsignedMessage nodes), rest) := by
  induction nodes generalizing pending fuel with
  | nil => exact readNodes_end ends
  | cons node nodes ih =>
      have whole : messageSource context (node :: nodes) ++ rest =
          nodeSource context node ++ (messageSource context nodes ++ rest) := by
        rw [messageSource, List.append_assoc]
      have follows : node.isText = true → ∀ next ∈ nodes.head?, next.isText = false :=
        fun isText next isNext => (List.isChain_cons.mp readable.apart).1 next isNext isText
      rw [whole] at room ⊢
      rw [unsignedMessage]
      cases node with
      | text text =>
          -- Nothing can be pending before a text: what was read before it is not a text.
          have nonempty := readable.texts text List.mem_cons_self
          have isFresh : pending = [] := by
            refine fresh.resolve_right fun notText => ?_
            exact absurd (notText _ rfl) (by simp [Node.isText])
          subst isFresh
          obtain ⟨left, enough, same⟩ :=
            readNodes_textSource (messageSource_lone readable rfl ends) room
          rw [nodeSource, same, ih readable.tail (.inr (follows rfl)) enough, flush_text nonempty]
          rfl
      | pound =>
          have inPlural := readable.pounds List.mem_cons_self
          obtain ⟨less, rfl⟩ := Nat.exists_eq_add_of_lt room
          exact readNodes_pound inPlural (ih readable.tail (.inl rfl) (Nat.le_add_right _ less))
      | _ =>
          obtain ⟨inner, starts, reads⟩ := readable.arguments _ List.mem_cons_self rfl
          rw [starts, List.cons_append, List.length_cons, List.length_append] at room
          obtain ⟨less, rfl⟩ := Nat.exists_eq_add_of_lt room
          exact readNodes_argument ⟨inner, starts, reads⟩
            (ih readable.tail (.inl rfl) (by omega))

theorem readMessage_messageSource (readable : MessageReadable argument context nodes)
    (ends : Ends context rest) :
    readMessage length argument context (messageSource context nodes ++ rest) =
      .ok (unsignedMessage nodes, rest) :=
  readNodes_messageSource readable ends (.inl rfl) (Nat.le_refl _)

variable {levels around : Nat} {template : List Node} {name : String}

theorem argumentReadable_argument (isName : IsName name) :
    ArgumentReadable (readArgument length (levels + 1)) context (.argument name) := by
  refine ⟨name.toList ++ ['\x7d'], rfl, fun rest => ?_⟩
  rw [List.append_assoc]
  exact readArgument_argument isName

/-- An argument with a kind is read if what follows its name is. -/
theorem argumentReadable_kind {kind : String} {node : Node} {inner : List Char}
    (isName : IsName name) (written : nodeSource context node = kindSource name kind inner)
    (reads : ∀ rest, readKind length (readMessage length (readArgument length levels)) name
      (' ' :: (kind.toList ++ (inner ++ rest))) = .ok (unsignedNode node, rest)) :
    ArgumentReadable (readArgument length (levels + 1)) context node := by
  refine ⟨_, written, fun rest => ?_⟩
  simp only [List.append_assoc, List.cons_append]
  rw [readArgument_kind isName, reads rest]

theorem optionsReadable_plural {options : List (Selector × List Node)}
    (isNumber : ∀ option ∈ options, option.1 ≠ .exact .nan)
    (bodies : ∀ option ∈ options, MessageReadable argument .pluralOption option.2) :
    OptionsReadable pluralStyle (readMessage length argument .pluralOption) Selector.text
      .pluralOption options where
  names := fun option among => isName_selector (isNumber option among)
  selectors := fun option among => pluralSelector_text (isNumber option among)
  bodies := fun option among _ =>
    readMessage_messageSource (bodies option among) (.option (by decide))

theorem optionsReadable_select {options : List (String × List Node)}
    (keys : ∀ option ∈ options, IsName option.1 ∧ option.1.toList.head? ≠ some '=')
    (bodies : ∀ option ∈ options, MessageReadable argument .selectOption option.2) :
    OptionsReadable selectStyle (readMessage length argument .selectOption) id .selectOption
      options where
  names := fun option among => (keys option among).1
  selectors := fun option among =>
    selectSelector_key (keys option among).1 (keys option among).2
  bodies := fun option among _ =>
    readMessage_messageSource (bodies option among) (.option (by decide))

theorem Message.readable (wellFormed : WellFormed template) (nanFree : NanFree template)
    (message : Message template context around nodes) (sum : levels + around = maxLevels) :
    MessageReadable (readArgument length levels) context nodes := by
  induction message using wellFormed.inward generalizing levels with
  | @step context around nodes message plurals selects =>
      have wellFormedAt := wellFormed message
      refine ⟨wellFormedAt.texts, wellFormedAt.apart, wellFormedAt.pounds, ?_⟩
      intro node member named
      have shallow := wellFormedAt.shallow node member named
      have names := wellFormedAt.names node member
      obtain ⟨below, rfl⟩ : ∃ below, levels = below + 1 := by
        unfold maxLevels at sum
        exact Nat.exists_eq_succ_of_ne_zero (by omega)
      have inside : below + (around + 1) = maxLevels := by omega
      cases node with
      | text text => contradiction
      | pound => contradiction
      | argument name => exact argumentReadable_argument (names name rfl)
      | number name => exact argumentReadable_kind (names name rfl) rfl fun rest => readKind_number
      | plural name kind offset options =>
          obtain ⟨notNan, isNumber⟩ := nanFree message name kind offset options member
          have decisive := wellFormedAt.plurals name kind offset options member
          refine argumentReadable_kind (names name rfl) rfl fun rest => ?_
          simp only [List.append_assoc, List.cons_append]
          rw [readKind_plural]
          refine readPlural_source kind notNan isNumber ?_ decisive
          exact optionsReadable_plural isNumber fun option among =>
            plurals name kind offset options member option among inside
      | select name options =>
          obtain ⟨decisive, keys⟩ := wellFormedAt.selects name options member
          refine argumentReadable_kind (names name rfl) rfl fun rest => ?_
          simp only [List.append_assoc, List.cons_append]
          rw [readKind_select]
          refine readSelect_source ?_ decisive
          exact optionsReadable_select keys fun option among =>
            selects name options member option among inside

theorem parse_source_eq (wellFormed : WellFormed template) (nanFree : NanFree template) :
    parse (source template) = .ok (unsignedMessage template) := by
  have written : (source template).toList = messageSource .top template := String.toList_ofList
  have readable : ∀ length, MessageReadable (readArgument length maxLevels) .top template :=
    fun length => Message.readable wellFormed nanFree .whole rfl
  have read : ∀ length, readMessage length (readArgument length maxLevels) .top
      (messageSource .top template) = .ok (unsignedMessage template, []) := by
    intro length
    have whole : readMessage length (readArgument length maxLevels) .top
        (messageSource .top template ++ []) = .ok (unsignedMessage template, []) :=
      readMessage_messageSource (readable length) .top
    rwa [List.append_nil] at whole
  unfold parse
  simp only [written, read, ok_bind]
  rfl

/-- A well-formed template is read from its text, up to the sign of a zero that is subtracted. -/
theorem parse_source (wellFormed : WellFormed template) (nanFree : NanFree template) :
    (∃ read, parse (source template) = .ok read ∧ sameMessage read template = true) ∧
      (PlainOffsets template → parse (source template) = .ok template) := by
  have read := parse_source_eq wellFormed nanFree
  refine ⟨⟨_, read, sameMessage_unsigned wellFormed nanFree .whole⟩, fun plain => ?_⟩
  rw [read, unsignedMessage_eq_self wellFormed plain .whole]

example :
    source [.argument "host", .text "'s \x7blist\x7d: #"] =
      "\x7bhost\x7d''s '\x7blist\x7d: #'" := by
  rfl

def oneGuest : Binary64 :=
  .finite false ⟨Nat.pow 2 52, 1022, by decide⟩

def noSeat : List Node :=
  [.text "no \x7bseat\x7d"]

def seatsLeft : List Node :=
  [.argument "host", .text "'s ", .pound]

def seats : List Node :=
  [.plural "n" .cardinal oneGuest [(.exact .zero, noSeat), (.category .other, seatsLeft)]]

theorem seats_messages {context : Context} {around : Nat} {nodes : List Node}
    (message : Message seats context around nodes) :
    (context = .top ∧ around = 0 ∧ nodes = seats) ∨
      (context = .pluralOption ∧ around = 1 ∧ (nodes = noSeat ∨ nodes = seatsLeft)) := by
  induction message with
  | whole => simp
  | pluralOption outer argument option ih =>
      rcases ih with ⟨rfl, rfl, rfl⟩ | ⟨rfl, rfl, rfl | rfl⟩
      · simp only [seats, List.mem_singleton] at argument
        cases argument
        simp only [List.mem_cons] at option
        rcases option with option | option | option
        · cases option
          simp
        · cases option
          simp
        · contradiction
      · simp [noSeat] at argument
      · simp [seatsLeft] at argument
  | selectOption outer argument option ih =>
      rcases ih with ⟨rfl, rfl, rfl⟩ | ⟨rfl, rfl, rfl | rfl⟩
      · simp [seats] at argument
      · simp [noSeat] at argument
      · simp [seatsLeft] at argument

theorem seats_decisive :
    Decisive pluralStyle [(.exact .zero, noSeat), (.category .other, seatsLeft)] where
  distinct := by simp [pluralStyle, Selector.same]
  other := ⟨(.category .other, seatsLeft), by simp, rfl⟩

theorem seats_wellFormed : WellFormed seats := by
  intro context around nodes message
  have isName : IsName "n" ∧ IsName "host" := by decide
  rcases seats_messages message with ⟨rfl, rfl, rfl⟩ | ⟨rfl, rfl, rfl | rfl⟩
  · constructor
    case plurals =>
      intro name kind offset options member
      simp only [seats, List.mem_singleton] at member
      cases member
      exact seats_decisive
    all_goals simp [seats, TextsApart, Node.name?, isName]
  · constructor <;> simp [noSeat, TextsApart, Node.name?]
  · constructor <;> simp [seatsLeft, TextsApart, Node.name?, Node.isText, isName]

theorem seats_numbers {context : Context} {around : Nat} {nodes : List Node}
    (message : Message seats context around nodes) {name : String} {kind : PluralKind}
    {offset : Binary64} {options : List (Selector × List Node)}
    (member : .plural name kind offset options ∈ nodes) :
    offset = oneGuest ∧ options = [(.exact .zero, noSeat), (.category .other, seatsLeft)] := by
  rcases seats_messages message with ⟨rfl, rfl, rfl⟩ | ⟨rfl, rfl, rfl | rfl⟩
  · simp only [seats, List.mem_singleton] at member
    cases member
    exact ⟨rfl, rfl⟩
  · simp [noSeat] at member
  · simp [seatsLeft] at member

theorem seats_nanFree : NanFree seats := by
  intro context around nodes message name kind offset options member
  obtain ⟨rfl, rfl⟩ := seats_numbers message member
  simp [oneGuest, Binary64.zero]

theorem seats_plainOffsets : PlainOffsets seats := by
  intro context around nodes message name kind offset options member
  obtain ⟨rfl, rfl⟩ := seats_numbers message member
  simp [oneGuest]

theorem parse_source_seats :
    WellFormed seats ∧ NanFree seats ∧ PlainOffsets seats ∧ parse (source seats) = .ok seats :=
  ⟨seats_wellFormed, seats_nanFree, seats_plainOffsets,
    (parse_source seats_wellFormed seats_nanFree).2 seats_plainOffsets⟩

end Phrasebook.Template
