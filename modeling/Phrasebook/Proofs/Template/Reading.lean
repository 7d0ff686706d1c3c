import Mathlib.Data.List.DropRight
import Mathlib.Data.List.TakeWhile
import Phrasebook.Proofs.Number.Text
import Phrasebook.Error
import Phrasebook.Proofs.Template.Sameness
import Phrasebook.Proofs.Template.Source

namespace Phrasebook

namespace Template

variable {name : String} {c : Char} {cs rest : List Char}

theorem IsName.chars (isName : IsName name) : ∀ c ∈ name.toList, isNameChar c = true :=
  List.all_eq_true.mp (isName_iff.mp isName).2

theorem IsName.cons (isName : IsName name) :
    ∃ c cs, name.toList = c :: cs ∧ isNameChar c = true := by
  have nonempty : name.toList ≠ [] :=
    fun empty => isName.nonempty (String.toList_eq_nil_iff.mp empty)
  obtain ⟨c, cs, starts⟩ := List.exists_cons_of_ne_nil nonempty
  exact ⟨c, cs, starts, isName.chars c (starts ▸ List.mem_cons_self)⟩

theorem nameOf_append (isName : IsName name) (stops : isNameChar c = false) :
    nameOf (name.toList ++ c :: rest) = name := by
  have stopped : (c :: rest).takeWhile isNameChar = [] :=
    List.takeWhile_cons_of_neg (by rw [stops]; exact Bool.false_ne_true)
  rw [nameOf, List.takeWhile_append_of_pos isName.chars, stopped, List.append_nil,
    String.ofList_toList]

theorem afterName_append (isName : IsName name) (stops : isNameChar c = false) :
    afterName (name.toList ++ c :: rest) = c :: rest := by
  rw [afterName, List.dropWhile_append_of_pos isName.chars]
  exact List.dropWhile_cons_of_neg (by rw [stops]; exact Bool.false_ne_true)

theorem dropBlanks_of_plain (plain : Text.isBlank c = false) :
    Text.dropBlanks (c :: cs) = c :: cs :=
  List.dropWhile_cons_of_neg (by rw [plain]; exact Bool.false_ne_true)

theorem dropBlanks_space : Text.dropBlanks (' ' :: cs) = Text.dropBlanks cs :=
  List.dropWhile_cons_of_pos (by decide)

theorem dropBlanks_name (isName : IsName name) :
    Text.dropBlanks (name.toList ++ rest) = name.toList ++ rest := by
  obtain ⟨c, cs, starts, isChar⟩ := isName.cons
  rw [starts]
  exact dropBlanks_of_plain (isNameChar_iff.mp isChar).1

theorem isBlank_of_isDigit (isDigit : c.isDigit = true) : Text.isBlank c = false := by
  have apart : ∀ range ∈ Text.blankRanges, range.2 < 48 ∨ 57 < range.1 := by decide
  have within : 48 ≤ c.toNat ∧ c.toNat ≤ 57 := by
    simpa [Char.isDigit, UInt32.le_iff_toNat_le] using isDigit
  refine Bool.eq_false_iff.mpr fun blank => ?_
  obtain ⟨range, member, above, below⟩ := Text.inRanges_iff.mp blank
  rcases apart range member with lower | higher
  · omega
  · omega

theorem isNameChar_of_isDigit (isDigit : c.isDigit = true) : isNameChar c = true := by
  have marks : ['\x7b', '\x7d', ',', '#', '\''].all (!·.isDigit) = true := by decide
  refine isNameChar_iff.mpr ⟨isBlank_of_isDigit isDigit, fun member => ?_⟩
  have notDigit := List.all_eq_true.mp marks c member
  rw [isDigit] at notDigit
  contradiction

variable {number : Binary64} {selector : Selector} {key : String}

theorem isNameChar_of_mem_text (isNumber : number ≠ .nan) :
    ∀ c ∈ number.text, isNameChar c = true := by
  intro c member
  have letters : ['-', '.', 'i', 'n', 'f'].all isNameChar = true := by decide
  exact (Binary64.mem_text isNumber member).elim isNameChar_of_isDigit
    (List.all_eq_true.mp letters c)

theorem isName_ofList {cs : List Char} (nonempty : cs ≠ [])
    (chars : ∀ c ∈ cs, isNameChar c = true) : IsName (String.ofList cs) := by
  refine isName_iff.mpr ⟨fun empty => nonempty ?_, ?_⟩
  · rw [← String.toList_ofList (l := cs), empty]
    rfl
  · rw [String.toList_ofList]
    exact List.all_eq_true.mpr chars

theorem isName_number (isNumber : number ≠ .nan) : IsName (String.ofList number.text) :=
  isName_ofList number.text_ne_nil (isNameChar_of_mem_text isNumber)

theorem isName_selector (isNumber : selector ≠ .exact .nan) : IsName selector.text := by
  cases selector with
  | category name => cases name <;> decide
  | exact number =>
      have notNan : number ≠ .nan := mt (congrArg Selector.exact) isNumber
      refine isName_ofList (List.cons_ne_nil _ _) (List.forall_mem_cons.mpr ⟨by decide, ?_⟩)
      exact isNameChar_of_mem_text notNan

theorem pluralSelector_text (isNumber : selector ≠ .exact .nan) :
    pluralSelector selector.text = .ok selector := by
  cases selector with
  | category name => cases name <;> rfl
  | exact number =>
      have notNan : number ≠ .nan := mt (congrArg Selector.exact) isNumber
      simp only [pluralSelector, Selector.text, String.toList_ofList, Binary64.read?_text notNan]

theorem selectSelector_key (isName : IsName key) (plain : key.toList.head? ≠ some '=') :
    selectSelector key = .ok key := by
  obtain ⟨c, cs, starts, _⟩ := isName.cons
  rw [starts, List.head?_cons] at plain
  unfold selectSelector
  rw [starts]
  split
  · contradiction
  · next same =>
      cases same
      contradiction
  · rfl

variable {length fuel : Nat} {argument : Parser Node} {context : Context} {pending text : List Char}

theorem quotedText_cons (plain : c ≠ '\'') :
    quotedText (c :: cs) = (c :: (quotedText cs).1, (quotedText cs).2) := by
  rw [quotedText]
  · exact fun rest same => absurd same plain
  · exact plain

theorem doubled_plain (plain : c ≠ '\'') : doubled (c :: text) = c :: doubled text := by
  simp [doubled, plain]

theorem quotedText_doubled (lone : rest.head? ≠ some '\'') :
    quotedText (doubled text ++ '\'' :: rest) = (text, rest) := by
  induction text with
  | nil =>
      change quotedText ('\'' :: rest) = ([], rest)
      rw [quotedText]
      intro after same
      rw [same] at lone
      contradiction
  | cons c text ih =>
      by_cases isQuote : c = '\''
      · subst isQuote
        change quotedText ('\'' :: '\'' :: (doubled text ++ '\'' :: rest)) = _
        rw [quotedText, ih]
      · rw [doubled_plain isQuote, List.cons_append, quotedText_cons isQuote, ih]

theorem readNodes_plain (unquoted : opensQuote context c = false) (notQuote : c ≠ '\'') :
    readNodes length argument context (fuel + 1) pending (c :: cs) =
      readNodes length argument context fuel (c :: pending) cs := by
  have notSpecial : c ≠ '\x7b' ∧ c ≠ '\x7d' ∧ ¬(c = '#' ∧ context = .pluralOption) := by
    simpa [opensQuote, and_assoc] using unquoted
  rw [readNodes, if_neg notSpecial.1, if_neg notSpecial.2.1, if_neg notSpecial.2.2,
    if_neg notQuote]

theorem readNodes_apostrophe (stands : apostropheText context cs = (text, rest)) :
    readNodes length argument context (fuel + 1) pending ('\'' :: cs) =
      readNodes length argument context fuel (text.reverse ++ pending) rest := by
  rw [readNodes, if_neg (by decide), if_neg (by decide), if_neg (by simp), if_pos rfl, stands]

theorem opensQuote_apostrophe (context : Context) : opensQuote context '\'' = false := by
  simp [opensQuote]

theorem apostropheText_quoted (opens : opensQuote context c = true)
    (lone : rest.head? ≠ some '\'') :
    apostropheText context (doubled (c :: text) ++ '\'' :: rest) = (c :: text, rest) := by
  have notQuote : c ≠ '\'' := by
    rintro rfl
    rw [opensQuote_apostrophe] at opens
    contradiction
  have whole : quotedText (doubled (c :: text) ++ '\'' :: rest) = (c :: text, rest) :=
    quotedText_doubled lone
  rw [doubled_plain notQuote, List.cons_append] at whole ⊢
  rw [apostropheText, if_neg notQuote, if_pos opens, whole]

theorem textSource_special (opens : opensQuote context c = true) :
    textSource context (c :: text) ++ rest = '\'' :: (doubled (c :: text) ++ '\'' :: rest) := by
  rw [textSource, if_pos opens]
  simp

theorem textSource_apostrophe :
    textSource context ('\'' :: text) ++ rest =
      '\'' :: '\'' :: (textSource context text ++ rest) := by
  rw [textSource, opensQuote_apostrophe]
  rfl

theorem textSource_plain (unquoted : opensQuote context c = false) (notQuote : c ≠ '\'') :
    textSource context (c :: text) ++ rest = c :: (textSource context text ++ rest) := by
  have closed : ¬(opensQuote context c = true) := Bool.eq_false_iff.mp unquoted
  rw [textSource, if_neg closed, doubled_plain notQuote]
  rfl

/-- Reading the text of a text node adds it to the pending text. -/
theorem readNodes_textSource (lone : rest.head? ≠ some '\'')
    (room : (textSource context text ++ rest).length ≤ fuel) :
    ∃ left, rest.length ≤ left ∧
      readNodes length argument context fuel pending (textSource context text ++ rest) =
        readNodes length argument context left (text.reverse ++ pending) rest := by
  induction text generalizing fuel pending with
  | nil => exact ⟨fuel, room, rfl⟩
  | cons c text ih =>
      have later : (c :: text).reverse ++ pending = text.reverse ++ c :: pending := by simp
      by_cases opens : opensQuote context c = true
      · rw [textSource_special opens, List.length_cons] at room
        obtain ⟨less, rfl⟩ := Nat.exists_eq_add_of_lt room
        rw [textSource_special opens, readNodes_apostrophe (apostropheText_quoted opens lone)]
        refine ⟨_, ?_, rfl⟩
        rw [List.length_append, List.length_cons]
        omega
      · have unquoted : opensQuote context c = false := Bool.eq_false_iff.mpr opens
        by_cases isQuote : c = '\''
        · subst isQuote
          rw [textSource_apostrophe, List.length_cons, List.length_cons] at room
          obtain ⟨less, rfl⟩ := Nat.exists_eq_add_of_lt room
          rw [textSource_apostrophe, readNodes_apostrophe rfl, later]
          exact ih (by omega)
        · rw [textSource_plain unquoted isQuote, List.length_cons] at room
          obtain ⟨less, rfl⟩ := Nat.exists_eq_add_of_lt room
          rw [textSource_plain unquoted isQuote, readNodes_plain unquoted isQuote, later]
          exact ih (by omega)

/-- The options of an argument, whatever their selectors are. -/
def optionsSource {κ : Type} (text : κ → String) (body : List Node → List Char)
    (options : List (κ × List Node)) : List Char :=
  options.flatMap fun option => optionSource (text option.1) (body option.2)

theorem pluralSource_eq (options : List (Selector × List Node)) :
    pluralSource options = optionsSource Selector.text (messageSource .pluralOption) options := by
  induction options with
  | nil => rfl
  | cons option options ih =>
      rw [pluralSource, ih, optionsSource, optionsSource, List.flatMap_cons]

theorem selectSource_eq (options : List (String × List Node)) :
    selectSource options = optionsSource id (messageSource .selectOption) options := by
  induction options with
  | nil => rfl
  | cons option options ih =>
      rw [selectSource, ih, optionsSource, optionsSource, List.flatMap_cons, id]

variable {κ : Type} {style : OptionStyle κ} {body : Parser (List Node)} {taken : List κ} {key : κ}
  {token : String} {after : List Char} {nodes : List Node} {options : List (κ × List Node)}

theorem expect_self (length : Nat) (wanted : Char) (rest : List Char) :
    expect length wanted (wanted :: rest) = .ok rest :=
  if_pos rfl

theorem readOptions_option (isName : IsName token) (reads : style.selector token = .ok key)
    (free : ∀ earlier ∈ taken, style.same earlier key = false)
    (readBody : body (text ++ '\x7d' :: rest) = .ok (nodes, '\x7d' :: rest))
    (more : readOptions length style body fuel (taken ++ [key]) rest = .ok (options, after)) :
    readOptions length style body (fuel + 1) taken (optionSource token text ++ rest) =
      .ok ((key, nodes) :: options, after) := by
  have written : optionSource token text ++ rest =
      ' ' :: (token.toList ++ ' ' :: '\x7b' :: (text ++ '\x7d' :: rest)) := by
    simp [optionSource]
  have notTaken : ¬(taken.any (style.same · key) = true) := by simpa using free
  obtain ⟨c, cs, starts, isChar⟩ := isName.cons
  have notClosing : c ≠ '\x7d' := by
    rintro rfl
    contradiction
  rw [written]
  unfold readOptions
  rw [dropBlanks_space, dropBlanks_name isName]
  -- A selector neither ends the template nor closes the argument.
  split
  · next nothing =>
      rw [starts] at nothing
      contradiction
  · next closing =>
      rw [starts] at closing
      exact absurd (List.cons.inj closing).1 notClosing
  · rw [nameOf_append isName (by decide), afterName_append isName (by decide), dropBlanks_space,
      dropBlanks_of_plain (by decide), expect_self]
    simp only [reads, ok_bind, if_neg notTaken, readBody, expect_self, more]

/-- Blanks before options do not matter, not even that `readOffset` has already dropped them. -/
theorem readOptions_congr {left right : List Char}
    (same : Text.dropBlanks left = Text.dropBlanks right) :
    readOptions length style body fuel taken left =
      readOptions length style body fuel taken right := by
  cases fuel with
  | zero => rfl
  | succ fuel =>
      unfold readOptions
      rw [same]

theorem length_dropBlanks_le (cs : List Char) : (Text.dropBlanks cs).length ≤ cs.length :=
  (List.dropWhile_sublist _).length_le

variable {word : κ → String}

/-- Options that are read one by one as they are written. -/
structure OptionsReadable (style : OptionStyle κ) (body : Parser (List Node))
    (word : κ → String) (context : Context) (options : List (κ × List Node)) : Prop where
  names : ∀ option ∈ options, IsName (word option.1)
  selectors : ∀ option ∈ options, style.selector (word option.1) = .ok option.1
  bodies : ∀ option ∈ options, ∀ rest,
    body (messageSource context option.2 ++ '\x7d' :: rest) =
      .ok (unsignedMessage option.2, '\x7d' :: rest)

theorem OptionsReadable.tail {option : κ × List Node}
    (readable : OptionsReadable style body word context (option :: options)) :
    OptionsReadable style body word context options where
  names := (List.forall_mem_cons.mp readable.names).2
  selectors := (List.forall_mem_cons.mp readable.selectors).2
  bodies := (List.forall_mem_cons.mp readable.bodies).2

theorem readOptions_optionsSource
    (readable : OptionsReadable style body word context options)
    (distinct : options.Pairwise fun left right => style.same left.1 right.1 = false)
    (free : ∀ earlier ∈ taken, ∀ option ∈ options, style.same earlier option.1 = false)
    (room : options.length < fuel) :
    readOptions length style body fuel taken
        (optionsSource word (messageSource context) options ++ '\x7d' :: rest) =
      .ok (options.map fun option => (option.1, unsignedMessage option.2), rest) := by
  induction options generalizing taken fuel with
  | nil =>
      obtain ⟨less, rfl⟩ := Nat.exists_eq_add_of_lt room
      rfl
  | cons option options ih =>
      obtain ⟨apart, distinct⟩ := List.pairwise_cons.mp distinct
      have isFree : ∀ earlier ∈ taken, style.same earlier option.1 = false :=
        fun earlier member => free earlier member option List.mem_cons_self
      have laterFree : ∀ earlier ∈ taken ++ [option.1], ∀ later ∈ options,
          style.same earlier later.1 = false := by
        intro earlier member later among
        rcases List.mem_append.mp member with before | self
        · exact free earlier before later (List.mem_cons_of_mem _ among)
        · cases List.mem_singleton.mp self
          exact apart later among
      obtain ⟨less, rfl⟩ := Nat.exists_eq_add_of_lt room
      have enough : options.length < options.length + 1 + less := by omega
      have more := ih readable.tail distinct laterFree enough
      rw [optionsSource, List.flatMap_cons, List.append_assoc, List.map_cons]
      exact readOptions_option (readable.names option List.mem_cons_self)
        (readable.selectors option List.mem_cons_self) isFree
        (readable.bodies option List.mem_cons_self _) more

theorem length_le_optionsSource (word : κ → String) (write : List Node → List Char)
    (options : List (κ × List Node)) :
    options.length ≤ (optionsSource word write options).length := by
  induction options with
  | nil => exact Nat.le_refl _
  | cons option options ih =>
      rw [optionsSource, List.flatMap_cons, List.length_append, ← optionsSource, optionSource]
      simp only [List.length_cons]
      omega

theorem length_lt_dropBlanks (write : List Node → List Char) (rest : List Char)
    (names : ∀ option ∈ options, IsName (word option.1)) :
    options.length <
      (Text.dropBlanks (optionsSource word write options ++ '\x7d' :: rest)).length := by
  cases options with
  | nil =>
      change 0 < (Text.dropBlanks ('\x7d' :: rest)).length
      rw [dropBlanks_of_plain (by decide)]
      exact Nat.zero_lt_succ _
  | cons option options =>
      have others := length_le_optionsSource word write options
      rw [optionsSource, List.flatMap_cons, ← optionsSource, optionSource]
      simp only [List.cons_append, List.append_assoc]
      rw [dropBlanks_space, dropBlanks_name (names option List.mem_cons_self)]
      simp only [List.length_append, List.length_cons]
      omega

theorem readAllOptions_optionsSource
    (readable : OptionsReadable style body word context options)
    (decisive : Decisive style options) {cs : List Char}
    (written : Text.dropBlanks cs = Text.dropBlanks
      (optionsSource word (messageSource context) options ++ '\x7d' :: rest)) :
    readAllOptions length style body cs =
      .ok (options.map fun option => (option.1, unsignedMessage option.2), rest) := by
  have room : options.length < cs.length + 1 := by
    have counted := length_lt_dropBlanks (messageSource context) rest readable.names
    have shorter := length_dropBlanks_le cs
    rw [written] at shorter
    omega
  have read : readOptions length style body (cs.length + 1) [] cs =
      .ok (options.map fun option => (option.1, unsignedMessage option.2), rest) := by
    rw [readOptions_congr written]
    exact readOptions_optionsSource readable decisive.distinct (by simp) room
  have decided : (options.map fun option => (option.1, unsignedMessage option.2)).any
      (style.isOther ·.1) = true := by
    obtain ⟨option, member, isOther⟩ := decisive.other
    exact List.any_eq_true.mpr ⟨_, List.mem_map_of_mem member, isOther⟩
  unfold readAllOptions
  simp only [read, ok_bind, if_pos decided]

variable {offset : Binary64} {options : List (Selector × List Node)}

theorem pluralSource_stops (options : List (Selector × List Node)) (rest : List Char) :
    ∃ c cs, pluralSource options ++ '\x7d' :: rest = c :: cs ∧ isNameChar c = false := by
  cases options with
  | nil => exact ⟨'\x7d', rest, rfl, by decide⟩
  | cons option options => exact ⟨' ', _, rfl, by decide⟩

theorem offsetMark_eq : offsetMark = ['o', 'f', 'f', 's', 'e', 't', ':'] := by
  rfl

/-- No selector is taken for the announcement of an offset. -/
theorem pluralSource_unmarked (isNumber : ∀ option ∈ options, option.1 ≠ .exact .nan) :
    (Text.dropBlanks (pluralSource options ++ '\x7d' :: rest)).take offsetMark.length ≠
      offsetMark := by
  cases options with
  | nil =>
      change (Text.dropBlanks ('\x7d' :: rest)).take offsetMark.length ≠ offsetMark
      rw [dropBlanks_of_plain (by decide)]
      simp [offsetMark_eq]
  | cons option options =>
      obtain ⟨selector, body⟩ := option
      have isName := isName_selector (isNumber (selector, body) List.mem_cons_self)
      rw [pluralSource, optionSource]
      simp only [List.cons_append, List.append_assoc]
      rw [dropBlanks_space, dropBlanks_name isName]
      cases selector with
      | exact number => simp [Selector.text, offsetMark_eq]
      | category name =>
          cases name <;> simp [Selector.text, PluralCategory.keyword, offsetMark_eq]

theorem readOffset_offsetSource (rest : List Char) (notNan : offset ≠ .nan)
    (isNumber : ∀ option ∈ options, option.1 ≠ .exact .nan) :
    ∃ after,
      readOffset (offsetSource offset ++ (pluralSource options ++ '\x7d' :: rest)) =
          .ok (offset.unsignedZero, after) ∧
        Text.dropBlanks after = Text.dropBlanks (pluralSource options ++ '\x7d' :: rest) := by
  by_cases isZero : offset.equals .zero = true
  · have plain : offset.unsignedZero = .zero := (Binary64.equals_iff.mp isZero).2
    refine ⟨Text.dropBlanks _, ?_, List.dropWhile_idempotent _ _⟩
    rw [offsetSource, if_pos isZero, List.nil_append, readOffset,
      if_neg (pluralSource_unmarked isNumber), plain]
  · have plain : offset.unsignedZero = offset := by
      refine Binary64.unsignedZero_eq_self ?_
      rintro rfl
      exact isZero rfl
    obtain ⟨c, cs, starts, stops⟩ := pluralSource_stops options rest
    have isName := isName_number notNan
    have written : (String.ofList offset.text).toList = offset.text := String.toList_ofList
    have mark : Text.dropBlanks (offsetMark ++ (offset.text ++ c :: cs)) =
        offsetMark ++ (offset.text ++ c :: cs) := dropBlanks_of_plain (by decide)
    refine ⟨c :: cs, ?_, by rw [starts]⟩
    rw [offsetSource, if_neg isZero, starts, plain]
    simp only [List.cons_append, List.append_assoc]
    rw [readOffset, dropBlanks_space, mark, if_pos List.take_left, List.drop_left, ← written,
      dropBlanks_name isName]
    dsimp only
    rw [nameOf_append isName stops, afterName_append isName stops, written,
      Binary64.read?_text notNan]

variable {levels : Nat}

/-- Reading an argument comes to reading its kind, with one level less for the bodies in it. -/
theorem readArgument_kind (isName : IsName name) :
    readArgument length (levels + 1) (name.toList ++ ',' :: rest) =
      readKind length (readMessage length (readArgument length levels)) name rest := by
  unfold readArgument
  dsimp only
  rw [dropBlanks_name isName, nameOf_append isName (by decide),
    afterName_append isName (by decide), dropBlanks_of_plain (by decide),
    if_neg isName.nonempty]
  rfl

theorem readArgument_argument (isName : IsName name) :
    readArgument length (levels + 1) (name.toList ++ '\x7d' :: rest) =
      .ok (.argument name, rest) := by
  unfold readArgument
  dsimp only
  rw [dropBlanks_name isName, nameOf_append isName (by decide),
    afterName_append isName (by decide), dropBlanks_of_plain (by decide),
    if_neg isName.nonempty]
  rfl

variable {body : Context → Parser (List Node)}

theorem readKind_number :
    readKind length body name (' ' :: ("number".toList ++ '\x7d' :: rest)) =
      .ok (.number name, rest) := by
  rfl

theorem readKind_plural (kind : PluralKind) :
    readKind length body name (' ' :: (kind.keyword.toList ++ ',' :: rest)) =
      readPlural length (body .pluralOption) name kind (',' :: rest) := by
  cases kind <;> rfl

theorem readKind_select :
    readKind length body name (' ' :: ("select".toList ++ ',' :: rest)) =
      readSelect length (body .selectOption) name (',' :: rest) := by
  rfl

theorem readPlural_source {body : Parser (List Node)} {options : List (Selector × List Node)}
    (kind : PluralKind) (notNan : offset ≠ .nan)
    (isNumber : ∀ option ∈ options, option.1 ≠ .exact .nan)
    (readable : OptionsReadable pluralStyle body Selector.text .pluralOption options)
    (decisive : Decisive pluralStyle options) :
    readPlural length body name kind
        (',' :: (offsetSource offset ++ (pluralSource options ++ '\x7d' :: rest))) =
      .ok (unsignedNode (.plural name kind offset options), rest) := by
  obtain ⟨after, readOffset, same⟩ := readOffset_offsetSource rest notNan isNumber
  rw [pluralSource_eq] at same
  have readOptions : readAllOptions length pluralStyle body after =
      .ok (unsignedPlural options, rest) := by
    rw [unsignedPlural_eq_map]
    exact readAllOptions_optionsSource readable decisive same
  simp only [readPlural, expect_self, ok_bind, readOffset, readOptions, unsignedNode]

theorem readSelect_source {body : Parser (List Node)} {options : List (String × List Node)}
    (readable : OptionsReadable selectStyle body id .selectOption options)
    (decisive : Decisive selectStyle options) :
    readSelect length body name (',' :: (selectSource options ++ '\x7d' :: rest)) =
      .ok (unsignedNode (.select name options), rest) := by
  have readOptions :
      readAllOptions length selectStyle body (selectSource options ++ '\x7d' :: rest) =
        .ok (unsignedSelect options, rest) := by
    rw [unsignedSelect_eq_map, selectSource_eq]
    exact readAllOptions_optionsSource readable decisive rfl
  simp only [readSelect, expect_self, ok_bind, readOptions, unsignedNode]

end Template

end Phrasebook
