import Phrasebook.Proofs.Template.Choice
import Phrasebook.Proofs.Template.Suffixes
import Phrasebook.Translator.Basic

namespace Phrasebook

namespace Text

theorem wordRanges_not_blank :
    ∀ word ∈ wordRanges, ∀ blank ∈ blankRanges, word.2 < blank.1 ∨ blank.2 < word.1 := by
  decide +kernel

theorem isBlank_of_isWord {c : Char} (word : isWord c = true) : isBlank c = false := by
  rw [Bool.eq_false_iff]
  intro blank
  obtain ⟨letters, isLetters, lower, upper⟩ := inRanges_iff.mp word
  obtain ⟨blanks, isBlanks, blankLower, blankUpper⟩ := inRanges_iff.mp blank
  have apart := wordRanges_not_blank letters isLetters blanks isBlanks
  omega

end Text

namespace Template

theorem isNameChar_of_isWord {c : Char} (word : Text.isWord c = true) : isNameChar c = true := by
  refine isNameChar_iff.mpr ⟨Text.isBlank_of_isWord word, fun special => ?_⟩
  have plain : ['\x7b', '\x7d', ',', '#', '\''].all (!Text.isWord ·) = true := by decide +kernel
  simpa [word] using List.all_eq_true.mp plain c special

variable {cs inner : List Char} {name word : String}

theorem comma?_of_dropBlanks (comma : Text.dropBlanks cs = ',' :: inner) :
    comma? cs = some inner := by
  simp only [comma?, comma]

/-- A name of word characters ends where the word characters end. -/
theorem span_isWord (words : ∀ c ∈ cs.takeWhile isNameChar, Text.isWord c = true) :
    cs.takeWhile Text.isWord = cs.takeWhile isNameChar ∧
      cs.dropWhile Text.isWord = cs.dropWhile isNameChar := by
  induction cs with
  | nil => exact ⟨rfl, rfl⟩
  | cons c cs ih =>
      cases isName : isNameChar c with
      | false =>
          have notWord : Text.isWord c = false := by
            rw [Bool.eq_false_iff]
            intro isWord
            rw [isNameChar_of_isWord isWord] at isName
            contradiction
          simp [isName, notWord]
      | true =>
          rw [List.takeWhile_cons_of_pos isName] at words
          have isWord := words c List.mem_cons_self
          obtain ⟨taken, left⟩ := ih fun other member => words other (List.mem_cons_of_mem c member)
          simp [isName, isWord, taken, left]

theorem Leads.announcesOptions (leads : Leads word cs inner) (isKind : word.toList ∈ optionKinds) :
    announcesOptions (Text.dropBlanks cs) = true := by
  have split : Text.dropBlanks cs = word.toList ++ afterName (Text.dropBlanks cs) := by
    rw [← leads.word, nameOf, String.toList_ofList]
    exact List.takeWhile_append_dropWhile.symm
  refine List.any_eq_true.mpr ⟨word.toList, isKind, ?_⟩
  rw [split, List.drop_left, comma?_of_dropBlanks leads.comma]
  simp

theorem keyword_mem_optionKinds {node : Node} (has : node.keyword? = some word) :
    word.toList ∈ optionKinds := by
  cases node with
  | plural name kind offset options => cases kind <;> cases has <;> decide
  | select name options =>
      cases has
      decide
  | _ => contradiction

theorem Announces.opensOptions (announces : Announces name word cs)
    (isKind : word.toList ∈ optionKinds) (nonempty : name ≠ "")
    (words : ∀ c ∈ name.toList, Text.isWord c = true) : opensOptions cs = true := by
  obtain ⟨inner, options, named, announced⟩ := announces
  have isName : (Text.dropBlanks cs).takeWhile isNameChar = name.toList := by
    rw [← named.word, nameOf, String.toList_ofList]
  have wordsOnly : ∀ c ∈ (Text.dropBlanks cs).takeWhile isNameChar, Text.isWord c = true :=
    isName ▸ words
  obtain ⟨taken, left⟩ := span_isWord wordsOnly
  obtain ⟨c, rest, starts⟩ := List.exists_cons_of_ne_nil
    fun empty => nonempty (String.toList_eq_nil_iff.mp empty)
  have comma : comma? ((Text.dropBlanks cs).dropWhile Text.isWord) = some inner := by
    rw [left]
    exact comma?_of_dropBlanks named.comma
  simp only [Template.opensOptions, taken, isName, starts, comma]
  exact announced.announcesOptions isKind

theorem hasOptions_of_suffix {cs start : List Char} (opens : '\x7b' :: start <:+ cs)
    (leads : opensOptions start = true) : hasOptions cs = true := by
  induction cs with
  | nil => exact absurd (List.suffix_nil.mp opens) (List.cons_ne_nil _ _)
  | cons c cs ih =>
      rcases List.suffix_cons_iff.mp opens with same | within
      · cases same
        simp [hasOptions, leads]
      · simp [hasOptions, ih within]

/-- A message with plural or select arguments is a template if the name of one of them, at any
level, has word characters only.  With values it is never taken for a plain message. -/
theorem isTemplate_of_parse {source : String} {template : List Node}
    (read : parse source = .ok template) {context : Context} {around : Nat} {nodes : List Node}
    (message : Message template context around nodes) {node : Node} (member : node ∈ nodes)
    {keyword name : String} (options : node.keyword? = some keyword)
    (named : node.name? = some name) (words : ∀ c ∈ name.toList, Text.isWord c = true) :
    isTemplate source = true ∧
      ∀ {σ : Type} (translator : Translator σ) (key locale : String) (params : Params),
        translator.resolve key = some (locale, source) →
          translator.translateWith key params =
            translator.formatMessage key locale source params := by
  obtain ⟨⟨other, start, alsoNamed, opens, announces⟩, _⟩ :=
    (message.readWithin read).options member options
  cases alsoNamed.symm.trans named
  have nonempty := ((wellFormed_of_parse read message).names node member name named).nonempty
  have isTemplate : isTemplate source = true :=
    hasOptions_of_suffix opens
      (announces.opensOptions (keyword_mem_optionKinds options) nonempty words)
  refine ⟨isTemplate, fun translator key locale params resolved => ?_⟩
  simp only [Translator.translateWith, resolved, isTemplate, if_true]

/-- The options of the host, inside those of the number of guests. -/
theorem isTemplate_guests :
    parse guestsSource = .ok guests ∧ Message guests .pluralOption 1 manyGuests ∧
      .select "host" hostOptions ∈ manyGuests ∧ isTemplate guestsSource = true := by
  have message : Message guests .pluralOption 1 manyGuests :=
    .pluralOption .whole (List.mem_singleton.mpr rfl)
      (List.mem_cons_of_mem _ (List.mem_singleton.mpr rfl))
  have member : .select "host" hostOptions ∈ manyGuests := by simp [manyGuests]
  exact ⟨parse_guestsSource, message, member,
    (isTemplate_of_parse parse_guestsSource message member rfl rfl
      (List.all_eq_true.mp (by decide +kernel))).1⟩

def hyphenatedSource : String :=
  "\x7buser-count, plural, one \x7b# user\x7d other \x7b# users\x7d\x7d"

/-- A hyphen may stand in the name of an argument, but is no word character.  With values the
message is not rendered as the template that it is. -/
theorem isTemplate_hyphenated :
    (∃ template node, parse hyphenatedSource = .ok template ∧ node ∈ template ∧
      node.keyword? = some "plural") ∧ isTemplate hyphenatedSource = false ∧
      ∀ {σ : Type} (translator : Translator σ) (key locale : String) (params : Params),
        translator.resolve key = some (locale, hyphenatedSource) →
          translator.translateWith key params =
            (interpolate hyphenatedSource params, translator) := by
  have plain : isTemplate hyphenatedSource = false := by decide +kernel
  refine ⟨⟨[.plural "user-count" .cardinal .zero
    [(.category .one, [.pound, .text " user"]), (.category .other, [.pound, .text " users"])]],
    _, rfl, List.mem_singleton.mpr rfl, rfl⟩, plain,
    fun translator key locale params resolved => ?_⟩
  simp only [Translator.translateWith, resolved, plain, Bool.false_eq_true, if_false]

end Template

end Phrasebook
