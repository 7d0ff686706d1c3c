import Phrasebook.Interpolation

namespace Phrasebook

theorem isWord_brace : Text.isWord '\x7b' = false ∧ Text.isWord '\x7d' = false := by
  decide +kernel

/-- A name that stands in a placeholder. -/
structure IsWordName (name : List Char) : Prop where
  nonempty : name ≠ []
  words : ∀ c ∈ name, Text.isWord c = true

theorem isWordName_iff {name : List Char} :
    IsWordName name ↔ name ≠ [] ∧ name.all Text.isWord = true := by
  rw [List.all_eq_true]
  exact ⟨fun isName => ⟨isName.nonempty, isName.words⟩, fun both => ⟨both.1, both.2⟩⟩

instance (name : List Char) : Decidable (IsWordName name) :=
  decidable_of_iff _ isWordName_iff.symm

/-- A part of a message. -/
inductive Piece where
  | literal (text : List Char)
  | placeholder (name : List Char)

namespace Piece

def source : Piece → List Char
  | .literal text => text
  | .placeholder name => '\x7b' :: (name ++ ['\x7d'])

/-- What is shown for a part: the value of a placeholder, and all else as it is written. -/
def shown (params : Params) : Piece → List Char
  | .literal text => text
  | .placeholder name =>
      match params.get? (String.ofList name) with
      | some value => value.displayText.toList
      | none => source (.placeholder name)

theorem length_source_placeholder (name : List Char) :
    (source (.placeholder name)).length = name.length + 2 := by
  simp [source]

end Piece

/-- A placeholder of that name stands in the text from `start` on. -/
structure Occurs (cs : List Char) (start : Nat) (name : List Char) : Prop where
  isName : IsWordName name
  written : (Piece.placeholder name).source <+: cs.drop start

/-- No character belongs to two placeholders. -/
def OccurrencesApart (cs : List Char) : Prop :=
  ∀ start name other otherName, Occurs cs start name → Occurs cs other otherName →
    start = other ∧ name = otherName ∨ start + (name.length + 2) ≤ other ∨
      other + (otherName.length + 2) ≤ start

/-- The placeholder of that name is one of the parts, with so many characters before it. -/
def StandsAt (pieces : List Piece) (start : Nat) (name : List Char) : Prop :=
  ∃ before after, pieces = before ++ .placeholder name :: after ∧
    (before.flatMap Piece.source).length = start

/-- The text comes apart into the parts, of which the placeholders are all that occur in it. -/
structure Partition (cs : List Char) (pieces : List Piece) : Prop where
  source : pieces.flatMap Piece.source = cs
  occurs_iff : ∀ start name, Occurs cs start name ↔ StandsAt pieces start name

variable {cs rest text name : List Char} {start : Nat}

theorem occurs_append_iff (before : List Char) :
    Occurs (before ++ cs) (before.length + start) name ↔ Occurs cs start name := by
  have same : (before ++ cs).drop (before.length + start) = cs.drop start := by
    rw [← List.drop_drop, List.drop_left]
  constructor
  · intro occurs
    exact ⟨occurs.isName, same ▸ occurs.written⟩
  · intro occurs
    exact ⟨occurs.isName, same ▸ occurs.written⟩

theorem occurs_placeholder (isName : IsWordName name) (rest : List Char) :
    Occurs ((Piece.placeholder name).source ++ rest) 0 name :=
  ⟨isName, List.prefix_append _ _⟩

theorem Occurs.exists_append (occurs : Occurs cs start name) :
    ∃ rest, cs.drop start = (Piece.placeholder name).source ++ rest := by
  obtain ⟨rest, same⟩ := occurs.written
  exact ⟨rest, same.symm⟩

theorem Occurs.opens (occurs : Occurs cs start name) : cs[start]? = some '\x7b' := by
  obtain ⟨rest, same⟩ := occurs.exists_append
  have first : (cs.drop start)[0]? = some '\x7b' := by
    rw [same]
    rfl
  simpa using first

/-- No brace opens within a placeholder. -/
theorem Occurs.closed (occurs : Occurs cs start name) {place : Nat} (after : start < place)
    (within : place < start + (name.length + 2)) : cs[place]? ≠ some '\x7b' := by
  obtain ⟨rest, same⟩ := occurs.exists_append
  obtain ⟨inner, rfl⟩ := Nat.exists_eq_add_of_lt after
  intro opens
  have inside : (name ++ ['\x7d'])[inner]? = some '\x7b' := by
    have shifted : (cs.drop start)[inner + 1]? = some '\x7b' := by
      rw [List.getElem?_drop]
      exact opens
    rw [same, Piece.source, List.cons_append, List.getElem?_cons_succ,
      List.getElem?_append_left (by simp; omega)] at shifted
    exact shifted
  rcases List.mem_append.mp (List.mem_of_getElem? inside) with inName | closing
  · have isWord := occurs.isName.words _ inName
    rw [isWord_brace.1] at isWord
    contradiction
  · simp at closing

theorem takeWhile_name (isName : IsWordName name) (rest : List Char) :
    (name ++ '\x7d' :: rest).takeWhile Text.isWord = name := by
  rw [List.takeWhile_append_of_pos isName.words,
    List.takeWhile_cons_of_neg (by simp [isWord_brace.2]), List.append_nil]

theorem dropWhile_name (isName : IsWordName name) (rest : List Char) :
    (name ++ '\x7d' :: rest).dropWhile Text.isWord = '\x7d' :: rest := by
  rw [List.dropWhile_append_of_pos isName.words,
    List.dropWhile_cons_of_neg (by simp [isWord_brace.2])]

theorem placeholder?_eq_some_iff :
    placeholder? cs = some (name, rest) ↔ IsWordName name ∧ cs = name ++ '\x7d' :: rest := by
  constructor
  · intro found
    unfold placeholder? at found
    split at found
    · next c others after taken dropped =>
        cases found
        have words : ∀ letter ∈ cs.takeWhile Text.isWord, Text.isWord letter = true :=
          List.all_eq_true.mp List.all_takeWhile
        rw [taken] at words
        refine ⟨⟨List.cons_ne_nil c others, words⟩, ?_⟩
        rw [← taken, ← dropped, List.takeWhile_append_dropWhile]
    · contradiction
  · rintro ⟨isName, rfl⟩
    obtain ⟨c, others, starts⟩ := List.exists_cons_of_ne_nil isName.nonempty
    unfold placeholder?
    rw [takeWhile_name isName, dropWhile_name isName, starts]
    rfl

theorem occurs_zero_iff : Occurs cs 0 name ↔
    IsWordName name ∧ ∃ rest, cs = (Piece.placeholder name).source ++ rest := by
  constructor
  · intro occurs
    exact ⟨occurs.isName, occurs.exists_append⟩
  · rintro ⟨isName, rest, rfl⟩
    exact occurs_placeholder isName rest

theorem Occurs.name_eq (occurs : Occurs cs start name) {other : List Char}
    (otherOccurs : Occurs cs start other) : name = other := by
  obtain ⟨rest, same⟩ := occurs.exists_append
  obtain ⟨otherRest, otherSame⟩ := otherOccurs.exists_append
  rw [same] at otherSame
  have inner : name ++ '\x7d' :: rest = other ++ '\x7d' :: otherRest := by
    simpa [Piece.source] using otherSame
  rw [← takeWhile_name occurs.isName rest, inner, takeWhile_name otherOccurs.isName]

theorem occurrencesApart (cs : List Char) : OccurrencesApart cs := by
  intro start name other otherName occurs otherOccurs
  rcases Nat.lt_trichotomy start other with before | rfl | after
  · refine .inr (.inl (Nat.le_of_not_lt fun within => ?_))
    exact occurs.closed before within otherOccurs.opens
  · exact .inl ⟨rfl, occurs.name_eq otherOccurs⟩
  · refine .inr (.inr (Nat.le_of_not_lt fun within => ?_))
    exact otherOccurs.closed after within occurs.opens

variable {piece : Piece} {pieces : List Piece}

theorem standsAt_cons_iff : StandsAt (piece :: pieces) start name ↔
    start = 0 ∧ piece = .placeholder name ∨
      ∃ place, start = piece.source.length + place ∧ StandsAt pieces place name := by
  constructor
  · rintro ⟨before, after, same, rfl⟩
    cases before with
    | nil => exact .inl ⟨rfl, (List.cons.inj same).1⟩
    | cons first before =>
        obtain ⟨rfl, rfl⟩ := List.cons.inj same
        refine .inr ⟨_, ?_, before, after, rfl, rfl⟩
        rw [List.flatMap_cons, List.length_append]
  · rintro (⟨rfl, rfl⟩ | ⟨place, rfl, before, after, rfl, rfl⟩)
    · exact ⟨[], pieces, rfl, rfl⟩
    · refine ⟨piece :: before, after, rfl, ?_⟩
      rw [List.flatMap_cons, List.length_append]

theorem Partition.nil : Partition [] [] where
  source := rfl
  occurs_iff start name := by
    constructor
    · intro occurs
      have opens := occurs.opens
      simp at opens
    · rintro ⟨before, after, same, _⟩
      simp at same

/-- A part can be put in front if nothing else begins to occur within it. -/
theorem Partition.cons (partition : Partition cs pieces)
    (first : ∀ start < piece.source.length, ∀ name,
      Occurs (piece.source ++ cs) start name ↔ start = 0 ∧ piece = .placeholder name) :
    Partition (piece.source ++ cs) (piece :: pieces) where
  source := by rw [List.flatMap_cons, partition.source]
  occurs_iff start name := by
    rw [standsAt_cons_iff]
    rcases Nat.lt_or_ge start piece.source.length with within | beyond
    · rw [first start within]
      refine ⟨.inl, fun stands => stands.resolve_right ?_⟩
      rintro ⟨place, rfl, _⟩
      omega
    · obtain ⟨place, rfl⟩ := Nat.exists_eq_add_of_le beyond
      rw [occurs_append_iff, partition.occurs_iff]
      constructor
      · intro stands
        exact .inr ⟨place, rfl, stands⟩
      · rintro (⟨none, rfl⟩ | ⟨other, same, stands⟩)
        · simp [Piece.source] at none
        · rwa [Nat.add_left_cancel same]

theorem Partition.tail (partition : Partition cs (piece :: pieces)) :
    ∃ rest, cs = piece.source ++ rest ∧ Partition rest pieces := by
  have source := partition.source
  rw [List.flatMap_cons] at source
  refine ⟨_, source.symm, rfl, fun place name => ?_⟩
  rw [← occurs_append_iff piece.source, source, partition.occurs_iff, standsAt_cons_iff]
  constructor
  · rintro (⟨none, rfl⟩ | ⟨other, same, stands⟩)
    · simp [Piece.source] at none
    · rwa [Nat.add_left_cancel same]
  · intro stands
    exact .inr ⟨place, rfl, stands⟩

theorem Partition.placeholder (partition : Partition cs pieces) (isName : IsWordName name) :
    Partition ((Piece.placeholder name).source ++ cs) (.placeholder name :: pieces) := by
  refine partition.cons fun start within other => ?_
  have here := occurs_placeholder isName cs
  rw [Piece.length_source_placeholder] at within
  constructor
  · intro occurs
    rcases Nat.eq_zero_or_pos start with rfl | after
    · exact ⟨rfl, congrArg Piece.placeholder (here.name_eq occurs)⟩
    · exact absurd occurs.opens (here.closed after (by omega))
  · rintro ⟨rfl, same⟩
    cases same
    exact here

theorem Partition.literal (partition : Partition cs pieces)
    (free : ∀ start < text.length, ∀ name, ¬Occurs (text ++ cs) start name) :
    Partition (text ++ cs) (.literal text :: pieces) :=
  @Partition.cons cs (.literal text) pieces partition fun start within name =>
    iff_of_false (free start within name) fun same => Piece.noConfusion same.2

theorem exists_partition (cs : List Char) : ∃ pieces, Partition cs pieces := by
  induction size : cs.length using Nat.strongRecOn generalizing cs with
  | ind size ih =>
      subst size
      cases cs with
      | nil => exact ⟨[], .nil⟩
      | cons c cs =>
          by_cases occurs : ∃ name, Occurs (c :: cs) 0 name
          · obtain ⟨name, occurs⟩ := occurs
            obtain ⟨isName, rest, same⟩ := occurs_zero_iff.mp occurs
            obtain ⟨pieces, partition⟩ := ih rest.length (by simp [same, Piece.source]; omega) rest rfl
            exact ⟨_, same ▸ partition.placeholder isName⟩
          · obtain ⟨pieces, partition⟩ := ih cs.length (Nat.lt_succ_self _) cs rfl
            refine ⟨_, @Partition.literal cs [c] pieces partition fun start within name here => ?_⟩
            cases Nat.lt_one_iff.mp within
            exact occurs ⟨name, here⟩

variable {params : Params} {fuel : Nat}

theorem interpolateChars_literal
    (free : ∀ start < text.length, ∀ name, ¬Occurs (text ++ cs) start name) :
    interpolateChars params (text.length + fuel) (text ++ cs) =
      text ++ interpolateChars params fuel cs := by
  induction text with
  | nil => rw [List.length_nil, Nat.zero_add, List.nil_append, List.nil_append]
  | cons c text ih =>
      have later := ih fun start within name occurs =>
        free (1 + start) (by simp; omega) name ((occurs_append_iff [c]).mpr occurs)
      rw [List.length_cons, Nat.add_right_comm, List.cons_append, interpolateChars, later]
      split
      · next opens =>
          subst opens
          cases found : placeholder? (text ++ cs) with
          | none => rfl
          | some placeholder =>
              obtain ⟨isName, same⟩ := placeholder?_eq_some_iff.mp found
              refine absurd (occurs_zero_iff.mpr ⟨isName, placeholder.2, ?_⟩)
                (free 0 (Nat.zero_lt_succ _) placeholder.1)
              simp [Piece.source, same]
      · rfl

theorem interpolateChars_placeholder (isName : IsWordName name) :
    interpolateChars params (fuel + 1) ((Piece.placeholder name).source ++ cs) =
      (Piece.placeholder name).shown params ++ interpolateChars params fuel cs := by
  have found : placeholder? (name ++ '\x7d' :: cs) = some (name, cs) :=
    placeholder?_eq_some_iff.mpr ⟨isName, rfl⟩
  rw [Piece.source, List.cons_append, List.append_assoc, List.singleton_append, interpolateChars,
    if_pos rfl, found]
  rfl

theorem Partition.interpolateChars (partition : Partition cs pieces) (room : cs.length ≤ fuel) :
    Phrasebook.interpolateChars params fuel cs = pieces.flatMap (Piece.shown params) := by
  induction pieces generalizing cs fuel with
  | nil =>
      cases partition.source
      cases fuel <;> rfl
  | cons piece pieces ih =>
      obtain ⟨rest, rfl, tail⟩ := partition.tail
      rw [List.length_append] at room
      cases piece with
      | literal text =>
          have free : ∀ start < text.length, ∀ name, ¬Occurs (text ++ rest) start name := by
            intro start within name occurs
            rcases standsAt_cons_iff.mp ((partition.occurs_iff start name).mp occurs) with
              ⟨_, same⟩ | ⟨place, rfl, _⟩
            · contradiction
            · exact absurd within (Nat.not_lt.mpr (Nat.le_add_right _ _))
          obtain ⟨left, rfl⟩ := Nat.exists_eq_add_of_le (Nat.le_of_add_right_le room)
          rw [List.flatMap_cons, ← ih tail (Nat.le_of_add_le_add_left room)]
          exact interpolateChars_literal free
      | placeholder name =>
          have isName : IsWordName name :=
            ((partition.occurs_iff 0 name).mpr (standsAt_cons_iff.mpr (.inl ⟨rfl, rfl⟩))).isName
          rw [Piece.length_source_placeholder] at room
          obtain ⟨left, rfl⟩ := Nat.exists_eq_add_of_le' (show 1 ≤ fuel by omega)
          rw [List.flatMap_cons, ← ih tail (show rest.length ≤ left by omega)]
          exact interpolateChars_placeholder isName

theorem Partition.interpolate {message : String} (partition : Partition message.toList pieces)
    (params : Params) :
    Phrasebook.interpolate message params = String.ofList (pieces.flatMap (Piece.shown params)) :=
  congrArg String.ofList (partition.interpolateChars (Nat.le_refl _))

/-- Interpolation is one simultaneous substitution: however a message comes apart into its
placeholders and the text between them, each part is shown by itself. -/
theorem interpolate_partition (message : String) :
    OccurrencesApart message.toList ∧ (∃ pieces, Partition message.toList pieces) ∧
      ∀ pieces, Partition message.toList pieces → ∀ params,
        interpolate message params = String.ofList (pieces.flatMap (Piece.shown params)) :=
  ⟨occurrencesApart _, exists_partition _, fun _ partition => partition.interpolate⟩

/-- A value that completes a placeholder with the braces around it is not looked at again. -/
example :
    interpolate "\x7b\x7ba\x7d\x7d \x7bc\x7d"
        (.ofList [("a", .string "b"), ("b", .string "x")]) = "\x7bb\x7d \x7bc\x7d" := by
  decide +kernel

end Phrasebook
