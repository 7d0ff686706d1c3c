import Phrasebook.Proofs.Json.Levels
import Phrasebook.Proofs.Json.Scalars

namespace Phrasebook.Json

theorem skipSpace_cons {c : Char} (visible : isSpace c = false) (cs : List Char) :
    skipSpace (c :: cs) = c :: cs :=
  List.dropWhile_cons_of_neg (by simp [visible])

/-- What stands after the first of some pieces: the others, each after a comma, and the end. -/
def separated (closing : Char) : List (List Char) → List Char
  | [] => [closing]
  | piece :: pieces => ',' :: (piece ++ separated closing pieces)

theorem itemsTail_eq (items : List Json) :
    itemsTail items = separated ']' (items.map chars) := by
  induction items with
  | nil => rfl
  | cons item items ih => rw [itemsTail, ih, List.map_cons, separated]

def entryChars (entry : String × Json) : List Char :=
  quoted entry.1 ++ ':' :: entry.2.chars

theorem entriesTail_eq (entries : List (String × Json)) :
    entriesTail entries = separated '\x7d' (entries.map entryChars) := by
  induction entries with
  | nil => rfl
  | cons entry entries ih =>
      obtain ⟨key, value⟩ := entry
      rw [entriesTail, ih, List.map_cons, separated, entryChars, List.append_assoc,
        List.cons_append]

theorem length_lt_separated (closing : Char) (pieces : List (List Char)) :
    pieces.length < (separated closing pieces).length := by
  induction pieces with
  | nil => exact Nat.zero_lt_one
  | cons piece pieces ih =>
      rw [separated, List.length_cons, List.length_cons, List.length_append]
      omega

variable {α : Type} {closing : Char} {item : Reader α} {piece : α → List Char} {first : α}
  {others : List α}

/-- An item is read when a comma or the end of the container follows it. -/
def ReadsPiece (closing : Char) (item : Reader α) (piece : α → List Char) (value : α) : Prop :=
  ∀ c rest, c = ',' ∨ c = closing → item (piece value ++ c :: rest) = .ok (value, c :: rest)

theorem readSeparated_separated (visible : isSpace closing = false) (noComma : closing ≠ ',')
    (reads : ∀ value ∈ first :: others, ReadsPiece closing item piece value) {fuel : Nat}
    (enough : others.length < fuel) (rest : List Char) :
    readSeparated closing item fuel
        (piece first ++ (separated closing (others.map piece) ++ rest)) =
      .ok (first :: others, rest) := by
  -- On the pieces after the first: the fuel is only a bound on their number.
  induction others generalizing first fuel with
  | nil =>
      cases fuel with
      | zero => contradiction
      | succ fuel =>
          have read := reads first (List.mem_cons_self ..) closing rest (.inr rfl)
          rw [List.map_nil, separated, List.singleton_append, readSeparated, read, ok_bind]
          dsimp only
          rw [skipSpace_cons visible]
          dsimp only
          rw [if_neg noComma, if_pos rfl]
  | cons second others ih =>
      cases fuel with
      | zero => contradiction
      | succ fuel =>
          have read := reads first (List.mem_cons_self ..) ','
            (piece second ++ (separated closing (others.map piece) ++ rest)) (.inl rfl)
          have more := ih (fun value member => reads value (List.mem_cons_of_mem _ member))
            (Nat.lt_of_succ_lt_succ enough)
          rw [List.map_cons, separated, List.cons_append, List.append_assoc, readSeparated, read,
            ok_bind]
          show (if ',' = ',' then _ else _) = _
          rw [if_pos rfl, more]
          rfl

theorem readContainer_empty (visible : isSpace closing = false) (rest : List Char) :
    readContainer closing item (closing :: rest) = .ok ([], rest) := by
  unfold readContainer
  rw [skipSpace_cons visible]
  exact if_pos rfl

theorem readContainer_error {c : Char} {cs : List Char} {error : SyntaxError}
    (visible : isSpace c = false) (opens : c ≠ closing) (fails : item (c :: cs) = .error error) :
    readContainer closing item (c :: cs) = .error error := by
  unfold readContainer
  rw [skipSpace_cons visible]
  dsimp only
  rw [if_neg opens, readSeparated, fails]
  rfl

theorem readContainer_separated (visible : isSpace closing = false) (noComma : closing ≠ ',')
    (reads : ∀ value ∈ first :: others, ReadsPiece closing item piece value)
    (starts : ∃ c cs, piece first = c :: cs ∧ isSpace c = false ∧ c ≠ closing)
    (rest : List Char) :
    readContainer closing item (piece first ++ (separated closing (others.map piece) ++ rest)) =
      .ok (first :: others, rest) := by
  obtain ⟨c, cs, same, visibleStart, opens⟩ := starts
  have enough : others.length <
      (cs ++ (separated closing (others.map piece) ++ rest)).length + 1 := by
    have pieces := length_lt_separated closing (others.map piece)
    rw [List.length_map] at pieces
    rw [List.length_append, List.length_append]
    omega
  have read := readSeparated_separated visible noComma reads enough rest
  unfold readContainer
  rw [same, List.cons_append] at read ⊢
  rw [skipSpace_cons visibleStart]
  dsimp only
  rw [if_neg opens, read]

/-- A reader of values or entries does not pass over the character, and no container ends at it. -/
def Opens (c : Char) : Prop :=
  isSpace c = false ∧ c ≠ ']' ∧ c ≠ '\x7d'

theorem opens_of_isDigit {c : Char} (isDigit : c.isDigit = true) : Opens c := by
  refine ⟨Bool.eq_false_iff.mpr fun space => ?_, ?_, ?_⟩
  · simp only [isSpace, Bool.or_eq_true, decide_eq_true_eq] at space
    rcases space with ((rfl | rfl) | rfl) | rfl <;> contradiction
  · rintro rfl
    contradiction
  · rintro rfl
    contradiction

theorem opens_signed {c : Char} {cs : List Char} (isDigit : c.isDigit = true) (negative : Bool) :
    ∃ first rest, Binary64.signed negative (c :: cs) = first :: rest ∧ Opens first := by
  cases negative with
  | true => exact ⟨'-', c :: cs, rfl, by decide, by decide, by decide⟩
  | false => exact ⟨c, cs, rfl, opens_of_isDigit isDigit⟩

theorem readValue_plain {bound : Nat} {c : Char} (visible : isSpace c = false)
    (noArray : c ≠ '[') (noObject : c ≠ '\x7b') (cs : List Char) :
    readValue bound (c :: cs) = readScalar (c :: cs) := by
  cases bound
  all_goals
    rw [readValue, skipSpace_cons visible]
    split
    · next same => exact absurd (List.cons.inj same).1 noArray
    · next same => exact absurd (List.cons.inj same).1 noObject
    · rfl

theorem readScalar_digit {c : Char} (isDigit : c.isDigit = true) (cs : List Char) :
    readScalar (c :: cs) = readNumber false (c :: cs) := by
  have other : ∀ letter letters, letter.isDigit = false → c :: cs ≠ letter :: letters := by
    rintro _ _ isLetter ⟨⟩
    rw [isLetter] at isDigit
    contradiction
  unfold readScalar
  split
  · next same => exact absurd same (other 'n' _ rfl)
  · next same => exact absurd same (other 't' _ rfl)
  · next same => exact absurd same (other 'f' _ rfl)
  · next same => exact absurd same (other '"' _ rfl)
  · next same => exact absurd same (other '-' _ rfl)
  · contradiction
  · next same =>
      cases same
      exact if_pos isDigit

theorem readValue_signed {bound : Nat} {c : Char} (isDigit : c.isDigit = true) (negative : Bool)
    (cs : List Char) :
    readValue bound (Binary64.signed negative (c :: cs)) = readNumber negative (c :: cs) := by
  cases negative with
  | true =>
      rw [Binary64.signed, if_pos rfl, readValue_plain (by decide) (by decide) (by decide)]
      rfl
  | false =>
      rw [Binary64.signed, if_neg Bool.false_ne_true, readValue_plain (opens_of_isDigit isDigit).1]
      · exact readScalar_digit isDigit cs
      · rintro rfl
        contradiction
      · rintro rfl
        contradiction

theorem readValue_integer {bound : Nat} {value : Int} {rest : List Char}
    (fits : isInteger64 value = true) (ends : Ends rest) :
    readValue bound (integerText value ++ rest) = .ok (.integer value, rest) := by
  obtain ⟨c, cs, digits, isDigit⟩ := (unpadded_toDigits value.natAbs).exists_cons
  have read := readNumber_integer fits ends
  rw [digits, List.cons_append] at read
  rw [integerText, digits, Binary64.signed_append, List.cons_append, readValue_signed isDigit, read]

theorem chars_opens {value : Json} (integral : value.Integral) :
    ∃ c cs, value.chars = c :: cs ∧ Opens c := by
  cases integral with
  | null => exact ⟨'n', _, rfl, by decide, by decide, by decide⟩
  | bool flag =>
      cases flag with
      | true => exact ⟨'t', _, rfl, by decide, by decide, by decide⟩
      | false => exact ⟨'f', _, rfl, by decide, by decide, by decide⟩
  | integer value =>
      obtain ⟨c, cs, digits, isDigit⟩ := (unpadded_toDigits value.natAbs).exists_cons
      rw [chars, integerText, digits]
      exact opens_signed isDigit _
  | string text => exact ⟨'"', _, rfl, by decide, by decide, by decide⟩
  | @array items each =>
      cases items with
      | nil => exact ⟨'[', _, rfl, by decide, by decide, by decide⟩
      | cons item items => exact ⟨'[', _, rfl, by decide, by decide, by decide⟩
  | @object entries each =>
      cases entries with
      | nil => exact ⟨'\x7b', _, rfl, by decide, by decide, by decide⟩
      | cons entry entries => exact ⟨'\x7b', _, rfl, by decide, by decide, by decide⟩

theorem readKey_quoted (key : String) (rest : List Char) :
    readKey (quoted key ++ ':' :: rest) = .ok (key, rest) := by
  have opened : openKey (quoted key ++ ':' :: rest) =
      .ok (key.toList.flatMap escaped ++ '"' :: ':' :: rest) := by
    rw [quoted, List.cons_append, List.append_assoc]
    rfl
  have colon : readColon (':' :: rest) = .ok rest := rfl
  rw [readKey, opened, ok_bind, readString_escaped, ok_bind]
  dsimp only
  rw [colon, ok_bind]

theorem readEntry_entryChars {reader : Reader Json} {entry : String × Json} {rest : List Char}
    (read : reader (entry.2.chars ++ rest) = .ok (entry.2, rest)) :
    readEntry reader (entryChars entry ++ rest) = .ok (entry, rest) := by
  rw [readEntry, entryChars, List.append_assoc, List.cons_append, readKey_quoted, ok_bind]
  dsimp only
  rw [read]
  rfl

theorem ends_mark {c closing : Char} (mark : c = ',' ∨ c = closing)
    (closes : closing = ']' ∨ closing = '\x7d') (rest : List Char) : Ends (c :: rest) := by
  rcases mark with rfl | rfl
  · exact ⟨rfl, by decide, by decide, by decide⟩
  · rcases closes with rfl | rfl
    · exact ⟨rfl, by decide, by decide, by decide⟩
    · exact ⟨rfl, by decide, by decide, by decide⟩

theorem readValue_array (bound : Nat) (cs : List Char) :
    readValue (bound + 1) ('[' :: cs) = readArray (readValue bound) cs :=
  rfl

theorem readValue_object (bound : Nat) (cs : List Char) :
    readValue (bound + 1) ('\x7b' :: cs) = readObject (readValue bound) cs :=
  rfl

/-- A reader with a level for each of a value's levels reads the value's text as the value.  Of
doubles that need not be true: reading one may miss it by a bit. -/
theorem readValue_chars {bound : Nat} {value : Json} (readable : value.Readable bound)
    (integral : value.Integral) {rest : List Char} (ends : Ends rest) :
    readValue bound (value.chars ++ rest) = .ok (value, rest) := by
  induction readable generalizing rest with
  | null => exact readValue_plain (by decide) (by decide) (by decide) _
  | bool flag =>
      cases flag with
      | true => exact readValue_plain (by decide) (by decide) (by decide) _
      | false => exact readValue_plain (by decide) (by decide) (by decide) _
  | integer fits => exact readValue_integer fits ends
  | double negative magnitude => nomatch integral
  | string text =>
      rw [chars, quoted, List.cons_append, List.append_assoc, List.singleton_append,
        readValue_plain (by decide) (by decide) (by decide), readScalar, readString_escaped,
        ok_bind]
  | @array bound items each ih =>
      have eachIntegral := integral.items
      have reads : ∀ item ∈ items, ReadsPiece ']' (readValue bound) chars item :=
        fun item member c rest mark =>
          ih item member (eachIntegral item member) (ends_mark mark (.inl rfl) rest)
      cases items with
      | nil =>
          rw [chars, List.cons_append, readValue_array, List.singleton_append, readArray,
            readContainer_empty (by decide)]
          rfl
      | cons item items =>
          obtain ⟨c, cs, same, opens⟩ := chars_opens (eachIntegral item (List.mem_cons_self ..))
          have read := readContainer_separated (by decide) (by decide) reads
            ⟨c, cs, same, opens.1, opens.2.1⟩ rest
          rw [chars, itemsTail_eq, List.cons_append, readValue_array, List.append_assoc, readArray,
            read, ok_bind]
  | @object bound entries each ih =>
      have eachIntegral := integral.entries
      have reads : ∀ entry ∈ entries,
          ReadsPiece '\x7d' (readEntry (readValue bound)) entryChars entry :=
        fun entry member c rest mark => readEntry_entryChars
          (ih entry member (eachIntegral entry member) (ends_mark mark (.inr rfl) rest))
      cases entries with
      | nil =>
          rw [chars, List.cons_append, readValue_object, List.singleton_append, readObject,
            readEntries, readContainer_empty (by decide)]
          rfl
      | cons entry entries =>
          have read := readContainer_separated (by decide) (by decide) reads
            ⟨'"', _, rfl, by decide, by decide⟩ rest
          have text : (object (entry :: entries)).chars =
              '\x7b' :: (entryChars entry ++ entriesTail entries) := by
            rw [chars, entryChars, List.append_assoc, List.cons_append]
          rw [text, entriesTail_eq, List.cons_append, readValue_object, List.append_assoc,
            readObject, readEntries, read, ok_bind]

/-- A reader with fewer levels than a value has does not read its text. -/
theorem readValue_deep {bound : Nat} {value : Json} (readable : value.Readable (bound + 1))
    (integral : value.Integral) (deep : bound < value.levels) {rest : List Char}
    (ends : Ends rest) :
    ∃ error, readValue bound (value.chars ++ rest) = .error error := by
  cases read : readValue bound (value.chars ++ rest) with
  | error error => exact ⟨error, rfl⟩
  | ok result =>
      have wider := readValue_mono read
      rw [readValue_chars readable integral ends] at wider
      cases wider
      exact absurd (readable_of_readValue read).levels_le (Nat.not_le.mpr deep)

theorem readDocument_chars {value : Json} (readable : value.Readable maxLevels)
    (integral : value.Integral) : readDocument value.chars = .ok value := by
  have read := readValue_chars readable integral (show Ends [] from trivial)
  rw [List.append_nil] at read
  rw [readDocument, read]
  rfl

end Phrasebook.Json

namespace Phrasebook.Dictionary

theorem read_render {dictionary : Dictionary}
    (readable : dictionary.toJson.Readable Json.maxLevels)
    (integral : dictionary.toJson.Integral) :
    Dictionary.read dictionary.toJson.render = .ok dictionary := by
  rw [Dictionary.read, Json.render, String.toList_ofList,
    Json.readDocument_chars readable integral]
  exact ofJson_toJson dictionary

end Phrasebook.Dictionary
