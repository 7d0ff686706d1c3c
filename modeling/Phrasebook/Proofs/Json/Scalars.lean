import Phrasebook.Json.Printer
import Phrasebook.Json.Reader
import Phrasebook.Proofs.Number.Text
import Phrasebook.Error

namespace Phrasebook.Json

theorem digitsIn?_hexDigit : ∀ code < 0x20,
    Text.digitsIn? 16 ['0', '0', hexDigit (code / 16), hexDigit code] = some code := by
  decide

theorem readEscape_control {c : Char} (control : c.toNat < 0x20) (rest : List Char) :
    readEscape ('u' :: '0' :: '0' :: hexDigit (c.toNat / 16) :: hexDigit c.toNat :: rest) =
      .ok (c, rest) := by
  have code := digitsIn?_hexDigit c.toNat control
  have notLow : ¬ (0xDC00 ≤ c.toNat && c.toNat ≤ 0xDFFF) = true := by
    simp only [Bool.and_eq_true, decide_eq_true_eq]
    omega
  have notHigh : ¬ (0xD800 ≤ c.toNat && c.toNat ≤ 0xDBFF) = true := by
    simp only [Bool.and_eq_true, decide_eq_true_eq]
    omega
  unfold readEscape readUnicode readHex
  simp only [code, ok_bind]
  rw [if_neg notLow, if_neg notHigh, Char.ofNat_toNat]

/-- A character is written as an escape that is read as it, or it stands for itself. -/
theorem escaped_cases (c : Char) :
    (∃ text, escaped c = '\\' :: text ∧ ∀ rest, readEscape (text ++ rest) = .ok (c, rest)) ∨
      (escaped c = [c] ∧ c ≠ '"' ∧ c ≠ '\\' ∧ ¬ c.toNat < 0x20) := by
  unfold escaped
  split_ifs with quote backslash backspace feed line carriage tab control
  · subst quote
    exact .inl ⟨_, rfl, fun _ => rfl⟩
  · subst backslash
    exact .inl ⟨_, rfl, fun _ => rfl⟩
  · subst backspace
    exact .inl ⟨_, rfl, fun _ => rfl⟩
  · subst feed
    exact .inl ⟨_, rfl, fun _ => rfl⟩
  · subst line
    exact .inl ⟨_, rfl, fun _ => rfl⟩
  · subst carriage
    exact .inl ⟨_, rfl, fun _ => rfl⟩
  · subst tab
    exact .inl ⟨_, rfl, fun _ => rfl⟩
  · exact .inl ⟨_, rfl, readEscape_control control⟩
  · exact .inr ⟨rfl, quote, backslash, control⟩

theorem readQuoted_cons {c : Char} {cs text rest : List Char} {fuel : Nat}
    (more : readQuoted fuel text = .ok (cs, rest)) :
    readQuoted (fuel + 1) (escaped c ++ text) = .ok (c :: cs, rest) := by
  rcases escaped_cases c with ⟨escape, same, read⟩ | ⟨same, noQuote, noBackslash, visible⟩
  · rw [same, List.cons_append, readQuoted, read text, ok_bind]
    dsimp only
    rw [more]
    rfl
  · rw [same, List.singleton_append, readQuoted]
    · rw [if_neg visible, more]
      rfl
    · exact noQuote
    · exact noBackslash

theorem readQuoted_escaped (cs rest : List Char) {fuel : Nat} (enough : cs.length < fuel) :
    readQuoted fuel (cs.flatMap escaped ++ '"' :: rest) = .ok (cs, rest) := by
  induction cs generalizing fuel with
  | nil =>
      cases fuel with
      | zero => contradiction
      | succ fuel => rfl
  | cons c cs ih =>
      cases fuel with
      | zero => contradiction
      | succ fuel =>
          rw [List.flatMap_cons, List.append_assoc]
          exact readQuoted_cons (ih (Nat.lt_of_succ_lt_succ enough))

theorem length_le_escaped (cs : List Char) : cs.length ≤ (cs.flatMap escaped).length := by
  induction cs with
  | nil => exact Nat.le_refl _
  | cons c cs ih =>
      have one : 1 ≤ (escaped c).length := by
        rcases escaped_cases c with ⟨text, same, _⟩ | ⟨same, _⟩ <;> simp [same]
      rw [List.flatMap_cons, List.length_append, List.length_cons]
      omega

theorem readString_escaped (text : String) (rest : List Char) :
    readString (text.toList.flatMap escaped ++ '"' :: rest) = .ok (text, rest) := by
  have enough : text.toList.length < (text.toList.flatMap escaped ++ '"' :: rest).length := by
    have escapes := length_le_escaped text.toList
    rw [List.length_append, List.length_cons]
    omega
  rw [readString, readQuoted_escaped _ _ enough, ok_bind]
  simp only [String.ofList_toList]

/-- A number cannot go on with it. -/
def Ends : List Char → Prop
  | [] => True
  | c :: _ => c.isDigit = false ∧ c ≠ '.' ∧ c ≠ 'e' ∧ c ≠ 'E'

theorem Ends.head {rest : List Char} (ends : Ends rest) :
    ∀ c ∈ rest.head?, c.isDigit = false := by
  cases rest with
  | nil => simp
  | cons c rest =>
      rintro _ ⟨⟩
      exact ends.1

theorem takeWhile_digits {digits rest : List Char} (allDigits : AllDigits digits)
    (stops : ∀ c ∈ rest.head?, c.isDigit = false) :
    (digits ++ rest).takeWhile Char.isDigit = digits := by
  rw [List.takeWhile_append_of_pos allDigits]
  cases rest with
  | nil => simp
  | cons c rest => simp [stops c rfl]

theorem dropWhile_digits {digits rest : List Char} (allDigits : AllDigits digits)
    (stops : ∀ c ∈ rest.head?, c.isDigit = false) :
    (digits ++ rest).dropWhile Char.isDigit = rest := by
  rw [List.dropWhile_append_of_pos allDigits]
  cases rest with
  | nil => rfl
  | cons c rest => simp [stops c rfl]

/-- Digits without leading zeros. -/
structure Unpadded (digits : List Char) : Prop where
  nonempty : digits ≠ []
  allDigits : AllDigits digits
  single : digits.head? = some '0' → digits.length = 1

theorem head?_toDigits {n : Nat} (nonzero : n ≠ 0) : (Nat.toDigits 10 n).head? ≠ some '0' := by
  induction n using Nat.strongRecOn with
  | ind n ih =>
      rcases Nat.lt_or_ge n 10 with small | large
      · have digit : ∀ n < 10, n ≠ 0 → [n.digitChar].head? ≠ some '0' := by decide
        rw [Nat.toDigits_of_lt_base small]
        exact digit n small nonzero
      · have others := ih (n / 10) (by omega) (by omega)
        obtain ⟨first, rest, same⟩ := List.exists_cons_of_ne_nil
          (Nat.toDigits_ne_nil (n := n / 10) (b := 10))
        rw [Nat.toDigits_of_base_le (by decide) large]
        rw [same] at others ⊢
        exact others

theorem unpadded_toDigits (n : Nat) : Unpadded (Nat.toDigits 10 n) where
  nonempty := Nat.toDigits_ne_nil
  allDigits := allDigits_toDigits n
  single starts := by
    by_cases zero : n = 0
    · rw [zero]
      rfl
    · exact absurd starts (head?_toDigits zero)

theorem Unpadded.exists_cons {digits : List Char} (unpadded : Unpadded digits) :
    ∃ c cs, digits = c :: cs ∧ c.isDigit = true := by
  obtain ⟨c, cs, rfl⟩ := List.exists_cons_of_ne_nil unpadded.nonempty
  exact ⟨c, cs, rfl, unpadded.allDigits c (List.mem_cons_self ..)⟩

theorem not_refused_of_unpadded {whole : List Char} (unpadded : Unpadded whole) :
    ¬ (whole.isEmpty || (whole.length ≠ 1 && whole.head? == some '0')) = true := by
  have single := unpadded.single
  have nonempty := unpadded.nonempty
  simp only [Bool.or_eq_true, List.isEmpty_iff, Bool.and_eq_true, decide_eq_true_eq, beq_iff_eq]
  rintro (empty | ⟨many, zero⟩)
  · exact nonempty empty
  · exact many (single zero)

theorem readNumber_integer {value : Int} {rest : List Char} (fits : isInteger64 value = true)
    (ends : Ends rest) :
    readNumber (decide (value < 0)) (Nat.toDigits 10 value.natAbs ++ rest) =
      .ok (.integer value, rest) := by
  have unpadded := unpadded_toDigits value.natAbs
  unfold readNumber
  rw [takeWhile_digits unpadded.allDigits ends.head, dropWhile_digits unpadded.allDigits ends.head]
  dsimp only
  rw [if_neg (not_refused_of_unpadded unpadded), digitsValue_toDigits]
  have signed : (if decide (value < 0) = true then -(value.natAbs : Int) else value.natAbs) =
      value := by
    simp only [decide_eq_true_eq]
    split <;> omega
  have plain : (!(decide (value < 0) && value == 0)) = true := by
    simp only [Bool.not_eq_true', Bool.and_eq_false_imp, decide_eq_true_eq, beq_eq_false_iff_ne]
    omega
  rw [signed, fits, plain]
  split
  · exact absurd rfl ends.2.1
  · exact absurd rfl ends.2.2.1
  · exact absurd rfl ends.2.2.2
  · rfl

end Phrasebook.Json
