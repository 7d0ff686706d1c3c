import Phrasebook.Proofs.Json.Collapse
import Phrasebook.Error

namespace Phrasebook.Json

mutual

/-- The number of arrays and objects inside each other. -/
def levels : Json → Nat
  | .array items => itemsLevels items + 1
  | .object entries => entriesLevels entries + 1
  | _ => 0

def itemsLevels : List Json → Nat
  | [] => 0
  | item :: items => max item.levels (itemsLevels items)

def entriesLevels : List (String × Json) → Nat
  | [] => 0
  | (_, value) :: entries => max value.levels (entriesLevels entries)

end

theorem itemsLevels_le_iff {items : List Json} {bound : Nat} :
    itemsLevels items ≤ bound ↔ ∀ item ∈ items, item.levels ≤ bound := by
  induction items with
  | nil => simp [itemsLevels]
  | cons item items ih => rw [itemsLevels, Nat.max_le, List.forall_mem_cons, ih]

theorem entriesLevels_le_iff {entries : List (String × Json)} {bound : Nat} :
    entriesLevels entries ≤ bound ↔ ∀ entry ∈ entries, entry.2.levels ≤ bound := by
  induction entries with
  | nil => simp [entriesLevels]
  | cons entry entries ih => rw [entriesLevels, Nat.max_le, List.forall_mem_cons, ih]

/-- Values that a reader with so many levels can give: integers have 64 bits and doubles are
finite. -/
inductive Readable : Nat → Json → Prop where
  | null {bound : Nat} : Readable bound .null
  | bool {bound : Nat} (flag : Bool) : Readable bound (.bool flag)
  | integer {bound : Nat} {value : Int} (fits : isInteger64 value = true) :
      Readable bound (.integer value)
  | double {bound : Nat} (negative : Bool) (magnitude : Magnitude) :
      Readable bound (.double (.finite negative magnitude))
  | string {bound : Nat} (text : String) : Readable bound (.string text)
  | array {bound : Nat} {items : List Json} (each : ∀ item ∈ items, Readable bound item) :
      Readable (bound + 1) (.array items)
  | object {bound : Nat} {entries : List (String × Json)}
      (each : ∀ entry ∈ entries, Readable bound entry.2) : Readable (bound + 1) (.object entries)

/-- All numbers of a value are integers. -/
inductive Integral : Json → Prop where
  | null : Integral .null
  | bool (flag : Bool) : Integral (.bool flag)
  | integer (value : Int) : Integral (.integer value)
  | string (text : String) : Integral (.string text)
  | array {items : List Json} (each : ∀ item ∈ items, Integral item) : Integral (.array items)
  | object {entries : List (String × Json)} (each : ∀ entry ∈ entries, Integral entry.2) :
      Integral (.object entries)

theorem Integral.items {items : List Json} (integral : Integral (.array items)) :
    ∀ item ∈ items, item.Integral := by
  cases integral with
  | array each => exact each

theorem Integral.entries {entries : List (String × Json)}
    (integral : Integral (.object entries)) : ∀ entry ∈ entries, entry.2.Integral := by
  cases integral with
  | object each => exact each

theorem Readable.levels_le {bound : Nat} {value : Json} (readable : value.Readable bound) :
    value.levels ≤ bound := by
  induction readable with
  | null => exact Nat.zero_le _
  | bool flag => exact Nat.zero_le _
  | integer fits => exact Nat.zero_le _
  | double negative magnitude => exact Nat.zero_le _
  | string text => exact Nat.zero_le _
  | array each ih => exact Nat.succ_le_succ (itemsLevels_le_iff.mpr ih)
  | object each ih => exact Nat.succ_le_succ (entriesLevels_le_iff.mpr ih)

theorem Readable.of_levels_le {bound : Nat} {value : Json} (readable : value.Readable bound)
    {most : Nat} (small : value.levels ≤ most) : value.Readable most := by
  induction readable generalizing most with
  | null => exact .null
  | bool flag => exact .bool flag
  | integer fits => exact .integer fits
  | double negative magnitude => exact .double negative magnitude
  | string text => exact .string text
  | @array bound items each ih =>
      unfold levels at small
      obtain ⟨inner, rfl⟩ := Nat.exists_eq_add_of_le' (Nat.le_of_add_left_le small)
      have within := itemsLevels_le_iff.mp (Nat.le_of_succ_le_succ small)
      exact .array fun item member => ih item member (within item member)
  | @object bound entries each ih =>
      unfold levels at small
      obtain ⟨inner, rfl⟩ := Nat.exists_eq_add_of_le' (Nat.le_of_add_left_le small)
      have within := entriesLevels_le_iff.mp (Nat.le_of_succ_le_succ small)
      exact .object fun entry member => ih entry member (within entry member)

theorem mem_collapseItems {item : Json} {items : List Json} (member : item ∈ collapseItems items) :
    ∃ written ∈ items, item = written.collapse := by
  induction items with
  | nil => contradiction
  | cons first items ih =>
      rcases List.mem_cons.mp member with rfl | member
      · exact ⟨first, by simp, rfl⟩
      · obtain ⟨written, among, same⟩ := ih member
        exact ⟨written, List.mem_cons_of_mem _ among, same⟩

theorem mem_collapseEntries {entry : String × Json} {entries before : List (String × Json)}
    (member : entry ∈ collapseEntries before entries) :
    entry ∈ before ∨ ∃ written ∈ entries, entry.2 = written.2.collapse := by
  induction entries generalizing before with
  | nil => exact .inl member
  | cons first entries ih =>
      rcases ih member with member | ⟨written, among, same⟩
      · rcases Keyed.mem_put member with rfl | member
        · exact .inr ⟨first, by simp, rfl⟩
        · exact .inl member
      · exact .inr ⟨written, List.mem_cons_of_mem _ among, same⟩

theorem Readable.collapse {bound : Nat} {value : Json} (readable : value.Readable bound) :
    value.collapse.Readable bound := by
  induction readable with
  | null => exact .null
  | bool flag => exact .bool flag
  | integer fits => exact .integer fits
  | double negative magnitude => exact .double negative magnitude
  | string text => exact .string text
  | array each ih =>
      refine .array fun item member => ?_
      obtain ⟨written, among, rfl⟩ := mem_collapseItems member
      exact ih written among
  | object each ih =>
      refine .object fun entry member => ?_
      rcases mem_collapseEntries member with nothing | ⟨written, among, same⟩
      · contradiction
      · rw [same]
        exact ih written among

variable {α : Type} {closing : Char} {item wider : Reader α}

theorem readSeparated_mem {fuel : Nat} {cs rest : List Char} {values : List α}
    (read : readSeparated closing item fuel cs = .ok (values, rest)) {value : α}
    (member : value ∈ values) : ∃ before after, item before = .ok (value, after) := by
  induction fuel generalizing cs values with
  | zero => contradiction
  | succ fuel ih =>
      unfold readSeparated at read
      obtain ⟨⟨first, left⟩, readFirst, read⟩ := bind_eq_ok read
      dsimp only at read
      split at read
      · contradiction
      · split at read
        · obtain ⟨⟨others, after⟩, readOthers, read⟩ := bind_eq_ok read
          cases read
          rcases List.mem_cons.mp member with rfl | member
          · exact ⟨cs, left, readFirst⟩
          · exact ih readOthers member
        · split at read
          · cases read
            cases List.mem_singleton.mp member
            exact ⟨cs, left, readFirst⟩
          · contradiction

theorem readContainer_mem {cs rest : List Char} {values : List α}
    (read : readContainer closing item cs = .ok (values, rest)) {value : α}
    (member : value ∈ values) : ∃ before after, item before = .ok (value, after) := by
  unfold readContainer at read
  split at read
  · contradiction
  · split at read
    · cases read
      contradiction
    · exact readSeparated_mem read member

theorem readSeparated_mono
    (more : ∀ cs result, item cs = .ok result → wider cs = .ok result) {fuel : Nat}
    {cs : List Char} {result : List α × List Char}
    (read : readSeparated closing item fuel cs = .ok result) :
    readSeparated closing wider fuel cs = .ok result := by
  induction fuel generalizing cs result with
  | zero => contradiction
  | succ fuel ih =>
      unfold readSeparated at read ⊢
      obtain ⟨⟨first, left⟩, readFirst, read⟩ := bind_eq_ok read
      rw [more cs _ readFirst, ok_bind]
      dsimp only at read ⊢
      split at read
      · contradiction
      · split at read
        · next comma =>
            obtain ⟨⟨others, after⟩, readOthers, read⟩ := bind_eq_ok read
            rw [if_pos comma, ih readOthers]
            exact read
        · next noComma =>
            rw [if_neg noComma]
            exact read

theorem readContainer_mono
    (more : ∀ cs result, item cs = .ok result → wider cs = .ok result) {cs : List Char}
    {result : List α × List Char} (read : readContainer closing item cs = .ok result) :
    readContainer closing wider cs = .ok result := by
  unfold readContainer at read ⊢
  split at read
  · contradiction
  · split at read
    · next closed =>
        rw [if_pos closed]
        exact read
    · next opened =>
        rw [if_neg opened]
        exact readSeparated_mono more read

variable {bound : Nat} {cs rest : List Char} {value : Json}

theorem readable_of_doubleOf {negative : Bool} {whole fraction : List Char} {exponent : Int}
    (read : doubleOf negative whole fraction exponent cs = .ok (value, rest)) :
    value.Readable bound := by
  unfold doubleOf at read
  dsimp only at read
  split at read
  · cases read
    exact .double _ _
  · contradiction

theorem readable_of_finishDouble {negative : Bool} {whole fraction : List Char}
    (read : finishDouble negative whole fraction cs = .ok (value, rest)) :
    value.Readable bound := by
  unfold finishDouble at read
  split at read
  · obtain ⟨_, _, read⟩ := bind_eq_ok read
    exact readable_of_doubleOf read
  · obtain ⟨_, _, read⟩ := bind_eq_ok read
    exact readable_of_doubleOf read
  · exact readable_of_doubleOf read

theorem readable_of_readNumber {negative : Bool}
    (read : readNumber negative cs = .ok (value, rest)) : value.Readable bound := by
  unfold readNumber at read
  dsimp only at read
  split at read
  · contradiction
  split at read
  · split at read
    · contradiction
    · exact readable_of_finishDouble read
  · exact readable_of_finishDouble read
  · exact readable_of_finishDouble read
  · generalize (if negative = true then -(digitsValue (cs.takeWhile Char.isDigit) : Int)
      else digitsValue (cs.takeWhile Char.isDigit)) = number at read
    split at read
    · next fits =>
        cases read
        exact .integer (Bool.and_eq_true_iff.mp fits).1
    · exact readable_of_finishDouble read

theorem readable_of_readScalar (read : readScalar cs = .ok (value, rest)) :
    value.Readable bound := by
  unfold readScalar at read
  split at read
  · cases read
    exact .null
  · cases read
    exact .bool true
  · cases read
    exact .bool false
  · obtain ⟨⟨text, after⟩, _, read⟩ := bind_eq_ok read
    cases read
    exact .string text
  · exact readable_of_readNumber read
  · contradiction
  · split at read
    · exact readable_of_readNumber read
    · contradiction

theorem readEntry_eq_ok {reader : Reader Json} {entry : String × Json}
    (read : readEntry reader cs = .ok (entry, rest)) :
    ∃ after, readKey cs = .ok (entry.1, after) ∧ reader after = .ok (entry.2, rest) := by
  unfold readEntry at read
  obtain ⟨⟨key, after⟩, readKey, read⟩ := bind_eq_ok read
  obtain ⟨⟨value, left⟩, readValue, read⟩ := bind_eq_ok read
  cases read
  exact ⟨after, readKey, readValue⟩

theorem readable_of_readValue (read : readValue bound cs = .ok (value, rest)) :
    value.Readable bound := by
  induction bound generalizing cs value rest with
  | zero =>
      unfold readValue at read
      split at read
      · contradiction
      · contradiction
      · exact readable_of_readScalar read
  | succ bound ih =>
      unfold readValue at read
      split at read
      · obtain ⟨⟨items, after⟩, readItems, read⟩ := bind_eq_ok read
        cases read
        refine .array fun item member => ?_
        obtain ⟨before, left, readItem⟩ := readContainer_mem readItems member
        exact ih readItem
      · obtain ⟨⟨entries, after⟩, readEntries, read⟩ := bind_eq_ok read
        cases read
        refine .object fun entry member => ?_
        obtain ⟨before, left, readMember⟩ := readContainer_mem readEntries member
        obtain ⟨middle, _, readInner⟩ := readEntry_eq_ok readMember
        exact ih readInner
      · exact readable_of_readScalar read

/-- A reader with more levels reads the same. -/
theorem readValue_mono {result : Json × List Char} (read : readValue bound cs = .ok result) :
    readValue (bound + 1) cs = .ok result := by
  induction bound generalizing cs result with
  | zero =>
      unfold readValue at read ⊢
      split at read
      · contradiction
      · contradiction
      · exact read
  | succ bound ih =>
      have wider : ∀ cs result, readValue bound cs = .ok result →
          readValue (bound + 1) cs = .ok result := fun _ _ => ih
      unfold readValue at read ⊢
      split at read
      · unfold readArray at read ⊢
        obtain ⟨items, readItems, read⟩ := bind_eq_ok read
        rw [readContainer_mono wider readItems]
        exact read
      · unfold readObject readEntries at read ⊢
        obtain ⟨entries, readEntries, read⟩ := bind_eq_ok read
        have widerEntry : ∀ cs result, readEntry (readValue bound) cs = .ok result →
            readEntry (readValue (bound + 1)) cs = .ok result := by
          intro cs result readOne
          obtain ⟨after, readKey, readInner⟩ := readEntry_eq_ok readOne
          unfold readEntry
          rw [readKey, ok_bind]
          dsimp only
          rw [wider _ _ readInner]
          rfl
        rw [readContainer_mono widerEntry readEntries]
        exact read
      · exact read

end Phrasebook.Json

namespace Phrasebook.Dictionary

theorem readable_of_read {text : String} {dictionary : Dictionary}
    (read : Dictionary.read text = .ok dictionary) :
    dictionary.toJson.Readable Json.maxLevels := by
  unfold Dictionary.read at read
  split at read
  · next value document =>
      unfold Json.readDocument at document
      obtain ⟨⟨found, rest⟩, readFound, document⟩ := bind_eq_ok document
      dsimp only at document
      split at document
      · cases document
        rw [toJson_of_ofJson read]
        exact (Json.readable_of_readValue readFound).collapse
      · contradiction
  · contradiction

end Phrasebook.Dictionary
