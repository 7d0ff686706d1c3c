import Phrasebook.Cache.FileStorage
import Phrasebook.Proofs.FileTree.Paths

namespace Phrasebook

namespace FileStorage

theorem isLowerHex_digitChar {digit : Nat} (small : digit < 16) :
    isLowerHex (Nat.digitChar digit) = true := by
  have all : ∀ digit < 16, isLowerHex (Nat.digitChar digit) = true := by decide
  exact all digit small

theorem isLowerHex_hexDigest {key : String} {c : Char}
    (member : c ∈ (Sha256.hexDigest key).toList) : isLowerHex c = true := by
  simp only [Sha256.hexDigest, String.toList_ofList, List.mem_flatMap, Sha256.hexDigits,
    List.mem_map] at member
  obtain ⟨word, _, shift, _, rfl⟩ := member
  exact isLowerHex_digitChar (Nat.mod_lt _ (by omega))

theorem length_hexDigest (key : String) : (Sha256.hexDigest key).toList.length = 64 := by
  simp [Sha256.hexDigest, Sha256.State.words, Sha256.hexDigits]

theorem toList_recordName (key : String) :
    (recordName key).toList = (Sha256.hexDigest key).toList ++ ".json".toList := by
  rw [recordName, String.toList_append]

def temporaryName (key : String) : String :=
  recordName key ++ ".tmp"

theorem temporaryPath_eq (directory key : String) :
    temporaryPath directory key = FileTree.join directory (temporaryName key) := rfl

theorem toList_temporaryName (key : String) :
    (temporaryName key).toList = (Sha256.hexDigest key).toList ++ ".json.tmp".toList := by
  rw [temporaryName, String.toList_append, toList_recordName, List.append_assoc]
  rfl

/-- Sixty-four hexadecimal digits in lower case, and one of the two extensions. -/
def RecordName (name : String) : Prop :=
  ∃ digits extension : String, name = digits ++ extension ∧ digits.toList.length = 64 ∧
    (∀ c ∈ digits.toList, isLowerHex c = true) ∧
    (extension = ".json" ∨ extension = ".json.tmp")

theorem isRecordName_iff {name : String} : isRecordName name = true ↔ RecordName name := by
  simp only [isRecordName, Bool.and_eq_true, decide_eq_true_eq, List.all_eq_true,
    Bool.or_eq_true]
  constructor
  · rintro ⟨⟨whole, hex⟩, ending⟩
    refine ⟨String.ofList (name.toList.take 64), String.ofList (name.toList.drop 64), ?_, ?_, ?_,
      ending⟩
    · rw [← String.ofList_append, List.take_append_drop, String.ofList_toList]
    · rw [String.toList_ofList, whole]
    · rw [String.toList_ofList]
      exact hex
  · rintro ⟨digits, extension, rfl, whole, hex, ending⟩
    have stem : (digits ++ extension).toList.take 64 = digits.toList := by
      rw [String.toList_append, ← whole, List.take_left]
    have rest : (digits ++ extension).toList.drop 64 = extension.toList := by
      rw [String.toList_append, ← whole, List.drop_left]
    rw [stem, rest, String.ofList_toList]
    exact ⟨⟨whole, hex⟩, ending⟩

theorem isRecordName_recordName (key : String) : isRecordName (recordName key) = true :=
  isRecordName_iff.mpr ⟨Sha256.hexDigest key, ".json", rfl, length_hexDigest key,
    fun _ => isLowerHex_hexDigest, .inl rfl⟩

theorem isRecordName_temporaryName (key : String) : isRecordName (temporaryName key) = true := by
  have whole : temporaryName key = Sha256.hexDigest key ++ ".json.tmp" := by
    rw [temporaryName, recordName, String.append_assoc]
    rfl
  exact isRecordName_iff.mpr ⟨Sha256.hexDigest key, ".json.tmp", whole, length_hexDigest key,
    fun _ => isLowerHex_hexDigest, .inr rfl⟩

theorem plain_of_isRecordName {name : String} (record : isRecordName name = true) :
    FileTree.Plain name := by
  obtain ⟨digits, extension, rfl, whole, hex, ending⟩ := isRecordName_iff.mp record
  have short : ∀ {text : String}, text.toList.length < 64 → digits ++ extension ≠ text := by
    rintro _ bound rfl
    rw [String.toList_append, List.length_append] at bound
    omega
  refine ⟨short (by decide), short (by decide), short (by decide), fun slash => ?_⟩
  rw [String.toList_append, List.mem_append] at slash
  rcases slash with slash | slash
  · exact absurd (hex _ slash) (by decide)
  · rcases ending with rfl | rfl
    · exact absurd slash (by decide)
    · exact absurd slash (by decide)

theorem plain_recordName (key : String) : FileTree.Plain (recordName key) :=
  plain_of_isRecordName (isRecordName_recordName key)

theorem plain_temporaryName (key : String) : FileTree.Plain (temporaryName key) :=
  plain_of_isRecordName (isRecordName_temporaryName key)

theorem recordName_ne_temporaryName (key other : String) :
    recordName key ≠ temporaryName other := by
  intro same
  have lengths := congrArg (fun name : String => name.toList.length) same
  simp only [toList_recordName, toList_temporaryName, List.length_append, length_hexDigest]
    at lengths
  contradiction

theorem hexDigest_of_recordName {key other : String} (same : recordName key = recordName other) :
    Sha256.hexDigest key = Sha256.hexDigest other := by
  have lists := congrArg String.toList same
  rw [toList_recordName, toList_recordName] at lists
  exact String.toList_inj.mp (List.append_cancel_right lists)

end FileStorage

end Phrasebook
