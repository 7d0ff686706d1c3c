import Phrasebook.Proofs.Cache.Names
import Phrasebook.Proofs.FileTree.Changes

namespace Phrasebook.FileStorage

open FileTree

variable {directory key : String} {tree after : FileTree} {place : FilePath} {content : ByteArray}

theorem get_of_readText {text : String}
    (read : tree.readText (recordPath directory key) = .ok text) :
    get directory key tree = (.ok (CacheRecord.decode text), tree) := by
  simp only [get, read]

theorem get_of_notFound (read : tree.readText (recordPath directory key) = .error .notFound) :
    get directory key tree = (.ok none, tree) := by
  simp only [get, read]

theorem get_of_invalidText (read : tree.readText (recordPath directory key) = .error .invalidText) :
    get directory key tree =
      (.error (fault "read" (recordPath directory key) .invalidText), tree) := by
  simp only [get, read]

theorem get_congr (same : after.readText (recordPath directory key) =
    tree.readText (recordPath directory key)) :
    (get directory key after).1 = (get directory key tree).1 := by
  simp only [get, same]
  split <;> rfl

/-- Without the directory there are no records. -/
theorem get_of_missing (wellFormed : tree.WellFormed) (missing : tree.Missing directory) :
    get directory key tree = (.ok none, tree) :=
  get_of_notFound (readText_of_absent
    (.inl (locate_join_missing wellFormed (plain_recordName key) missing)))

theorem get_of_none (wellFormed : tree.WellFormed) (opens : tree.Opens directory place)
    (absent : tree.entry? (place ++ [recordName key]) = none) :
    get directory key tree = (.ok none, tree) := by
  have located := opens.locate wellFormed (plain_recordName key)
  rw [absent] at located
  exact get_of_notFound (readText_of_absent (.inr ⟨_, located⟩))

theorem get_of_text (wellFormed : tree.WellFormed) (opens : tree.Opens directory place)
    {text : String}
    (file : tree.entry? (place ++ [recordName key]) = some (.file text.toUTF8)) :
    get directory key tree = (.ok (CacheRecord.decode text), tree) := by
  have located := opens.locate wellFormed (plain_recordName key)
  rw [file] at located
  exact get_of_readText (readText_of_locate located)

theorem get_of_invalid (wellFormed : tree.WellFormed) (opens : tree.Opens directory place)
    (file : tree.entry? (place ++ [recordName key]) = some (.file content))
    (invalid : ¬ content.IsValidUTF8) :
    get directory key tree =
      (.error (fault "read" (recordPath directory key) .invalidText), tree) := by
  have located := opens.locate wellFormed (plain_recordName key)
  rw [file] at located
  exact get_of_invalidText (readText_of_invalid located invalid)

end Phrasebook.FileStorage
