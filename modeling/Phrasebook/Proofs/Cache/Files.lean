import Phrasebook.Proofs.Cache.Clearing
import Phrasebook.Proofs.Cache.Shelf

namespace Phrasebook.FileStorage

open FileTree

variable {directory : String} {keys : String → Prop} {texts : Shelf} {place : FilePath}
  {tree : FileTree} {key : String}

/-- Of the given keys, no two share the name of a file. -/
def Named (keys : String → Prop) : Prop :=
  ∀ left right, keys left → keys right → Sha256.hexDigest left = Sha256.hexDigest right →
    left = right

theorem Named.recordName_iff (named : Named keys) {other : String} (known : keys key)
    (otherKnown : keys other) : recordName other = recordName key ↔ other = key := by
  constructor
  · exact fun same => named other key otherKnown known (hexDigest_of_recordName same)
  · rintro rfl
    rfl

/-- A directory that holds the texts of some keys, and no others of these keys. -/
structure Shelved (directory : String) (keys : String → Prop) (texts : Shelf) (place : FilePath)
    (tree : FileTree) : Prop where
  wellFormed : tree.WellFormed
  opens : tree.Opens directory place
  files : ∀ name, isRecordName name = true → tree.entry? (place ++ [name]) ≠ some .directory
  held : ∀ key, keys key →
    tree.entry? (place ++ [recordName key]) = (texts key).map fun text => .file text.toUTF8

/-- Where no directory stands in its way, a file is written beside its place and takes it then. -/
theorem publish_free (wellFormed : tree.WellFormed) (opens : tree.Opens directory place)
    (freeBeside : tree.entry? (place ++ [temporaryName key]) ≠ some .directory)
    (free : tree.entry? (place ++ [recordName key]) ≠ some .directory) (text : String) :
    ∃ other, runSteps directory key text [.writeTemporary, .publish] tree = (.ok (), other) ∧
      other.WellFormed ∧ Keeps tree other ∧
      ∀ goal, other.entry? goal =
        if goal = place ++ [recordName key] then some (.file text.toUTF8)
        else if goal = place ++ [temporaryName key] then none
        else tree.entry? goal := by
  obtain ⟨middle, other, written, renamed, changes⟩ :=
    write_rename wellFormed opens (plain_temporaryName key) (plain_recordName key)
      (recordName_ne_temporaryName key key) freeBeside free text.toUTF8
  refine ⟨other, ?_, changes⟩
  have first : WriteStep.run directory key text tree .writeTemporary = (.ok (), middle) := by
    simp only [WriteStep.run, temporaryPath_eq, written, outcome]
  have second : WriteStep.run directory key text middle .publish = (.ok (), other) := by
    simp only [WriteStep.run, temporaryPath_eq, recordPath, renamed, outcome]
  simp only [runSteps, first, second]

theorem set_of_opens (opens : tree.Opens directory place) (record : CacheRecord) :
    set directory key record tree =
      runSteps directory key record.encode [.writeTemporary, .publish] tree := by
  have made : WriteStep.run directory key record.encode tree .makeDirectory = (.ok (), tree) :=
    congrArg (outcome "create" directory) (createDirectories_of_opens opens)
  rw [set, runSteps, made]

namespace Shelved

theorem locate (shelved : Shelved directory keys texts place tree) {name : String}
    (record : isRecordName name = true) :
    tree.locate (join directory name) = .ok (place ++ [name], tree.entry? (place ++ [name])) :=
  shelved.opens.locate shelved.wellFormed (plain_of_isRecordName record)

theorem locate_record (shelved : Shelved directory keys texts place tree) (known : keys key) :
    tree.locate (recordPath directory key) =
      .ok (place ++ [recordName key], (texts key).map fun text => .file text.toUTF8) := by
  rw [← shelved.held key known]
  exact shelved.locate (isRecordName_recordName key)

theorem get (shelved : Shelved directory keys texts place tree) (known : keys key) :
    FileStorage.get directory key tree = (.ok ((texts key).bind CacheRecord.decode), tree) := by
  have file := shelved.held key known
  cases held : texts key with
  | none =>
      rw [held] at file
      rw [get_of_none shelved.wellFormed shelved.opens file, Option.bind_none]
  | some text =>
      rw [held] at file
      rw [get_of_text shelved.wellFormed shelved.opens file, Option.bind_some]

/-- A change of one record changes what is held for its key, and for no other one. -/
theorem changed (shelved : Shelved directory keys texts place tree) (named : Named keys)
    (known : keys key) {other : FileTree} {text : Option String} (wellFormed : other.WellFormed)
    (keeps : Keeps tree other)
    (files : ∀ name, isRecordName name = true → other.entry? (place ++ [name]) ≠ some .directory)
    (changed : ∀ wanted, other.entry? (place ++ [recordName wanted]) =
      if recordName wanted = recordName key then text.map fun text => .file text.toUTF8
      else tree.entry? (place ++ [recordName wanted])) :
    Shelved directory keys (fun wanted => if wanted = key then text else texts wanted) place
      other where
  wellFormed := wellFormed
  opens := keeps.opens shelved.opens
  files := files
  held := by
    intro wanted wantedKnown
    simp only [changed, named.recordName_iff known wantedKnown, shelved.held wanted wantedKnown]
    split <;> rfl

theorem remove (shelved : Shelved directory keys texts place tree) (named : Named keys)
    (known : keys key) :
    ∃ other, FileStorage.remove directory key tree = (.ok (), other) ∧
      Shelved directory keys (Storage.shelf.remove key texts).2 place other := by
  have file := shelved.held key known
  cases held : texts key with
  | none =>
      have located := shelved.locate_record known
      rw [held] at located file
      have removed := removeFile_of_absent (.inr ⟨_, located⟩)
      refine ⟨tree, by simp only [FileStorage.remove, removed],
        shelved.changed named known shelved.wellFormed (.refl tree) shelved.files fun wanted => ?_⟩
      split
      · next same => rw [same, file]
      · rfl
  | some text =>
      rw [held] at file
      obtain ⟨other, removed, wellFormed, keeps, erased⟩ :=
        removeFile_join shelved.wellFormed shelved.opens
          (plain_recordName key) file
      refine ⟨other, by simp only [FileStorage.remove, recordPath, removed, outcome],
        shelved.changed named known wellFormed keeps (fun name record => ?_) fun wanted => ?_⟩
      · rw [erased]
        split
        · simp
        · exact shelved.files name record
      · simp [erased]

theorem publish (shelved : Shelved directory keys texts place tree) (named : Named keys)
    (known : keys key) (record : CacheRecord) :
    ∃ other, runSteps directory key record.encode [.writeTemporary, .publish] tree =
        (.ok (), other) ∧
      Shelved directory keys (Storage.shelf.set key record texts).2 place other := by
  obtain ⟨other, published, wellFormed, keeps, changed⟩ :=
    publish_free shelved.wellFormed shelved.opens
      (shelved.files _ (isRecordName_temporaryName key))
      (shelved.files _ (isRecordName_recordName key)) record.encode
  refine ⟨other, published, shelved.changed named known wellFormed keeps
    (fun name isRecord => ?_) fun wanted => ?_⟩
  · rw [changed]
    split
    · simp
    · split
      · simp
      · exact shelved.files name isRecord
  · simp [changed, recordName_ne_temporaryName wanted key]

theorem set (shelved : Shelved directory keys texts place tree) (named : Named keys)
    (known : keys key) (record : CacheRecord) :
    ∃ other, FileStorage.set directory key record tree = (.ok (), other) ∧
      Shelved directory keys (Storage.shelf.set key record texts).2 place other := by
  rw [set_of_opens shelved.opens]
  exact shelved.publish named known record

end Shelved

theorem Shelved.clear (shelved : Shelved directory keys texts place tree)
    (nonempty : directory ≠ "") :
    ∃ other, FileStorage.clear directory tree = (.ok (), other) ∧
      Shelved directory keys (fun _ => none) place other := by
  have there := shelved.opens.located nonempty
  have outcome : ClearOutcome directory tree (FileStorage.clear directory tree) :=
    clearInOrder_located shelved.wellFormed there List.Perm.refl
  generalize FileStorage.clear directory tree = result at outcome ⊢
  cases outcome with
  | missing absent => exact absurd absent (not_absent there)
  | unlisted _ noDirectory => exact absurd there (noDirectory place)
  | emptied located removed records gone =>
      cases located.symm.trans there
      refine ⟨_, rfl, removed.wellFormed, removed.keeps.opens shelved.opens, fun name record => ?_,
        fun key _ => gone _ (isRecordName_recordName key)⟩
      rw [gone name record]
      simp
  | stopped located removed records record isDirectory =>
      cases located.symm.trans there
      exact absurd isDirectory (shelved.files _ record)

/-- The directory is not there, and holds nothing of the keys when it is made. -/
structure Unmade (directory : String) (keys : String → Prop) (place : FilePath) (tree : FileTree) :
    Prop where
  wellFormed : tree.WellFormed
  missing : tree.Missing directory
  makes : (tree.createDirectories directory).1 = .ok ()
  empty : Shelved directory keys (fun _ => none) place (tree.createDirectories directory).2

namespace Unmade

theorem locate_record (unmade : Unmade directory keys place tree) (key : String) :
    tree.locate (recordPath directory key) = .error .notFound :=
  locate_join_missing unmade.wellFormed (plain_recordName key) unmade.missing

theorem get (unmade : Unmade directory keys place tree) (key : String) :
    FileStorage.get directory key tree = (.ok none, tree) :=
  get_of_missing unmade.wellFormed unmade.missing

theorem remove (unmade : Unmade directory keys place tree) (key : String) :
    FileStorage.remove directory key tree = (.ok (), tree) := by
  have located := unmade.locate_record key
  simp only [FileStorage.remove, removeFile, located]

theorem clear (unmade : Unmade directory keys place tree) :
    FileStorage.clear directory tree = (.ok (), tree) :=
  clearInOrder_of_absent (locate_missing unmade.missing)

theorem set (unmade : Unmade directory keys place tree) (named : Named keys) (known : keys key)
    (record : CacheRecord) :
    ∃ other, FileStorage.set directory key record tree = (.ok (), other) ∧
      Shelved directory keys (Storage.shelf.set key record fun _ => none).2 place other := by
  obtain ⟨other, published, after⟩ := unmade.empty.publish named known record
  refine ⟨other, ?_, after⟩
  have makes := unmade.makes
  generalize created : tree.createDirectories directory = result at makes published
  obtain ⟨answer, made⟩ := result
  cases makes
  have first : WriteStep.run directory key record.encode tree .makeDirectory = (.ok (), made) :=
    congrArg (outcome "create" directory) created
  rw [FileStorage.set, runSteps, first]
  exact published

end Unmade

/-- A tree that holds what a map holds for some keys, in a directory that may be still to be
made. -/
def Shows (directory : String) (keys : String → Prop) (texts : Shelf) (tree : FileTree) : Prop :=
  ∃ place, Shelved directory keys texts place tree ∨
    (Unmade directory keys place tree ∧ ∀ key, keys key → texts key = none)

namespace Shows

theorem get (shown : Shows directory keys texts tree) (known : keys key) :
    ((Storage.files directory).get key tree).1 = (Storage.shelf.get key texts).1 ∧
      Shows directory keys (Storage.shelf.get key texts).2
        ((Storage.files directory).get key tree).2 := by
  obtain ⟨place, shelved | ⟨unmade, empty⟩⟩ := shown
  · simp only [Storage.files, shelved.get known]
    exact ⟨rfl, place, .inl shelved⟩
  · simp only [Storage.files, unmade.get key, Storage.shelf, empty key known]
    exact ⟨rfl, place, .inr ⟨unmade, empty⟩⟩

theorem set (shown : Shows directory keys texts tree) (named : Named keys) (known : keys key)
    (record : CacheRecord) :
    ((Storage.files directory).set key record tree).1 = (Storage.shelf.set key record texts).1 ∧
      Shows directory keys (Storage.shelf.set key record texts).2
        ((Storage.files directory).set key record tree).2 := by
  obtain ⟨place, shelved | ⟨unmade, empty⟩⟩ := shown
  · obtain ⟨other, isSet, after⟩ := shelved.set named known record
    simp only [Storage.files, isSet]
    exact ⟨rfl, place, .inl after⟩
  · obtain ⟨other, isSet, after⟩ := unmade.set named known record
    simp only [Storage.files, isSet]
    refine ⟨rfl, place, .inl { after with held := fun wanted wantedKnown => ?_ }⟩
    rw [after.held wanted wantedKnown]
    simp only [Storage.shelf, empty wanted wantedKnown]

theorem remove (shown : Shows directory keys texts tree) (named : Named keys) (known : keys key) :
    ((Storage.files directory).remove key tree).1 = (Storage.shelf.remove key texts).1 ∧
      Shows directory keys (Storage.shelf.remove key texts).2
        ((Storage.files directory).remove key tree).2 := by
  obtain ⟨place, shelved | ⟨unmade, empty⟩⟩ := shown
  · obtain ⟨other, removed, after⟩ := shelved.remove named known
    simp only [Storage.files, removed]
    exact ⟨rfl, place, .inl after⟩
  · simp only [Storage.files, unmade.remove key]
    refine ⟨rfl, place, .inr ⟨unmade, fun wanted wantedKnown => ?_⟩⟩
    simp only [Storage.shelf, empty wanted wantedKnown, ite_self]

theorem clear (shown : Shows directory keys texts tree) (nonempty : directory ≠ "") :
    ((Storage.files directory).clear tree).1 = .ok () ∧
      Shows directory keys (fun _ => none) ((Storage.files directory).clear tree).2 := by
  obtain ⟨place, shelved | ⟨unmade, empty⟩⟩ := shown
  · obtain ⟨other, cleared, after⟩ := shelved.clear nonempty
    simp only [Storage.files, cleared]
    exact ⟨trivial, place, .inl after⟩
  · simp only [Storage.files, unmade.clear]
    exact ⟨trivial, place, .inr ⟨unmade, fun _ _ => rfl⟩⟩

end Shows

theorem mirrors (named : Named keys) (nonempty : directory ≠ "") :
    (Storage.files directory).Mirrors Storage.shelf keys (Shows directory keys) where
  get shown known := shown.get known
  set shown known record := shown.set named known record
  remove shown known := shown.remove named known
  clear shown := shown.clear nonempty

/-- The empty path leads to the base for the names of records, and nowhere where it is listed. -/
theorem mirrors_empty (named : Named keys) :
    (Storage.files "").Mirrors Storage.keepingShelf keys (Shows "" keys) where
  get shown known := shown.get known
  set shown known record := shown.set named known record
  remove shown known := shown.remove named known
  clear shown := ⟨rfl, shown⟩

/-- The directory can be made, and there is no record in it. -/
def Vacant (directory : String) (tree : FileTree) : Prop :=
  (tree.createDirectories directory).1 = .ok () ∧
    ∃ place, (tree.createDirectories directory).2.Opens directory place ∧
      ∀ name, isRecordName name = true →
        FileTree.entry? (tree.createDirectories directory).2 (place ++ [name]) = none

theorem Vacant.shows (vacant : Vacant directory tree) (wellFormed : tree.WellFormed)
    (keys : String → Prop) : Shows directory keys (fun _ => none) tree := by
  obtain ⟨makes, place, opens, absent⟩ := vacant
  have grown := grown_createDirectories tree directory
  have empty : Shelved directory keys (fun _ => none) place
      (tree.createDirectories directory).2 :=
    ⟨grown.wellFormed wellFormed, opens, fun name record => by simp [absent name record],
      fun key _ => absent _ (isRecordName_recordName key)⟩
  by_cases isEmpty : directory = ""
  · subst isEmpty
    exact ⟨place, .inl empty⟩
  · rcases grown.locate (opens.located isEmpty) with there | missing
    · rw [createDirectories_of_opens (opens_of_located there)] at empty
      exact ⟨place, .inl empty⟩
    · exact ⟨place, .inr ⟨⟨wellFormed, missing, makes, empty⟩, fun _ _ => rfl⟩⟩

/-- A tree with a single file, which is no record. -/
def note : FileTree :=
  ⟨"", [], [(["note.txt"], .file "kept".toUTF8)]⟩

theorem note_wellFormed : note.WellFormed :=
  ⟨.inl rfl, by simp [note, Keyed.Distinct, Keyed.keys]⟩

theorem vacant_note : Vacant "data/cache" note := by
  have made : note.createDirectories "data/cache" =
      (.ok (), (note.put ["data"] .directory).put ["data", "cache"] .directory) := rfl
  unfold Vacant
  rw [made]
  refine ⟨rfl, ["data", "cache"], ⟨[], ["data", "cache"], rfl, rfl⟩, fun name _ => ?_⟩
  simp [note, put, Keyed.put, entry?, Keyed.get?]

end Phrasebook.FileStorage
