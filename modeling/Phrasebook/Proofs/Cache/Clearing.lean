import Phrasebook.Proofs.Cache.Lookup
import Phrasebook.Proofs.Cache.RoundTrip

namespace Phrasebook.FileStorage

open FileTree

variable {directory : String} {place : FilePath} {tree middle after : FileTree}
  {names : List String} {order : List String → List String}

/-- Files with the given names have been removed from a directory, and nothing else. -/
structure Removed (place : FilePath) (names : List String) (tree after : FileTree) : Prop where
  wellFormed : after.WellFormed
  keeps : Keeps tree after
  files : ∀ name ∈ names, ∃ content, tree.entry? (place ++ [name]) = some (.file content)
  gone : ∀ name ∈ names, after.entry? (place ++ [name]) = none
  kept : ∀ goal, (∀ name ∈ names, goal ≠ place ++ [name]) → after.entry? goal = tree.entry? goal

theorem others_ne {name : String} (absent : name ∉ names) :
    ∀ other ∈ names, place ++ [name] ≠ place ++ [other] := by
  rintro other member same
  obtain rfl : name = other := by simpa using same
  exact absent member

namespace Removed

theorem nil (wellFormed : tree.WellFormed) (place : FilePath) : Removed place [] tree tree where
  wellFormed := wellFormed
  keeps := .refl tree
  files _ member := absurd member List.not_mem_nil
  gone _ member := absurd member List.not_mem_nil
  kept _ _ := rfl

theorem cons {name : String} {content : ByteArray}
    (file : tree.entry? (place ++ [name]) = some (.file content)) (keeps : Keeps tree middle)
    (erased : ∀ goal, middle.entry? goal =
      if goal = place ++ [name] then none else tree.entry? goal)
    (removed : Removed place names middle after) : Removed place (name :: names) tree after where
  wellFormed := removed.wellFormed
  keeps := keeps.trans removed.keeps
  files := by
    intro other member
    rcases List.mem_cons.mp member with rfl | member
    · exact ⟨content, file⟩
    · obtain ⟨content, found⟩ := removed.files other member
      rw [erased] at found
      split at found
      · contradiction
      · exact ⟨content, found⟩
  gone := by
    intro other member
    by_cases later : other ∈ names
    · exact removed.gone other later
    · obtain rfl | member := List.mem_cons.mp member
      · rw [removed.kept _ (others_ne later), erased, if_pos rfl]
      · exact absurd member later
  kept := by
    intro goal elsewhere
    obtain ⟨different, elsewhere⟩ := List.forall_mem_cons.mp elsewhere
    rw [removed.kept goal elsewhere, erased, if_neg different]

end Removed

/-- A walk along names of a directory removes the files that come before the first directory. -/
theorem removeAll_cases (wellFormed : tree.WellFormed) (opens : tree.Opens directory place)
    (nodup : names.Nodup) (plain : ∀ name ∈ names, Plain name)
    (present : ∀ name ∈ names, tree.entry? (place ++ [name]) ≠ none) :
    ∃ first left after, names = first ++ left ∧ Removed place first tree after ∧
      ((left = [] ∧ removeAll directory names tree = (.ok (), after)) ∨
        ∃ name rest error, left = name :: rest ∧
          tree.entry? (place ++ [name]) = some .directory ∧
          removeAll directory names tree = (.error error, after)) := by
  induction names generalizing tree with
  | nil => exact ⟨[], [], tree, rfl, .nil wellFormed place, .inl ⟨rfl, rfl⟩⟩
  | cons name names ih =>
      obtain ⟨notLater, nodup⟩ := List.nodup_cons.mp nodup
      obtain ⟨here, plain⟩ := List.forall_mem_cons.mp plain
      obtain ⟨there, present⟩ := List.forall_mem_cons.mp present
      cases found : tree.entry? (place ++ [name]) with
      | none => exact absurd found there
      | some entry =>
          cases entry with
          | directory =>
              -- the walk ends here, and the names that are left are not visited
              have located := opens.locate wellFormed here
              rw [found] at located
              refine ⟨[], name :: names, tree, rfl, .nil wellFormed place, .inr ⟨name, names,
                fault "remove" (join directory name) .isDirectory, rfl, found, ?_⟩⟩
              simp only [removeAll, removeFile, located, outcome]
          | file content =>
              obtain ⟨middle, isRemoved, wellFormedMiddle, keeps, erased⟩ :=
                removeFile_join wellFormed opens here found
              have others : ∀ other ∈ names,
                  middle.entry? (place ++ [other]) = tree.entry? (place ++ [other]) := by
                intro other member
                have different : other ≠ name := fun same => notLater (same ▸ member)
                rw [erased, if_neg (by simpa using different)]
              have walk : removeAll directory (name :: names) tree =
                  removeAll directory names middle := by
                simp only [removeAll, isRemoved, outcome]
              obtain ⟨first, left, after, rfl, removed, ending⟩ :=
                ih wellFormedMiddle (keeps.opens opens) nodup plain
                  fun other member => others other member ▸ present other member
              refine ⟨name :: first, left, after, rfl, .cons found keeps erased removed, ?_⟩
              rw [walk]
              rcases ending with complete | ⟨other, rest, error, rfl, isDirectory, failed⟩
              · exact .inl complete
              · rw [others other (by simp)] at isDirectory
                exact .inr ⟨other, rest, error, rfl, isDirectory, failed⟩

/-- The records of a directory are visited once each, and nothing else. -/
theorem list_records (wellFormed : tree.WellFormed)
    (located : tree.locate directory = .ok (place, some .directory))
    (ordered : ∀ names, (order names).Perm names) :
    ∃ listed, tree.list directory = .ok listed ∧ ((order listed).filter isRecordName).Nodup ∧
      ∀ name, name ∈ (order listed).filter isRecordName ↔
        tree.entry? (place ++ [name]) ≠ none ∧ isRecordName name = true := by
  obtain ⟨listed, isList, nodup, members⟩ := list_of_located wellFormed located
  refine ⟨listed, isList, ((ordered listed).nodup_iff.mpr nodup).filter _, fun name => ?_⟩
  rw [List.mem_filter, (ordered listed).mem_iff]
  exact and_congr_left fun record => members name (plain_of_isRecordName record)

/-- How clearing a directory can end. -/
inductive ClearOutcome (directory : String) (tree : FileTree) :
    Except Error Unit × FileTree → Prop where
  | missing (absent : Absent (tree.locate directory)) : ClearOutcome directory tree (.ok (), tree)
  | unlisted {error : Error} (present : ¬ Absent (tree.locate directory))
      (noDirectory : ∀ place, tree.locate directory ≠ .ok (place, some .directory)) :
      ClearOutcome directory tree (.error error, tree)
  | emptied {place : FilePath} {names : List String} {after : FileTree}
      (located : tree.locate directory = .ok (place, some .directory))
      (removed : Removed place names tree after)
      (records : ∀ name ∈ names, isRecordName name = true)
      (gone : ∀ name, isRecordName name = true → after.entry? (place ++ [name]) = none) :
      ClearOutcome directory tree (.ok (), after)
  /-- A directory has the name of a record. -/
  | stopped {place : FilePath} {names : List String} {after : FileTree} {name : String}
      {error : Error}
      (located : tree.locate directory = .ok (place, some .directory))
      (removed : Removed place names tree after)
      (records : ∀ name ∈ names, isRecordName name = true)
      (record : isRecordName name = true)
      (isDirectory : tree.entry? (place ++ [name]) = some .directory) :
      ClearOutcome directory tree (.error error, after)

theorem clearInOrder_located (wellFormed : tree.WellFormed)
    (located : tree.locate directory = .ok (place, some .directory))
    (ordered : ∀ names, (order names).Perm names) :
    ClearOutcome directory tree (clearInOrder order directory tree) := by
  obtain ⟨listed, isList, nodup, visited⟩ := list_records wellFormed located ordered
  have cleared : clearInOrder order directory tree =
      removeAll directory ((order listed).filter isRecordName) tree := by
    simp only [clearInOrder, isList]
  obtain ⟨first, left, after, whole, removed, ending⟩ :=
    removeAll_cases wellFormed (opens_of_located located) nodup
      (fun name member => plain_of_isRecordName ((visited name).mp member).2)
      (fun name member => ((visited name).mp member).1)
  have records : ∀ name ∈ first ++ left, isRecordName name = true := fun name member =>
    ((visited name).mp (whole ▸ member)).2
  have ofFirst : ∀ name ∈ first, isRecordName name = true := fun name member =>
    records name (List.mem_append_left left member)
  rw [cleared]
  rcases ending with ⟨rfl, complete⟩ | ⟨name, rest, error, rfl, isDirectory, failed⟩
  · rw [complete]
    refine .emptied located removed ofFirst fun name record => ?_
    rw [List.append_nil] at whole
    by_cases member : name ∈ first
    · exact removed.gone name member
    · -- what is not visited was not there in the first place
      rw [removed.kept _ (others_ne member)]
      refine Classical.byContradiction fun present => member ?_
      rw [← whole]
      exact (visited name).mpr ⟨present, record⟩
  · rw [failed]
    exact .stopped located removed ofFirst (records name (by simp)) isDirectory

theorem clearInOrder_of_absent (absent : Absent (tree.locate directory)) :
    clearInOrder order directory tree = (.ok (), tree) := by
  rcases absent with located | ⟨goal, located⟩
  · simp only [clearInOrder, list, located]
  · simp only [clearInOrder, list, located]

theorem clearInOrder_outcome (directory : String) (wellFormed : tree.WellFormed)
    (ordered : ∀ names, (order names).Perm names) :
    ClearOutcome directory tree (clearInOrder order directory tree) := by
  by_cases absent : Absent (tree.locate directory)
  · rw [clearInOrder_of_absent absent]
    exact .missing absent
  · by_cases there : ∃ place, tree.locate directory = .ok (place, some .directory)
    · obtain ⟨place, located⟩ := there
      exact clearInOrder_located wellFormed located ordered
    · unfold clearInOrder
      cases isList : tree.list directory with
      | ok listed => exact absurd (locate_of_list isList) there
      | error reason =>
          cases reason with
          | notFound => exact absurd (absent_of_list isList) absent
          | _ => exact .unlisted absent (not_exists.mp there)

/-- Of two trees, the second one lacks some files of the directory that have names of records, and
is like the first one otherwise. -/
def OnlyRecordsRemoved (directory : String) (tree after : FileTree) : Prop :=
  ∀ goal, after.entry? goal = tree.entry? goal ∨
    after.entry? goal = none ∧ ∃ place name content,
      tree.locate directory = .ok (place, some .directory) ∧ RecordName name ∧
        goal = place ++ [name] ∧ tree.entry? goal = some (.file content)

theorem OnlyRecordsRemoved.refl (directory : String) (tree : FileTree) :
    OnlyRecordsRemoved directory tree tree :=
  fun _ => .inl rfl

theorem OnlyRecordsRemoved.unchanged (only : OnlyRecordsRemoved directory tree after)
    {goal : FilePath} {entry : FileEntry} (found : after.entry? goal = some entry) :
    tree.entry? goal = some entry := by
  rcases only goal with same | ⟨gone, _⟩
  · rw [← same, found]
  · rw [found] at gone
    contradiction

theorem Removed.only (removed : Removed place names tree after)
    (located : tree.locate directory = .ok (place, some .directory))
    (records : ∀ name ∈ names, isRecordName name = true) :
    OnlyRecordsRemoved directory tree after := by
  intro goal
  by_cases named : ∃ name ∈ names, goal = place ++ [name]
  · obtain ⟨name, member, rfl⟩ := named
    obtain ⟨content, file⟩ := removed.files name member
    exact .inr ⟨removed.gone name member, place, name, content, located,
      isRecordName_iff.mp (records name member), rfl, file⟩
  · exact .inl (removed.kept goal fun name member same => named ⟨name, member, same⟩)

/-- Wherever the walk is broken off, nothing but records has been removed. -/
theorem removeAll_only (wellFormed : tree.WellFormed)
    (ordered : ∀ names, (order names).Perm names) {listed : List String}
    (isList : tree.list directory = .ok listed)
    (first : names <+: (order listed).filter isRecordName) :
    OnlyRecordsRemoved directory tree (removeAll directory names tree).2 := by
  obtain ⟨place, located⟩ := locate_of_list isList
  obtain ⟨_, isListed, nodup, visited⟩ := list_records wellFormed located ordered
  cases isList.symm.trans isListed
  have ofFirst : ∀ name ∈ names, _ := fun name member =>
    (visited name).mp (first.subset member)
  obtain ⟨gone, left, after, whole, removed, ending⟩ :=
    removeAll_cases wellFormed (opens_of_located located) (first.sublist.nodup nodup)
      (fun name member => plain_of_isRecordName (ofFirst name member).2)
      (fun name member => (ofFirst name member).1)
  have only : OnlyRecordsRemoved directory tree after :=
    removed.only located fun name member =>
      (ofFirst name (whole ▸ List.mem_append_left _ member)).2
  rcases ending with ⟨_, complete⟩ | ⟨_, _, _, _, _, failed⟩
  · rw [complete]
    exact only
  · rw [failed]
    exact only

theorem ClearOutcome.only {result : Except Error Unit × FileTree}
    (outcome : ClearOutcome directory tree result) :
    OnlyRecordsRemoved directory tree result.2 := by
  cases outcome with
  | missing absent => exact .refl directory tree
  | unlisted present noDirectory => exact .refl directory tree
  | emptied located removed records gone => exact removed.only located records
  | stopped located removed records record isDirectory => exact removed.only located records

/-- A directory can be cleared if it is missing, or if none of its directories has the name of a
record. -/
theorem ClearOutcome.ok_iff {result : Except Error Unit × FileTree}
    (outcome : ClearOutcome directory tree result) :
    result.1 = .ok () ↔
      Absent (tree.locate directory) ∨
        ∃ place, tree.locate directory = .ok (place, some .directory) ∧
          ∀ name, RecordName name → tree.entry? (place ++ [name]) ≠ some .directory := by
  cases outcome with
  | missing absent => exact iff_of_true rfl (.inl absent)
  | unlisted present noDirectory =>
      refine iff_of_false nofun ?_
      rintro (absent | ⟨place, located, _⟩)
      · exact present absent
      · exact noDirectory place located
  | emptied located removed records gone =>
      refine iff_of_true rfl (.inr ⟨_, located, fun name record isDirectory => ?_⟩)
      have kept := removed.keeps.directory _ isDirectory
      rw [gone name (isRecordName_iff.mpr record)] at kept
      contradiction
  | stopped located removed records record isDirectory =>
      refine iff_of_false nofun ?_
      rintro (absent | ⟨_, sameLocated, free⟩)
      · exact not_absent located absent
      · cases located.symm.trans sameLocated
        exact free _ (isRecordName_iff.mp record) isDirectory

/-- Where a directory has been cleared, no record is found any more. -/
theorem ClearOutcome.done (outcome : ClearOutcome directory tree (.ok (), after))
    (wellFormed : tree.WellFormed) (covers : tree.Covers directory) :
    (∀ place name, tree.locate directory = .ok (place, some .directory) → RecordName name →
        after.entry? (place ++ [name]) = none) ∧
      ∀ key, get directory key after = (.ok none, after) := by
  cases outcome with
  | missing absent =>
      refine ⟨fun place name located _ => ?_, fun key => ?_⟩
      · exact absurd absent (not_absent located)
      · exact get_of_missing wellFormed (covers.missing absent)
  | emptied located removed records gone =>
      refine ⟨fun place name sameLocated record => ?_, fun key => ?_⟩
      · cases located.symm.trans sameLocated
        exact gone name (isRecordName_iff.mpr record)
      · exact get_of_none removed.wellFormed (removed.keeps.opens (opens_of_located located))
          (gone _ (isRecordName_recordName key))

/-- Whatever order a directory lists its names in, clearing it removes all records, or stops at a
directory that has the name of one.  What is no record is kept, and so is everything else wherever
the walk is broken off. -/
theorem clear_records (wellFormed : tree.WellFormed) (covers : tree.Covers directory)
    (ordered : ∀ names, (order names).Perm names) :
    clear directory tree = clearInOrder id directory tree ∧
      OnlyRecordsRemoved directory tree (clearInOrder order directory tree).2 ∧
      (∀ after, clearInOrder order directory tree = (.ok (), after) →
        (∀ place name, tree.locate directory = .ok (place, some .directory) → RecordName name →
          after.entry? (place ++ [name]) = none) ∧
        ∀ key, get directory key after = (.ok none, after)) ∧
      (∀ error after, clearInOrder order directory tree = (.error error, after) →
        ∀ goal entry, after.entry? goal = some entry → tree.entry? goal = some entry) ∧
      ((clearInOrder order directory tree).1 = .ok () ↔
        Absent (tree.locate directory) ∨
          ∃ place, tree.locate directory = .ok (place, some .directory) ∧
            ∀ name, RecordName name → tree.entry? (place ++ [name]) ≠ some .directory) ∧
      ∀ listed walked, tree.list directory = .ok listed →
        walked <+: (order listed).filter isRecordName →
        OnlyRecordsRemoved directory tree (removeAll directory walked tree).2 := by
  have outcome := clearInOrder_outcome directory wellFormed ordered
  refine ⟨rfl, outcome.only, fun after done => ?_, fun error after failed => ?_,
    outcome.ok_iff, fun listed walked isList first => ?_⟩
  · rw [done] at outcome
    exact outcome.done wellFormed covers
  · rw [failed] at outcome
    exact fun goal entry found => outcome.only.unchanged found
  · exact removeAll_only wellFormed ordered isList first

theorem recordName_ne {key name : String} (other : isRecordName name = false) :
    recordName key ≠ name := by
  rintro rfl
  rw [isRecordName_recordName] at other
  contradiction

/-- A directory with a record and a file that is none. -/
def mixed : FileTree :=
  ⟨"", [], [(["c"], .directory), (["c", "kept.txt"], .file "kept".toUTF8),
    (["c", recordName "de"], .file (CacheRecord.stamped 0).encode.toUTF8)]⟩

theorem clear_records_mixed :
    mixed.WellFormed ∧ mixed.Covers "c" ∧ (∀ names : List String, names.reverse.Perm names) ∧
      (get "c" "de" mixed).1 = .ok (some (.stamped 0)) ∧
      ∃ after, clearInOrder List.reverse "c" mixed = (.ok (), after) ∧
        (get "c" "de" after).1 = .ok none ∧
        after.entry? ["c", "kept.txt"] = some (.file "kept".toUTF8) := by
  have foreign : isRecordName "kept.txt" = false := rfl
  have different := @recordName_ne "de" "kept.txt" foreign
  have wellFormed : mixed.WellFormed :=
    ⟨.inl rfl, by simp [mixed, Keyed.Distinct, Keyed.keys, different.symm]⟩
  have covers : mixed.Covers "c" := (covers_iff_of_root rfl).mpr (by decide)
  have ordered : ∀ names : List String, names.reverse.Perm names := List.reverse_perm
  have located : mixed.locate "c" = .ok (["c"], some .directory) := rfl
  have file : mixed.entry? (["c"] ++ [recordName "de"]) =
      some (.file (CacheRecord.stamped 0).encode.toUTF8) := by
    simp [mixed, entry?, Keyed.get?, different.symm]
  have free : ∀ name, mixed.entry? (["c"] ++ [name]) ≠ some .directory := by
    intro name
    by_cases kept : "kept.txt" = name
    · simp [mixed, entry?, Keyed.get?, kept]
    · by_cases record : recordName "de" = name
      · simp [mixed, entry?, Keyed.get?, kept, record]
      · simp [mixed, entry?, Keyed.get?, kept, record]
  obtain ⟨_, only, done, _, isOk, _⟩ :=
    @clear_records "c" mixed List.reverse wellFormed covers ordered
  have cleared := isOk.mpr (.inr ⟨_, located, fun name _ => free name⟩)
  have read := (done _ (Prod.ext cleared rfl)).2 "de"
  refine ⟨wellFormed, covers, ordered, ?_, _, Prod.ext cleared rfl, by rw [read], ?_⟩
  · rw [get_of_text wellFormed (opens_of_located located) file, CacheRecord.decode_encode_stamped]
  · rcases only ["c", "kept.txt"] with same | ⟨_, place, name, _, sameLocated, record, isGoal, _⟩
    · rw [same]
      rfl
    · cases located.symm.trans sameLocated
      cases isGoal
      rw [isRecordName_iff.mpr record] at foreign
      contradiction

/-- The records of the empty path are in the base, where clearing does not look for them. -/
def loose : FileTree :=
  ⟨"", [], [([recordName "de"], .file (CacheRecord.stamped 0).encode.toUTF8)]⟩

theorem clear_records_loose :
    loose.WellFormed ∧ clear "" loose = (.ok (), loose) ∧
      loose.entry? [recordName "de"] =
        some (.file (CacheRecord.stamped 0).encode.toUTF8) ∧
      (get "" "de" loose).1 = .ok (some (.stamped 0)) := by
  have wellFormed : loose.WellFormed := ⟨.inl rfl, by simp [loose, Keyed.Distinct, Keyed.keys]⟩
  have opens : loose.Opens "" [] := ⟨[], [], rfl, rfl⟩
  have file : loose.entry? ([] ++ [recordName "de"]) =
      some (.file (CacheRecord.stamped 0).encode.toUTF8) := by
    simp [loose, entry?, Keyed.get?, (plain_recordName "de").notAbove]
  refine ⟨wellFormed, rfl, file, ?_⟩
  rw [get_of_text wellFormed opens file, CacheRecord.decode_encode_stamped]

end Phrasebook.FileStorage
