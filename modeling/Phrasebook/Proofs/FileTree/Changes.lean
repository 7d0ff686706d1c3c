import Phrasebook.Proofs.FileTree.Paths

namespace Phrasebook.FileTree

variable {tree other : FileTree} {directory name : String} {place goal : FilePath}
  {entry : FileEntry}

/-- A place inside of the tree, not one of the directories above it. -/
def Inside (place : FilePath) : Prop :=
  place.all (· = "..") = false

theorem inside_concat (plain : Plain name) (place : FilePath) : Inside (place ++ [name]) := by
  simp [Inside, plain.notAbove]

theorem inside_of_free (free : tree.entry? place ≠ some .directory) : Inside place := by
  unfold entry? at free
  split at free
  · exact absurd rfl free
  · next inside => exact Bool.eq_false_iff.mpr inside

theorem entry?_put (inside : Inside place) (entry : FileEntry) (goal : FilePath) :
    entry? (tree.put place entry) goal =
      if goal = place then some entry else tree.entry? goal := by
  unfold entry? put
  by_cases same : goal = place
  · subst same
    rw [if_neg (by simp [show (_ : Bool) = false from inside]), if_pos rfl, Keyed.get?_put_self]
  · rw [if_neg same, Keyed.get?_put_of_ne same]

theorem entry?_erase (inside : Inside place) (goal : FilePath) :
    entry? (tree.erase place) goal = if goal = place then none else tree.entry? goal := by
  unfold entry? erase
  by_cases same : goal = place
  · subst same
    rw [if_neg (by simp [show (_ : Bool) = false from inside]), if_pos rfl, Keyed.get?_erase,
      if_pos rfl]
  · rw [if_neg same, Keyed.get?_erase, if_neg same]

theorem WellFormed.put (wellFormed : tree.WellFormed) (place : FilePath) (entry : FileEntry) :
    (tree.put place entry).WellFormed :=
  ⟨wellFormed.root, wellFormed.distinct.put place entry⟩

theorem WellFormed.erase (wellFormed : tree.WellFormed) (place : FilePath) :
    (tree.erase place).WellFormed :=
  ⟨wellFormed.root, wellFormed.distinct.erase place⟩

theorem keeps_put (free : tree.entry? place ≠ some .directory) (entry : FileEntry) :
    Keeps tree (tree.put place entry) where
  root := rfl
  base := rfl
  directory := by
    intro goal found
    rw [entry?_put (inside_of_free free), if_neg, found]
    rintro rfl
    exact free found

theorem keeps_erase (free : tree.entry? place ≠ some .directory) :
    Keeps tree (tree.erase place) where
  root := rfl
  base := rfl
  directory := by
    intro goal found
    rw [entry?_erase (inside_of_free free), if_neg, found]
    rintro rfl
    exact free found

variable {path target : String} {content : ByteArray} {found : Option FileEntry}

theorem write_of_locate (located : tree.locate path = .ok (place, found))
    (free : found ≠ some .directory) (content : ByteArray) :
    tree.write path content = (.ok (), tree.put place (.file content)) := by
  unfold write
  rw [located]
  cases found with
  | none => rfl
  | some entry =>
      cases entry with
      | file content => rfl
      | directory => exact absurd rfl free

theorem rename_of_locate (source : tree.locate path = .ok (place, some (.file content)))
    (located : tree.locate target = .ok (goal, found)) (free : found ≠ some .directory) :
    tree.rename path target = (.ok (), (tree.erase place).put goal (.file content)) := by
  unfold rename
  rw [source, located]
  cases found with
  | none => rfl
  | some entry =>
      cases entry with
      | file content => rfl
      | directory => exact absurd rfl free

theorem removeFile_of_locate (located : tree.locate path = .ok (place, some (.file content))) :
    tree.removeFile path = (.ok (), tree.erase place) := by
  simp only [removeFile, located]

theorem removeFile_of_absent (absent : Absent (tree.locate path)) :
    tree.removeFile path = (.error .notFound, tree) := by
  rcases absent with located | ⟨_, located⟩
  · simp only [removeFile, located]
  · simp only [removeFile, located]

theorem readText_of_locate {text : String}
    (located : tree.locate path = .ok (place, some (.file text.toUTF8))) :
    tree.readText path = .ok text := by
  have valid : text.toUTF8.IsValidUTF8 := text.isValidUTF8
  simp only [readText, readBytes, located, String.fromUTF8?, dif_pos valid]
  rfl

theorem readText_of_invalid (located : tree.locate path = .ok (place, some (.file content)))
    (invalid : ¬ content.IsValidUTF8) : tree.readText path = .error .invalidText := by
  simp only [readText, readBytes, located, String.fromUTF8?, dif_neg invalid]

theorem readText_of_absent (absent : Absent (tree.locate path)) :
    tree.readText path = .error .notFound := by
  rcases absent with located | ⟨_, located⟩
  · simp only [readText, readBytes, located]
  · simp only [readText, readBytes, located]

/-- A tree with everything that is in another one, and with more directories. -/
structure Grown (tree other : FileTree) : Prop where
  root : other.root = tree.root
  base : other.base = tree.base
  distinct : Keyed.Distinct tree.entries → Keyed.Distinct other.entries
  kept : ∀ place entry, tree.entry? place = some entry → other.entry? place = some entry
  grown : ∀ place, tree.entry? place = none →
    other.entry? place = none ∨ other.entry? place = some .directory

namespace Grown

theorem refl (tree : FileTree) : Grown tree tree where
  root := rfl
  base := rfl
  distinct := id
  kept _ _ found := found
  grown _ absent := .inl absent

theorem trans {middle : FileTree} (first : Grown tree middle) (second : Grown middle other) :
    Grown tree other where
  root := second.root.trans first.root
  base := second.base.trans first.base
  distinct := second.distinct ∘ first.distinct
  kept place entry found := second.kept place entry (first.kept place entry found)
  grown place absent := by
    rcases first.grown place absent with absent | made
    · exact second.grown place absent
    · exact .inr (second.kept place .directory made)

theorem put (absent : tree.entry? place = none) : Grown tree (tree.put place .directory) := by
  have free : tree.entry? place ≠ some .directory := by simp [absent]
  have changed : ∀ goal, entry? (tree.put place .directory) goal =
      if goal = place then some .directory else tree.entry? goal :=
    entry?_put (inside_of_free free) .directory
  constructor
  case root => rfl
  case base => rfl
  case distinct => exact fun distinct => distinct.put place .directory
  case kept =>
    intro goal entry found
    rw [changed, if_neg, found]
    rintro rfl
    rw [absent] at found
    contradiction
  case grown =>
    intro goal none
    rw [changed]
    split
    · exact .inr rfl
    · exact .inl none

theorem wellFormed (grown : Grown tree other) (wellFormed : tree.WellFormed) :
    other.WellFormed :=
  ⟨by rw [grown.root]; exact wellFormed.root, grown.distinct wellFormed.distinct⟩

/-- What is a directory in the tree that has grown is one in the other tree, or not there. -/
theorem follow (grown : Grown tree other) {steps : List String}
    (followed : other.follow place steps = .ok (goal, some .directory)) :
    tree.follow place steps = .ok (goal, some .directory) ∨
      tree.follow place steps = .error .notFound ∨ tree.follow place steps = .ok (goal, none) := by
  have before : ∀ {place}, other.entry? place = some .directory →
      tree.entry? place = some .directory ∨ tree.entry? place = none := by
    intro place found
    cases here : tree.entry? place with
    | none => exact .inr rfl
    | some entry =>
        rw [grown.kept place entry here] at found
        exact .inl found
  induction steps generalizing place with
  | nil =>
      obtain ⟨rfl, found⟩ := Prod.mk.inj (Except.ok.inj followed)
      rcases before found with here | here
      · exact .inl (by simp only [FileTree.follow, here])
      · exact .inr (.inr (by simp only [FileTree.follow, here]))
  | cons step steps ih =>
      have found := entry?_of_follow_directory followed
      simp only [FileTree.follow, found, parent_congr grown.root] at followed
      rcases before found with here | here
      · simp only [FileTree.follow, here]
        split at followed
        · next isHere => simpa only [if_pos isHere] using ih followed
        · next notHere =>
            rw [if_neg notHere]
            split at followed
            · next isAbove => simpa only [if_pos isAbove] using ih followed
            · next notAbove => simpa only [if_neg notAbove] using ih followed
      · exact .inr (.inl (by simp only [FileTree.follow, here]))

theorem locate (grown : Grown tree other) {path : String}
    (located : other.locate path = .ok (place, some .directory)) :
    tree.locate path = .ok (place, some .directory) ∨ tree.Missing path := by
  unfold FileTree.locate at located ⊢
  rw [start_congr grown.root grown.base] at located
  split at located
  · next start steps started =>
      rcases grown.follow located with followed | missing | missing
      · exact .inl followed
      · exact .inr ⟨start, steps, started, .inl missing⟩
      · exact .inr ⟨start, steps, started, .inr ⟨place, missing⟩⟩
  · contradiction

end Grown

theorem grown_makeDirectories (tree : FileTree) (place : FilePath) (steps : List String) :
    Grown tree (tree.makeDirectories place steps).2 := by
  induction steps generalizing tree place with
  | nil => exact .refl tree
  | cons step steps ih =>
      simp only [makeDirectories]
      split
      · exact ih tree _
      · next absent => exact (Grown.put absent).trans (ih _ _)
      · exact .refl tree

theorem grown_createDirectories (tree : FileTree) (path : String) :
    Grown tree (tree.createDirectories path).2 := by
  unfold createDirectories
  split
  · exact .refl tree
  · split
    · exact grown_makeDirectories tree _ _
    · exact .refl tree

theorem makeDirectories_of_follow {steps : List String}
    (followed : tree.follow place steps = .ok (goal, some .directory)) :
    tree.makeDirectories place (steps.filter (· ≠ ".")) = (.ok (), tree) := by
  induction steps generalizing place with
  | nil => rfl
  | cons step steps ih =>
      have here := entry?_of_follow_directory followed
      simp only [follow, here] at followed
      by_cases isHere : step = "."
      · rw [if_pos isHere] at followed
        rw [List.filter_cons_of_neg (by simp [isHere])]
        exact ih followed
      · rw [if_neg isHere] at followed
        rw [List.filter_cons_of_pos (by simp [isHere]), makeDirectories]
        simp only [if_neg isHere]
        split at followed
        · next isAbove =>
            simp only [if_pos isAbove, entry?_of_follow_directory followed]
            exact ih followed
        · next notAbove =>
            simp only [if_neg notAbove, entry?_of_follow_directory followed]
            exact ih followed

/-- A directory that is there need not be made. -/
theorem createDirectories_of_opens (opens : tree.Opens directory place) :
    tree.createDirectories directory = (.ok (), tree) := by
  unfold createDirectories
  split
  · rfl
  · next nonempty =>
      obtain ⟨start, steps, origin, followed⟩ := opens
      rw [FileTree.origin, if_neg nonempty] at origin
      rw [origin]
      exact makeDirectories_of_follow followed

variable {beside : String}

theorem write_join (wellFormed : tree.WellFormed) (opens : tree.Opens directory place)
    (plain : Plain name) (free : tree.entry? (place ++ [name]) ≠ some .directory)
    (content : ByteArray) :
    ∃ other, tree.write (join directory name) content = (.ok (), other) ∧
      other.WellFormed ∧ Keeps tree other ∧
      ∀ goal, other.entry? goal =
        if goal = place ++ [name] then some (.file content) else tree.entry? goal :=
  ⟨_, write_of_locate (opens.locate wellFormed plain) free content,
    wellFormed.put _ _, keeps_put free _, entry?_put (inside_concat plain place) _⟩

theorem removeFile_join (wellFormed : tree.WellFormed) (opens : tree.Opens directory place)
    (plain : Plain name) (file : tree.entry? (place ++ [name]) = some (.file content)) :
    ∃ other, tree.removeFile (join directory name) = (.ok (), other) ∧
      other.WellFormed ∧ Keeps tree other ∧
      ∀ goal, other.entry? goal =
        if goal = place ++ [name] then none else tree.entry? goal := by
  have source := opens.locate wellFormed plain
  rw [file] at source
  exact ⟨_, removeFile_of_locate source, wellFormed.erase _, keeps_erase (by simp [file]),
    entry?_erase (inside_concat plain place)⟩

theorem rename_join (wellFormed : tree.WellFormed) (opens : tree.Opens directory place)
    (plainBeside : Plain beside) (plain : Plain name) (different : name ≠ beside)
    (file : tree.entry? (place ++ [beside]) = some (.file content))
    (free : tree.entry? (place ++ [name]) ≠ some .directory) :
    ∃ other, tree.rename (join directory beside) (join directory name) = (.ok (), other) ∧
      other.WellFormed ∧ Keeps tree other ∧
      ∀ goal, other.entry? goal =
        if goal = place ++ [name] then some (.file content)
        else if goal = place ++ [beside] then none
        else tree.entry? goal := by
  have source := opens.locate wellFormed plainBeside
  rw [file] at source
  have target := opens.locate wellFormed plain
  have freeBeside : tree.entry? (place ++ [beside]) ≠ some .directory := by simp [file]
  have erased : ∀ goal, entry? (tree.erase (place ++ [beside])) goal =
      if goal = place ++ [beside] then none else tree.entry? goal :=
    entry?_erase (inside_concat plainBeside place)
  have freeErased :
      entry? (tree.erase (place ++ [beside])) (place ++ [name]) ≠ some .directory := by
    rw [erased, if_neg (by simpa using different)]
    exact free
  refine ⟨_, rename_of_locate source target free, (wellFormed.erase _).put _ _,
    (keeps_erase freeBeside).trans (keeps_put freeErased _), fun goal => ?_⟩
  rw [entry?_put (inside_concat plain place), erased]

/-- A file that is written under one name of a directory and then given another one. -/
theorem write_rename (wellFormed : tree.WellFormed) (opens : tree.Opens directory place)
    (plainBeside : Plain beside) (plain : Plain name) (different : name ≠ beside)
    (freeBeside : tree.entry? (place ++ [beside]) ≠ some .directory)
    (free : tree.entry? (place ++ [name]) ≠ some .directory) (content : ByteArray) :
    ∃ middle other, tree.write (join directory beside) content = (.ok (), middle) ∧
      middle.rename (join directory beside) (join directory name) = (.ok (), other) ∧
      other.WellFormed ∧ Keeps tree other ∧
      ∀ goal, other.entry? goal =
        if goal = place ++ [name] then some (.file content)
        else if goal = place ++ [beside] then none
        else tree.entry? goal := by
  obtain ⟨middle, written, wellFormedMiddle, keepsMiddle, stands⟩ :=
    write_join wellFormed opens plainBeside freeBeside content
  have file : middle.entry? (place ++ [beside]) = some (.file content) := by
    rw [stands, if_pos rfl]
  have freeMiddle : middle.entry? (place ++ [name]) ≠ some .directory := by
    rw [stands, if_neg (by simpa using different)]
    exact free
  obtain ⟨other, renamed, wellFormedAfter, keeps, changed⟩ :=
    rename_join wellFormedMiddle (keepsMiddle.opens opens) plainBeside plain different file
      freeMiddle
  refine ⟨middle, other, written, renamed, wellFormedAfter, keepsMiddle.trans keeps,
    fun goal => ?_⟩
  rw [changed, stands]
  by_cases isBeside : goal = place ++ [beside]
  · simp only [isBeside, if_true]
  · simp only [if_neg isBeside]

theorem locate_join_error (wellFormed : tree.WellFormed) (plain : Plain name) {start : FilePath}
    {steps : List String} (origin : tree.origin directory = .ok (start, steps))
    (closed : ¬ ∃ place, tree.Opens directory place) :
    ∃ fault, tree.locate (join directory name) = .error fault := by
  cases located : tree.locate (join directory name) with
  | error fault => exact ⟨fault, rfl⟩
  | ok found =>
      obtain ⟨place, opens, _⟩ := opens_of_locate_join wellFormed plain origin located
      exact absurd ⟨place, opens⟩ closed

theorem write_join_cases (wellFormed : tree.WellFormed) (plain : Plain name) {start : FilePath}
    {steps : List String} (origin : tree.origin directory = .ok (start, steps))
    (content : ByteArray) :
    (∃ fault, tree.write (join directory name) content = (.error fault, tree)) ∨
      ∃ place other, tree.Opens directory place ∧
        tree.write (join directory name) content = (.ok (), other) ∧
        other.WellFormed ∧ Keeps tree other ∧
        ∀ goal, other.entry? goal =
          if goal = place ++ [name] then some (.file content) else tree.entry? goal := by
  by_cases opened : ∃ place, tree.Opens directory place
  · obtain ⟨place, opens⟩ := opened
    by_cases free : tree.entry? (place ++ [name]) = some .directory
    · have located := opens.locate wellFormed plain
      rw [free] at located
      exact .inl ⟨.isDirectory, by simp only [write, located]⟩
    · obtain ⟨other, written⟩ := write_join wellFormed opens plain free content
      exact .inr ⟨place, other, opens, written⟩
  · obtain ⟨fault, located⟩ := locate_join_error wellFormed plain origin opened
    exact .inl ⟨fault, by simp only [write, located]⟩

theorem rename_join_cases (wellFormed : tree.WellFormed) (plainBeside : Plain beside)
    (plain : Plain name) (different : name ≠ beside) {start : FilePath} {steps : List String}
    (origin : tree.origin directory = .ok (start, steps)) :
    (∃ fault, tree.rename (join directory beside) (join directory name) = (.error fault, tree)) ∨
      ∃ place content other, tree.Opens directory place ∧
        tree.entry? (place ++ [beside]) = some (.file content) ∧
        tree.rename (join directory beside) (join directory name) = (.ok (), other) ∧
        other.WellFormed ∧ Keeps tree other ∧
        ∀ goal, other.entry? goal =
          if goal = place ++ [name] then some (.file content)
          else if goal = place ++ [beside] then none
          else tree.entry? goal := by
  by_cases opened : ∃ place, tree.Opens directory place
  · obtain ⟨place, opens⟩ := opened
    have source := opens.locate wellFormed plainBeside
    have target := opens.locate wellFormed plain
    cases file : tree.entry? (place ++ [beside]) with
    | none =>
        rw [file] at source
        exact .inl ⟨.notFound, by simp only [rename, source]⟩
    | some entry =>
        rw [file] at source
        cases entry with
        | directory => exact .inl ⟨.isDirectory, by simp only [rename, source, target]⟩
        | file content =>
            by_cases free : tree.entry? (place ++ [name]) = some .directory
            · rw [free] at target
              exact .inl ⟨.isDirectory, by simp only [rename, source, target]⟩
            · obtain ⟨other, renamed⟩ :=
                rename_join wellFormed opens plainBeside plain different file free
              exact .inr ⟨place, content, other, opens, file, renamed⟩
  · obtain ⟨fault, located⟩ := locate_join_error wellFormed plainBeside origin opened
    exact .inl ⟨fault, by simp only [rename, located]⟩

theorem readText_join_congr (wellFormed : tree.WellFormed) (wellFormedOther : other.WellFormed)
    (opens : tree.Opens directory place) (keeps : Keeps tree other) (plain : Plain name)
    (same : other.entry? (place ++ [name]) = tree.entry? (place ++ [name])) :
    other.readText (join directory name) = tree.readText (join directory name) := by
  have before := opens.locate wellFormed plain
  have after := (keeps.opens opens).locate wellFormedOther plain
  rw [same] at after
  simp only [readText, readBytes, before, after]

/-- Writing one file does not change what is read from another one. -/
theorem readText_write_join (wellFormed : tree.WellFormed) (plainBeside : Plain beside)
    (plain : Plain name) (different : name ≠ beside) {start : FilePath} {steps : List String}
    (origin : tree.origin directory = .ok (start, steps)) (content : ByteArray) :
    readText (tree.write (join directory beside) content).2 (join directory name) =
      tree.readText (join directory name) := by
  rcases write_join_cases wellFormed plainBeside origin content with
    ⟨fault, failed⟩ | ⟨place, other, opens, written, wellFormedOther, keeps, changed⟩
  · rw [failed]
  · rw [written]
    apply readText_join_congr wellFormed wellFormedOther opens keeps plain
    rw [changed, if_neg (by simpa using different)]

theorem mem_namesIn {place : FilePath} :
    name ∈ tree.namesIn place ↔ place ++ [name] ∈ Keyed.keys tree.entries := by
  simp only [namesIn, Keyed.keys, List.mem_map, List.mem_filter, decide_eq_true_eq]
  constructor
  · rintro ⟨entry, ⟨member, nonempty, rfl⟩, rfl⟩
    refine ⟨entry, member, ?_⟩
    rw [baseName, List.getLast?_eq_some_getLast nonempty]
    exact (List.dropLast_concat_getLast nonempty).symm
  · rintro ⟨entry, member, same⟩
    exact ⟨entry, ⟨member, by simp [same], by simp [same]⟩, by simp [baseName, same]⟩

theorem nodup_namesIn (wellFormed : tree.WellFormed) (place : FilePath) :
    (tree.namesIn place).Nodup := by
  have distinct : tree.entries.Pairwise fun left right => left.1 ≠ right.1 :=
    List.pairwise_map.mp wellFormed.distinct
  unfold namesIn
  refine List.pairwise_map.mpr ((distinct.filter _).imp_of_mem ?_)
  intro left right isLeft isRight different same
  simp only [List.mem_filter, decide_eq_true_eq] at isLeft isRight
  obtain ⟨_, leftNonempty, leftPlace⟩ := isLeft
  obtain ⟨_, rightNonempty, rightPlace⟩ := isRight
  simp only [baseName, List.getLast?_eq_some_getLast leftNonempty,
    List.getLast?_eq_some_getLast rightNonempty, Option.getD_some] at same
  apply different
  rw [← List.dropLast_concat_getLast leftNonempty, ← List.dropLast_concat_getLast rightNonempty,
    leftPlace, rightPlace, same]

/-- The names of a directory, each of them once. -/
theorem list_of_located (wellFormed : tree.WellFormed)
    (located : tree.locate directory = .ok (place, some .directory)) :
    ∃ listed, tree.list directory = .ok listed ∧ listed.Nodup ∧
      ∀ name, Plain name → (name ∈ listed ↔ tree.entry? (place ++ [name]) ≠ none) := by
  refine ⟨Text.sorted (tree.namesIn place), by simp only [list, located], ?_, fun name plain => ?_⟩
  · exact (Text.sorted_perm _).nodup_iff.mpr (nodup_namesIn wellFormed place)
  · have inside : (place ++ [name]).all (· = "..") = false := inside_concat plain place
    rw [(Text.sorted_perm _).mem_iff, mem_namesIn, entry?, inside, if_neg (by simp),
      Ne, Keyed.get?_eq_none_iff, Decidable.not_not]

theorem absent_of_list (failed : tree.list directory = .error .notFound) :
    Absent (tree.locate directory) := by
  unfold list at failed
  split at failed
  · cases failed
  · cases failed
  · next goal located => exact .inr ⟨goal, located⟩
  · next fault located =>
      cases failed
      exact .inl located

theorem locate_of_list {listed : List String} (isList : tree.list directory = .ok listed) :
    ∃ place, tree.locate directory = .ok (place, some .directory) := by
  unfold list at isList
  split at isList
  · next place located => exact ⟨place, located⟩
  · contradiction
  · contradiction
  · contradiction

end Phrasebook.FileTree
