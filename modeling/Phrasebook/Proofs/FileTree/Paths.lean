import Phrasebook.FileTree
import Phrasebook.Proofs.Keyed
import Phrasebook.Proofs.Segments

namespace Phrasebook

namespace FileTree

variable {tree : FileTree} {directory name : String}

/-- A name that is no path and has no meaning of its own. -/
structure Plain (name : String) : Prop where
  nonempty : name ≠ ""
  notHere : name ≠ "."
  notAbove : name ≠ ".."
  noSlash : '/' ∉ name.toList

instance (name : String) : Decidable (Plain name) :=
  decidable_of_iff (name ≠ "" ∧ name ≠ "." ∧ name ≠ ".." ∧ '/' ∉ name.toList)
    ⟨fun ⟨nonempty, notHere, notAbove, noSlash⟩ => ⟨nonempty, notHere, notAbove, noSlash⟩,
      fun plain => ⟨plain.nonempty, plain.notHere, plain.notAbove, plain.noSlash⟩⟩

theorem Plain.toList_ne_nil (plain : Plain name) : name.toList ≠ [] :=
  mt String.toList_eq_nil_iff.mp plain.nonempty

structure WellFormed (tree : FileTree) : Prop where
  /-- The text before the paths of the tree is empty, or has a slash in front and none at its
  end. -/
  root : tree.root = "" ∨
    (tree.root.toList.head? = some '/' ∧ tree.root.toList.getLast? ≠ some '/')
  distinct : Keyed.Distinct tree.entries

def names (text : List Char) : List String :=
  ((Text.segments '/' text).filter (!·.isEmpty)).map String.ofList

theorem names_append (before after : List Char) :
    names (before ++ '/' :: after) = names before ++ names after := by
  simp only [names, Text.segments_append, List.filter_append, List.map_append]

theorem names_of_plain (plain : Plain name) : names name.toList = [name] := by
  simp [names, Text.segments_of_notMem plain.noSlash, plain.toList_ne_nil]

/-- What stands between the path of a directory and a name in it. -/
def Separates (text separator : List Char) : Prop :=
  (separator = [] ∧ text.getLast? = some '/') ∨ (separator = ['/'] ∧ text.getLast? ≠ some '/')

theorem getLast?_of_plain (plain : Plain name) (before : List Char) :
    (before ++ name.toList).getLast? ≠ some '/' := by
  cases last : name.toList.getLast? with
  | none => exact absurd (List.getLast?_eq_none_iff.mp last) plain.toList_ne_nil
  | some c =>
      rw [List.getLast?_append, last, Option.some_or]
      rintro ⟨rfl⟩
      exact plain.noSlash (List.mem_of_getLast? last)

theorem components_join (plain : Plain name) {text separator : List Char}
    (separates : Separates text separator) :
    ∃ above, (components text = above ∨ components text = above ++ ["."]) ∧
      components (text ++ separator ++ name.toList) = above ++ [name] := by
  have joined : components (text ++ separator ++ name.toList) =
      names (text ++ separator ++ name.toList) := by
    unfold components names
    rw [if_neg (by simpa using getLast?_of_plain plain (text ++ separator))]
  refine ⟨names text, ?_, ?_⟩
  · unfold components
    split
    · exact .inr rfl
    · exact .inl rfl
  · rw [joined]
    rcases separates with ⟨rfl, slash⟩ | ⟨rfl, _⟩
    · obtain ⟨before, rfl⟩ := List.getLast?_eq_some_iff.mp slash
      have named : names (before ++ ['/']) = names before := by
        rw [names_append]
        simp [names, Text.segments]
      rw [named, List.append_nil, List.append_assoc, List.singleton_append, names_append,
        names_of_plain plain]
    · rw [List.append_assoc, List.singleton_append, names_append, names_of_plain plain]

theorem endsWith_slash : directory.endsWith "/" = true ↔ directory.toList.getLast? = some '/' := by
  rw [← String.endsWith_toSlice, String.Slice.endsWith_string_iff, String.copy_toSlice]
  exact List.singleton_suffix_iff_getLast?_eq_some

theorem Plain.relative (plain : Plain name) : name.startsWith "/" = false := by
  rw [String.startsWith_string_eq_false_iff]
  rintro ⟨rest, same⟩
  exact plain.noSlash (by simp [← same])

theorem toList_join (plain : Plain name) (nonempty : directory ≠ "") :
    ∃ separator, Separates directory.toList separator ∧
      (join directory name).toList = directory.toList ++ separator ++ name.toList := by
  by_cases slash : directory.endsWith "/" = true
  · exact ⟨[], .inl ⟨rfl, endsWith_slash.mp slash⟩, by simp [join, plain.relative, slash]⟩
  · refine ⟨['/'], .inr ⟨rfl, fun last => slash (endsWith_slash.mpr last)⟩, ?_⟩
    simp [join, plain.relative, slash, nonempty]

theorem start_of_inside {path : String} {rest : List Char}
    (inside : path.toList = tree.root.toList ++ '/' :: rest) :
    tree.start path = .ok ([], components ('/' :: rest)) := by
  have nonempty : path ≠ "" := by
    rintro rfl
    simp at inside
  have notRoot : path.toList ≠ tree.root.toList := by simp [inside]
  have isPrefix : (tree.root.toList ++ ['/']).isPrefixOf path.toList = true := by
    simp [inside, List.isPrefixOf_iff_prefix]
  simp only [start, if_neg nonempty, if_neg notRoot, if_pos isPrefix]
  rw [inside, List.drop_left]

theorem start_of_relative (wellFormed : tree.WellFormed) {path : String} (nonempty : path ≠ "")
    (relative : path.toList.head? ≠ some '/') :
    tree.start path = .ok (tree.base, components path.toList) := by
  have notRoot : path.toList ≠ tree.root.toList := by
    intro isRoot
    rcases wellFormed.root with empty | ⟨slash, _⟩
    · exact nonempty (String.toList_inj.mp (isRoot.trans (congrArg String.toList empty)))
    · exact relative (isRoot ▸ slash)
  have outside : (tree.root.toList ++ ['/']).isPrefixOf path.toList ≠ true := by
    rw [Ne, List.isPrefixOf_iff_prefix]
    rintro ⟨rest, same⟩
    rcases wellFormed.root with empty | ⟨slash, _⟩
    · exact relative (by simp [← same, empty])
    · exact relative (by simp [← same, List.head?_append, slash])
  simp only [start, if_neg nonempty, if_neg notRoot, if_neg outside]
  rw [if_neg (by simpa using relative)]

/-- A path with a start is the root, lies inside of the tree, or starts where relative ones do. -/
theorem start_cases {path : String} {place : FilePath} {steps : List String}
    (started : tree.start path = .ok (place, steps)) :
    path ≠ "" ∧
      ((path.toList = tree.root.toList ∧ place = [] ∧ steps = []) ∨
        (∃ rest, path.toList = tree.root.toList ++ '/' :: rest ∧ place = [] ∧
          steps = components ('/' :: rest)) ∨
        (path.toList.head? ≠ some '/' ∧ place = tree.base ∧ steps = components path.toList)) := by
  unfold start at started
  simp only at started
  split at started
  · contradiction
  · next nonempty =>
      refine ⟨nonempty, ?_⟩
      split at started
      · next isRoot =>
          cases started
          exact .inl ⟨isRoot, rfl, rfl⟩
      · split at started
        · next inside =>
            obtain ⟨rest, same⟩ := List.isPrefixOf_iff_prefix.mp inside
            have inside : path.toList = tree.root.toList ++ '/' :: rest := by simp [← same]
            rw [inside, List.drop_left] at started
            cases started
            exact .inr (.inl ⟨rest, inside, rfl, rfl⟩)
        · split at started
          · contradiction
          · next relative =>
              cases started
              exact .inr (.inr ⟨by simpa using relative, rfl, rfl⟩)

/-- The tree tells what there is at a path. -/
def Covers (tree : FileTree) (path : String) : Prop :=
  ∃ place steps, tree.start path = .ok (place, steps)

/-- A tree of all files there are tells it of every path but the empty one. -/
theorem covers_iff_of_root (whole : tree.root = "") {path : String} :
    tree.Covers path ↔ path ≠ "" := by
  constructor
  · rintro ⟨place, steps, started⟩
    exact (start_cases started).1
  · intro nonempty
    have root : tree.root.toList = [] := congrArg String.toList whole
    have notRoot : path.toList ≠ [] := mt String.toList_eq_nil_iff.mp nonempty
    obtain ⟨first, rest, text⟩ := List.exists_cons_of_ne_nil notRoot
    unfold Covers start
    simp only [root, if_neg nonempty, if_neg notRoot, List.nil_append]
    split
    · exact ⟨_, _, rfl⟩
    · next relative =>
        have noSlash : ¬ (path.toList.head? == some '/') = true := by
          rw [text, List.head?_cons, beq_iff_eq, Option.some_inj]
          rintro rfl
          exact relative (by rw [text]; rfl)
        rw [if_neg noSlash]
        exact ⟨_, _, rfl⟩

theorem start_join (wellFormed : tree.WellFormed) (plain : Plain name) {place : FilePath}
    {steps : List String} (started : tree.start directory = .ok (place, steps)) :
    ∃ above, (steps = above ∨ steps = above ++ ["."]) ∧
      tree.start (join directory name) = .ok (place, above ++ [name]) := by
  obtain ⟨nonempty, cases⟩ := start_cases started
  obtain ⟨separator, separates, joined⟩ := toList_join plain nonempty
  rcases cases with ⟨isRoot, rfl, rfl⟩ | ⟨rest, inside, rfl, rfl⟩ | ⟨relative, rfl, rfl⟩
  · -- the root of a tree does not end in a slash
    have noSlash : directory.toList.getLast? ≠ some '/' := by
      rw [isRoot]
      rcases wellFormed.root with empty | ⟨_, noSlash⟩
      · simp [empty]
      · exact noSlash
    rcases separates with ⟨_, slash⟩ | ⟨rfl, _⟩
    · exact absurd slash noSlash
    · have slash : Separates [] ['/'] := .inr ⟨rfl, by simp⟩
      obtain ⟨above, none, steps⟩ := components_join plain slash
      refine ⟨above, none, ?_⟩
      rw [isRoot, List.append_assoc] at joined
      rw [← steps]
      exact start_of_inside joined
  · have separates : Separates ('/' :: rest) separator := by
      simpa [Separates, inside, List.getLast?_append] using separates
    obtain ⟨above, steps, joinedSteps⟩ := components_join plain separates
    refine ⟨above, steps, ?_⟩
    rw [inside, List.append_assoc, List.append_assoc, List.cons_append,
      ← List.append_assoc] at joined
    rw [← joinedSteps]
    exact start_of_inside joined
  · obtain ⟨above, steps, joinedSteps⟩ := components_join plain separates
    have present : directory.toList ≠ [] := by simpa using nonempty
    have stays : (join directory name).toList.head? ≠ some '/' := by
      obtain ⟨first, others, same⟩ := List.exists_cons_of_ne_nil present
      rw [joined, same]
      simpa [same] using relative
    refine ⟨above, steps, ?_⟩
    rw [← joinedSteps, ← joined]
    refine start_of_relative wellFormed ?_ stays
    intro empty
    have none := joined.symm.trans (congrArg String.toList empty)
    simp [nonempty] at none

theorem follow_append (tree : FileTree) (place : FilePath) (first second : List String) :
    tree.follow place (first ++ second) =
      match tree.follow place first with
      | .ok (middle, _) => tree.follow middle second
      | .error fault => .error fault := by
  induction first generalizing place with
  | nil => rfl
  | cons step steps ih =>
      simp only [List.cons_append, follow]
      cases tree.entry? place with
      | none => rfl
      | some entry =>
          cases entry with
          | file content => rfl
          | directory =>
              simp only
              split
              · exact ih place
              · split
                · exact ih _
                · exact ih _

theorem follow_plain (plain : Plain name) {place : FilePath}
    (directory : tree.entry? place = some .directory) :
    tree.follow place [name] = .ok (place ++ [name], tree.entry? (place ++ [name])) := by
  simp only [follow, directory, if_neg plain.notHere, if_neg plain.notAbove]

theorem entry?_of_follow {place goal : FilePath} {steps : List String} {found : Option FileEntry}
    (followed : tree.follow place steps = .ok (goal, found)) : tree.entry? goal = found := by
  induction steps generalizing place with
  | nil =>
      cases followed
      rfl
  | cons step steps ih =>
      simp only [follow] at followed
      split at followed
      · split at followed
        · exact ih followed
        · split at followed
          · exact ih followed
          · exact ih followed
      · contradiction
      · contradiction

/-- Only directories are passed on the way to a directory. -/
theorem entry?_of_follow_directory {place goal : FilePath} {steps : List String}
    (followed : tree.follow place steps = .ok (goal, some .directory)) :
    tree.entry? place = some .directory := by
  cases steps with
  | nil =>
      obtain ⟨rfl, found⟩ := Prod.mk.inj (Except.ok.inj followed)
      exact found
  | cons step steps =>
      simp only [follow] at followed
      split at followed
      · assumption
      · contradiction
      · contradiction

/-- Where the way to a directory starts, and its steps.  A way without steps leads to the base, and
has the empty path, which leads nowhere by itself. -/
def origin (tree : FileTree) (directory : String) : Except FileFault (FilePath × List String) :=
  if directory = "" then .ok (tree.base, []) else tree.start directory

theorem origin_of_start {way : FilePath × List String}
    (started : tree.start directory = .ok way) : tree.origin directory = .ok way := by
  rw [origin, if_neg (start_cases started).1, started]

theorem start_of_plain (wellFormed : tree.WellFormed) (plain : Plain name) :
    tree.start name = .ok (tree.base, [name]) := by
  have relative : name.toList.head? ≠ some '/' := fun slash =>
    plain.noSlash (List.mem_of_head? slash)
  have single : components name.toList = [name] := by
    rw [← names_of_plain plain, components, if_neg (by simpa using getLast?_of_plain plain [])]
    rfl
  rw [start_of_relative wellFormed plain.nonempty relative, single]

/-- To stay at a place leads nowhere else. -/
theorem follow_here (tree : FileTree) (name : String) (place : FilePath) (above : List String) :
    tree.follow place (above ++ ["."] ++ [name]) = tree.follow place (above ++ [name]) := by
  rw [List.append_assoc, follow_append, follow_append]
  split
  · next middle _ _ =>
      simp only [List.singleton_append, follow, if_true]
      cases found : tree.entry? middle with
      | none => rfl
      | some entry =>
          cases entry with
          | file content => rfl
          | directory => rfl
  · rfl

theorem locate_join_follow (wellFormed : tree.WellFormed) (plain : Plain name) {place : FilePath}
    {steps : List String} (origin : tree.origin directory = .ok (place, steps)) :
    tree.locate (join directory name) = tree.follow place (steps ++ [name]) := by
  unfold FileTree.origin at origin
  unfold locate
  split at origin
  · next empty =>
      cases origin
      have whole : join directory name = name := by simp [join, plain.relative, empty]
      rw [whole, start_of_plain wellFormed plain]
      rfl
  · obtain ⟨above, isSteps, joined⟩ := start_join wellFormed plain origin
    rw [joined]
    rcases isSteps with rfl | rfl
    · rfl
    · exact (follow_here tree name place above).symm

/-- A directory is there, at a place, for the names in it. -/
def Opens (tree : FileTree) (directory : String) (place : FilePath) : Prop :=
  ∃ start steps, tree.origin directory = .ok (start, steps) ∧
    tree.follow start steps = .ok (place, some .directory)

theorem opens_of_located {place : FilePath}
    (located : tree.locate directory = .ok (place, some .directory)) :
    tree.Opens directory place := by
  unfold locate at located
  split at located
  · next start steps started => exact ⟨start, steps, origin_of_start started, located⟩
  · contradiction

theorem Opens.located {place : FilePath} (opens : tree.Opens directory place)
    (nonempty : directory ≠ "") : tree.locate directory = .ok (place, some .directory) := by
  obtain ⟨start, steps, origin, followed⟩ := opens
  rw [FileTree.origin, if_neg nonempty] at origin
  rw [FileTree.locate, origin]
  exact followed

theorem Opens.locate {place : FilePath} (opens : tree.Opens directory place)
    (wellFormed : tree.WellFormed) (plain : Plain name) :
    tree.locate (join directory name) =
      .ok (place ++ [name], tree.entry? (place ++ [name])) := by
  obtain ⟨start, steps, origin, followed⟩ := opens
  rw [locate_join_follow wellFormed plain origin, follow_append, followed]
  exact follow_plain plain (entry?_of_follow followed)

theorem Opens.unique {place other : FilePath} (opens : tree.Opens directory place)
    (opened : tree.Opens directory other) : place = other := by
  obtain ⟨start, steps, origin, followed⟩ := opens
  obtain ⟨_, _, sameOrigin, sameFollowed⟩ := opened
  cases origin.symm.trans sameOrigin
  cases followed.symm.trans sameFollowed
  rfl

/-- Names are found only in a directory that is there. -/
theorem opens_of_locate_join (wellFormed : tree.WellFormed) (plain : Plain name)
    {start goal : FilePath} {steps : List String} {found : Option FileEntry}
    (origin : tree.origin directory = .ok (start, steps))
    (located : tree.locate (join directory name) = .ok (goal, found)) :
    ∃ place, tree.Opens directory place ∧ goal = place ++ [name] ∧
      found = tree.entry? (place ++ [name]) := by
  rw [locate_join_follow wellFormed plain origin, follow_append] at located
  split at located
  · next middle entry followed =>
      cases inside : tree.entry? middle with
      | none => simp [follow, inside] at located
      | some entry =>
          cases entry with
          | file content => simp [follow, inside] at located
          | directory =>
              rw [follow_plain plain inside] at located
              cases located
              rw [entry?_of_follow followed] at inside
              exact ⟨middle, ⟨start, steps, origin, inside ▸ followed⟩, rfl, rfl⟩
  · contradiction

/-- What is found is nothing at all. -/
def Absent (found : Except FileFault (FilePath × Option FileEntry)) : Prop :=
  found = .error .notFound ∨ ∃ goal, found = .ok (goal, none)

theorem not_absent {found : Except FileFault (FilePath × Option FileEntry)} {place : FilePath}
    {entry : FileEntry} (present : found = .ok (place, some entry)) : ¬ Absent found := by
  rw [present]
  rintro (missing | ⟨goal, missing⟩)
  · cases missing
  · cases missing

/-- A path that leads to nothing that is there. -/
def Missing (tree : FileTree) (path : String) : Prop :=
  ∃ place steps, tree.start path = .ok (place, steps) ∧
    (tree.follow place steps = .error .notFound ∨
      ∃ goal, tree.follow place steps = .ok (goal, none))

theorem locate_join_missing (wellFormed : tree.WellFormed) (plain : Plain name)
    (missing : tree.Missing directory) :
    tree.locate (join directory name) = .error .notFound := by
  obtain ⟨place, steps, started, missing⟩ := missing
  rw [locate_join_follow wellFormed plain (origin_of_start started), follow_append]
  rcases missing with missing | ⟨goal, missing⟩
  · rw [missing]
  · simp only [missing, follow, entry?_of_follow missing]

theorem Covers.missing (covers : tree.Covers directory)
    (absent : Absent (tree.locate directory)) : tree.Missing directory := by
  obtain ⟨place, steps, started⟩ := covers
  rw [locate, started] at absent
  exact ⟨place, steps, started, absent⟩

theorem locate_missing (missing : tree.Missing directory) : Absent (tree.locate directory) := by
  obtain ⟨place, steps, started, missing⟩ := missing
  rw [locate, started]
  exact missing

/-- A tree with the directories of another one. -/
structure Keeps (tree other : FileTree) : Prop where
  root : other.root = tree.root
  base : other.base = tree.base
  directory : ∀ place, tree.entry? place = some .directory → other.entry? place = some .directory

variable {other : FileTree}

theorem start_congr (root : other.root = tree.root) (base : other.base = tree.base)
    (path : String) : other.start path = tree.start path := by
  unfold start
  rw [root, base]

theorem parent_congr (root : other.root = tree.root) (place : FilePath) :
    other.parent place = tree.parent place := by
  unfold parent
  rw [root]

theorem Keeps.refl (tree : FileTree) : Keeps tree tree := ⟨rfl, rfl, fun _ found => found⟩

theorem Keeps.trans {middle : FileTree} (first : Keeps tree middle) (second : Keeps middle other) :
    Keeps tree other :=
  ⟨second.root.trans first.root, second.base.trans first.base,
    fun place found => second.directory place (first.directory place found)⟩

theorem Keeps.follow (keeps : Keeps tree other) {place goal : FilePath} {steps : List String}
    (followed : tree.follow place steps = .ok (goal, some .directory)) :
    other.follow place steps = .ok (goal, some .directory) := by
  induction steps generalizing place with
  | nil =>
      obtain ⟨rfl, found⟩ := Prod.mk.inj (Except.ok.inj followed)
      simp only [FileTree.follow, keeps.directory _ found]
  | cons step steps ih =>
      have here := entry?_of_follow_directory followed
      simp only [FileTree.follow, here, keeps.directory _ here, parent_congr keeps.root]
        at followed ⊢
      split at followed
      · next isHere => simpa only [if_pos isHere] using ih followed
      · next notHere =>
          rw [if_neg notHere]
          split at followed
          · next isAbove => simpa only [if_pos isAbove] using ih followed
          · next notAbove => simpa only [if_neg notAbove] using ih followed

theorem origin_congr (root : other.root = tree.root) (base : other.base = tree.base)
    (directory : String) : other.origin directory = tree.origin directory := by
  unfold origin
  rw [base, start_congr root base]

theorem Keeps.opens (keeps : Keeps tree other) {place : FilePath}
    (opens : tree.Opens directory place) : other.Opens directory place := by
  obtain ⟨start, steps, origin, followed⟩ := opens
  exact ⟨start, steps, (origin_congr keeps.root keeps.base directory).trans origin,
    keeps.follow followed⟩

end FileTree

end Phrasebook
