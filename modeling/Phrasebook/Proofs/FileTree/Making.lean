import Phrasebook.Proofs.FileTree.Changes

namespace Phrasebook.FileTree

/-! Directories that are made only in part.

To make a directory, all that are missing on the way are made first, and it may stop at any of them.
What is made was missing and is empty.  So no file is found by it that was not found before, unless
the way goes up again from a directory that was missing: then it comes to where it did not lead
before.
-/

variable {tree : FileTree} {directory name step : String} {place : FilePath}
  {steps taken : List String}

/-- Whatever stands in the tree stands in a directory. -/
def Rooted (tree : FileTree) : Prop :=
  ∀ place name, tree.entry? (place ++ [name]) ≠ none → tree.entry? place = some .directory

theorem rooted_of_keys (held : ∀ path ∈ Keyed.keys tree.entries,
    tree.entry? path.dropLast = some .directory) : tree.Rooted := by
  intro place name present
  unfold entry? at present
  split at present
  · next above =>
      have onWay : place.all (· = "..") = true := by
        rw [List.all_append, Bool.and_eq_true] at above
        exact above.1
      unfold entry?
      exact if_pos onWay
  · have member := held _ (Decidable.not_not.mp (mt Keyed.get?_eq_none_iff.mpr present))
    rw [List.dropLast_concat] at member
    exact member

theorem Rooted.absent_below (rooted : tree.Rooted) (absent : tree.entry? place = none)
    (rest : List String) : tree.entry? (place ++ rest) = none := by
  induction rest generalizing place with
  | nil => rw [List.append_nil, absent]
  | cons name rest ih =>
      have next : tree.entry? (place ++ [name]) = none := by
        refine Classical.byContradiction fun present => ?_
        rw [rooted place name present] at absent
        contradiction
      rw [List.append_cons]
      exact ih next

/-- Where a step leads from a directory. -/
def move (tree : FileTree) (place : FilePath) (step : String) : FilePath :=
  if step = "." then place else if step = ".." then tree.parent place else place ++ [step]

theorem move_down (moves : step ≠ ".") (level : step ≠ "..") :
    tree.move place step = place ++ [step] := by
  rw [move, if_neg moves, if_neg level]

theorem move_congr {other : FileTree} (root : other.root = tree.root) (place : FilePath)
    (step : String) : other.move place step = tree.move place step := by
  rw [move, move, parent_congr root]

theorem follow_cons (here : tree.entry? place = some .directory) (step : String)
    (steps : List String) :
    tree.follow place (step :: steps) = tree.follow (tree.move place step) steps := by
  simp only [follow, here, move]
  split
  · rfl
  · split
    · rfl
    · rfl

theorem follow_absent (absent : tree.entry? place = none) (steps : List String) (name : String) :
    tree.follow place (steps ++ [name]) = .error .notFound := by
  cases steps with
  | nil => simp only [List.nil_append, follow, absent]
  | cons step steps => simp only [List.cons_append, follow, absent]

theorem makeDirectories_cons (tree : FileTree) (place : FilePath) (step : String)
    (steps : List String) :
    tree.makeDirectories place (step :: steps) =
      match tree.entry? (tree.move place step) with
      | some .directory => tree.makeDirectories (tree.move place step) steps
      | none =>
          (tree.put (tree.move place step) .directory).makeDirectories (tree.move place step) steps
      | some (.file _) =>
          (.error (if steps.isEmpty then .alreadyExists else .notDirectory), tree) := rfl

/-- A directory with nothing in it. -/
structure Bare (tree : FileTree) (place : FilePath) : Prop where
  directory : tree.entry? place = some .directory
  empty : ∀ name rest, tree.entry? (place ++ name :: rest) = none

theorem bare_put (absent : ∀ rest, tree.entry? (place ++ rest) = none) :
    Bare (tree.put place .directory) place := by
  have here : tree.entry? place = none := by simpa using absent []
  have free : tree.entry? place ≠ some .directory := by simp [here]
  have inside := inside_of_free free
  refine ⟨by rw [entry?_put inside, if_pos rfl], fun name rest => ?_⟩
  rw [entry?_put inside, if_neg (by simp), absent]

theorem Bare.put (bare : tree.Bare place) (name : String) :
    Bare (tree.put (place ++ [name]) .directory) (place ++ [name]) :=
  bare_put fun rest => by
    rw [List.append_assoc]
    exact bare.empty name rest

theorem Bare.follow_absent (bare : tree.Bare place) (level : ".." ∉ steps) (plain : Plain name) :
    Absent (tree.follow place (steps ++ [name])) := by
  induction steps with
  | nil =>
      refine .inr ⟨place ++ [name], ?_⟩
      rw [List.nil_append, follow_plain plain bare.directory, bare.empty]
  | cons step steps ih =>
      obtain ⟨notAbove, level⟩ := not_or.mp (mt List.mem_cons.mpr level)
      rw [List.cons_append, follow_cons bare.directory]
      by_cases isHere : step = "."
      · rw [move, if_pos isHere]
        exact ih level
      · rw [move_down isHere (Ne.symm notAbove)]
        exact .inl (FileTree.follow_absent (bare.empty step []) steps name)

/-- Making more directories below an empty one does not put a file there. -/
theorem Bare.follow_made (bare : tree.Bare place) (level : ".." ∉ steps) (plain : Plain name)
    (first : taken <+: steps) :
    Absent (follow (tree.makeDirectories place (taken.filter (· ≠ "."))).2 place
      (steps ++ [name])) := by
  induction taken generalizing tree place steps with
  | nil => exact bare.follow_absent level plain
  | cons step taken ih =>
      obtain ⟨rest, rfl⟩ := first
      obtain ⟨notAbove, level⟩ := not_or.mp (mt List.mem_cons.mpr level)
      have grown := grown_makeDirectories tree place ((step :: taken).filter (· ≠ "."))
      rw [List.cons_append, List.cons_append, follow_cons (grown.kept _ _ bare.directory)]
      by_cases isHere : step = "."
      · rw [List.filter_cons_of_neg (by simp [isHere]), move, if_pos isHere]
        exact ih bare level (List.prefix_append taken rest)
      · rw [List.filter_cons_of_pos (by simp [isHere]), makeDirectories_cons,
          move_down isHere (Ne.symm notAbove), move_down isHere (Ne.symm notAbove),
          bare.empty step []]
        exact ih (bare.put step) level (List.prefix_append taken rest)

/-- What is no longer than a place is not changed by directories that are made below it. -/
theorem entry?_makeDirectories {goal : FilePath} (level : ".." ∉ steps) (moving : "." ∉ steps)
    (short : goal.length ≤ place.length) :
    entry? (tree.makeDirectories place steps).2 goal = tree.entry? goal := by
  induction steps generalizing tree place with
  | nil => rfl
  | cons step steps ih =>
      obtain ⟨notAbove, level⟩ := not_or.mp (mt List.mem_cons.mpr level)
      obtain ⟨notHere, moving⟩ := not_or.mp (mt List.mem_cons.mpr moving)
      have below : goal.length < (place ++ [step]).length := by
        rw [List.length_append, List.length_singleton]
        omega
      rw [makeDirectories_cons, move_down (Ne.symm notHere) (Ne.symm notAbove)]
      split
      · exact ih level moving (Nat.le_of_lt below)
      · next missing =>
          have different : goal ≠ place ++ [step] := by
            rintro rfl
            exact Nat.lt_irrefl _ below
          have free : tree.entry? (place ++ [step]) ≠ some .directory := by simp [missing]
          rw [ih level moving (Nat.le_of_lt below), entry?_put (inside_of_free free),
            if_neg different]
      · rfl

/-- No step up leads out of a place where nothing is. -/
def DirectFrom (tree : FileTree) (place : FilePath) (steps : List String) : Prop :=
  ∀ above below, steps = above ++ ".." :: below → ¬ Absent (tree.follow place above)

theorem DirectFrom.level (direct : tree.DirectFrom place steps)
    (absent : tree.entry? place = none) : ".." ∉ steps := by
  intro climbs
  obtain ⟨above, below, rfl⟩ := List.append_of_mem climbs
  apply direct above below rfl
  cases above with
  | nil => exact .inr ⟨place, by simp only [follow, absent]⟩
  | cons first above => exact .inl (by simp only [follow, absent])

theorem DirectFrom.tail (direct : tree.DirectFrom place (step :: steps))
    (here : tree.entry? place = some .directory) :
    tree.DirectFrom (tree.move place step) steps := by
  rintro above below rfl
  rw [← follow_cons here]
  exact direct (step :: above) below rfl

/-- The way to a name in a directory of which a part has been made leads where it led before, or
to nothing now as before. -/
theorem follow_made (rooted : tree.Rooted) (direct : tree.DirectFrom place steps)
    (plain : Plain name) (first : taken <+: steps) :
    follow (tree.makeDirectories place (taken.filter (· ≠ "."))).2 place (steps ++ [name]) =
        tree.follow place (steps ++ [name]) ∨
      (Absent (tree.follow place (steps ++ [name])) ∧
        Absent (follow (tree.makeDirectories place (taken.filter (· ≠ "."))).2 place
          (steps ++ [name]))) := by
  induction taken generalizing place steps with
  | nil => exact .inl rfl
  | cons step taken ih =>
      obtain ⟨rest, rfl⟩ := first
      have grown := grown_makeDirectories tree place ((step :: taken).filter (· ≠ "."))
      cases here : tree.entry? place with
      | none =>
          -- nothing is made at the place itself, and no way leads on from there
          have level : ".." ∉ (step :: taken).filter (· ≠ ".") := fun climbs =>
            direct.level here (List.mem_append_left rest (List.mem_filter.mp climbs).1)
          have still : entry? _ place = none :=
            (entry?_makeDirectories level (by simp) (Nat.le_refl _)).trans here
          exact .inr ⟨.inl (follow_absent here _ name), .inl (follow_absent still _ name)⟩
      | some entry =>
          have kept := grown.kept _ _ here
          cases entry with
          | file content => exact .inl (by simp only [List.cons_append, follow, here, kept])
          | directory =>
              have direct := direct.tail here
              simp only [List.cons_append, follow_cons here, follow_cons kept,
                move_congr grown.root]
              by_cases isHere : step = "."
              · rw [List.filter_cons_of_neg (by simp [isHere]), move, if_pos isHere] at *
                exact ih direct (List.prefix_append taken rest)
              · rw [List.filter_cons_of_pos (by simp [isHere]), makeDirectories_cons]
                cases there : tree.entry? (tree.move place step) with
                | none =>
                    have bare := bare_put (rooted.absent_below there)
                    exact .inr ⟨.inl (follow_absent there _ name),
                      bare.follow_made (direct.level there) plain (List.prefix_append taken rest)⟩
                | some entry =>
                    cases entry with
                    | file content => exact .inl rfl
                    | directory => exact ih direct (List.prefix_append taken rest)

/-- No step up on the way to a directory leads out of one that is missing. -/
def Direct (tree : FileTree) (directory : String) : Prop :=
  ∀ place steps, tree.start directory = .ok (place, steps) → tree.DirectFrom place steps

theorem direct_of_level (started : tree.start directory = .ok (place, steps))
    (level : ".." ∉ steps) : tree.Direct directory := by
  intro _ _ begun
  cases started.symm.trans begun
  rintro above below rfl
  exact absurd (by simp) level

/-- Files are read as before while a directory is being made around them. -/
theorem readText_made (wellFormed : tree.WellFormed) (rooted : tree.Rooted)
    (direct : tree.Direct directory) (started : tree.start directory = .ok (place, steps))
    (plain : Plain name) (first : taken <+: steps) :
    readText (tree.makeDirectories place (taken.filter (· ≠ "."))).2 (join directory name) =
      tree.readText (join directory name) := by
  have grown := grown_makeDirectories tree place (taken.filter (· ≠ "."))
  have before := locate_join_follow wellFormed plain (origin_of_start started)
  have after := locate_join_follow (grown.wellFormed wellFormed) plain
    ((origin_congr grown.root grown.base directory).trans (origin_of_start started))
  rcases follow_made rooted (direct _ _ started) plain first with same | ⟨absentBefore, absentAfter⟩
  · rw [readText, readText, readBytes, readBytes, before, after, same]
  · rw [← before] at absentBefore
    rw [← after] at absentAfter
    rw [readText_of_absent absentBefore, readText_of_absent absentAfter]

end Phrasebook.FileTree
