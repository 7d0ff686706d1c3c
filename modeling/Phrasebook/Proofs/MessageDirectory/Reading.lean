import Mathlib.Data.List.TakeWhile
import Phrasebook.MessageDirectory
import Phrasebook.Proofs.FileTree.Changes
import Phrasebook.Error

namespace Phrasebook

theorem FileTree.goesOn_of_notMem {text : String} (noDot : '.' ∉ text.toList) :
    ∀ c ∈ text.toList.reverse, decide (c ≠ '.') = true := by
  intro c member
  rw [decide_eq_true_iff]
  rintro rfl
  exact noDot (List.mem_reverse.mp member)

theorem FileTree.stemAndExtension_eq_iff {name stem extension : String} :
    stemAndExtension name = (stem, some extension) ↔
      stem ≠ "" ∧ '.' ∉ extension.toList ∧ name = stem ++ "." ++ extension := by
  constructor
  · intro split
    have whole := List.takeWhile_append_dropWhile (p := (· ≠ '.')) (l := name.toList.reverse)
    have noDot : '.' ∉ name.toList.reverse.takeWhile (· ≠ '.') := fun member => by
      simpa using List.mem_takeWhile_imp member
    have stops := List.head?_dropWhile_not (· ≠ '.') name.toList.reverse
    simp only [stemAndExtension] at split
    generalize name.toList.reverse.takeWhile (· ≠ '.') = suffix at split whole noDot
    generalize name.toList.reverse.dropWhile (· ≠ '.') = rest at split whole stops
    split at split
    · next dot c before =>
        have isDot : dot = '.' := by simpa using stops
        cases split
        refine ⟨by simp [← String.toList_inj], by simpa using noDot, ?_⟩
        rw [← String.toList_inj, ← List.reverse_inj, ← whole, isDot]
        simp
    · cases split
  · rintro ⟨nonempty, noDot, rfl⟩
    obtain ⟨c, before, isStem⟩ := List.exists_cons_of_ne_nil
      (mt List.reverse_eq_nil_iff.mp (mt String.toList_eq_nil_iff.mp nonempty))
    have goesOn := goesOn_of_notMem noDot
    have backward : (stem ++ "." ++ extension).toList.reverse =
        extension.toList.reverse ++ '.' :: c :: before := by
      simp [isStem]
    have original : (c :: before).reverse = stem.toList := by rw [← isStem, List.reverse_reverse]
    simp only [stemAndExtension, backward, List.takeWhile_append_of_pos goesOn,
      List.dropWhile_append_of_pos goesOn]
    simp [-List.reverse_cons, original]

namespace MessageDirectory

open FileTree

variable {tree : FileTree} {path directory name stem locale : String} {place : FilePath}
  {dictionary : Dictionary} {names : List String}

theorem jsonStem?_eq_some_iff :
    jsonStem? name = some stem ↔ stem ≠ "" ∧ name = stem ++ ".json" := by
  have noDot : '.' ∉ "json".toList := by decide
  have joined : stem ++ "." ++ "json" = stem ++ ".json" := String.append_assoc
  have split := @stemAndExtension_eq_iff name stem "json"
  rw [and_iff_right noDot, joined] at split
  rw [← split]
  unfold jsonStem?
  constructor
  · intro found
    split at found
    · next isSplit =>
        cases found
        exact isSplit
    · contradiction
  · intro isSplit
    simp [isSplit]

theorem localeOf_append {extension : String} (nonempty : stem ≠ "")
    (noDot : '.' ∉ extension.toList) :
    localeOf (stem ++ "." ++ extension) = Locale.normalize stem := by
  rw [localeOf, stemAndExtension_eq_iff.mpr ⟨nonempty, noDot, rfl⟩]

theorem localeOf_of_notMem (noDot : '.' ∉ name.toList) : localeOf name = Locale.normalize name := by
  simp only [localeOf, stemAndExtension, List.dropWhile_eq_nil_iff.mpr (goesOn_of_notMem noDot)]

def DictionaryAt (tree : FileTree) (place : FilePath) (dictionary : Dictionary) : Prop :=
  ∃ content text, tree.entry? place = some (.file content) ∧
    String.fromUTF8? content = some text ∧ Dictionary.read text = .ok dictionary

theorem DictionaryAt.unique {other : Dictionary} (first : DictionaryAt tree place dictionary)
    (second : DictionaryAt tree place other) : dictionary = other := by
  obtain ⟨content, text, file, isText, read⟩ := first
  obtain ⟨_, _, sameFile, sameText, sameRead⟩ := second
  cases file.symm.trans sameFile
  cases isText.symm.trans sameText
  cases read.symm.trans sameRead
  rfl

theorem ofFile_join_iff (wellFormed : tree.WellFormed) (opens : tree.Opens directory place)
    (plain : Plain name) :
    Dictionary.ofFile tree (join directory name) = .ok dictionary ↔
      DictionaryAt tree (place ++ [name]) dictionary := by
  unfold Dictionary.ofFile readText readBytes DictionaryAt
  rw [opens.locate wellFormed plain]
  cases tree.entry? (place ++ [name]) with
  | none => simp
  | some entry =>
      cases entry with
      | directory => simp
      | file content =>
          cases isText : String.fromUTF8? content with
          | none => simp [isText]
          | some text => simp [isText]

/-- A file in a directory that would be read holds a dictionary. -/
def Legible (tree : FileTree) (place : FilePath) (name : String) : Prop :=
  ∀ stem, jsonStem? name = some stem → ∃ dictionary, DictionaryAt tree (place ++ [name]) dictionary

theorem ofFile_join_cases (wellFormed : tree.WellFormed) (opens : tree.Opens directory place)
    (plain : Plain name) (isStem : jsonStem? name = some stem) :
    (∃ dictionary, Dictionary.ofFile tree (join directory name) = .ok dictionary ∧
      DictionaryAt tree (place ++ [name]) dictionary ∧ Legible tree place name) ∨
    (∃ error, Dictionary.ofFile tree (join directory name) = .error error ∧
      ¬ Legible tree place name) := by
  cases read : Dictionary.ofFile tree (join directory name) with
  | ok dictionary =>
      have there := (ofFile_join_iff wellFormed opens plain).mp read
      exact .inl ⟨dictionary, rfl, there, fun _ _ => ⟨dictionary, there⟩⟩
  | error error =>
      refine .inr ⟨error, rfl, fun legible => ?_⟩
      obtain ⟨dictionary, there⟩ := legible stem isStem
      rw [(ofFile_join_iff wellFormed opens plain).mpr there] at read
      contradiction

/-- What reading some names adds to what has been read before. -/
structure Gains (locale : String → Dictionary → Prop) (fragment : FragmentName → Dictionary → Prop)
    (before after : MessageDirectory) : Prop where
  locales : ∀ stem dictionary, (stem, dictionary) ∈ after.locales ↔
    (stem, dictionary) ∈ before.locales ∨ locale stem dictionary
  /-- One of several fragments with the same name is kept. -/
  fragments : ∀ name dictionary, Keyed.get? name after.fragments = some dictionary →
    Keyed.get? name before.fragments = some dictionary ∨ fragment name dictionary
  named : ∀ name, (Keyed.get? name after.fragments).isSome ↔
    (Keyed.get? name before.fragments).isSome ∨ ∃ dictionary, fragment name dictionary

namespace Gains

variable {locale more : String → Dictionary → Prop}
  {fragment others : FragmentName → Dictionary → Prop} {before middle after : MessageDirectory}

theorem refl (directory : MessageDirectory) :
    Gains (fun _ _ => False) (fun _ _ => False) directory directory where
  locales := by simp
  fragments _ _ found := .inl found
  named := by simp

theorem trans (first : Gains locale fragment before middle)
    (second : Gains more others middle after) :
    Gains (fun stem dictionary => locale stem dictionary ∨ more stem dictionary)
      (fun name dictionary => fragment name dictionary ∨ others name dictionary) before after where
  locales stem dictionary := by rw [second.locales, first.locales, or_assoc]
  fragments name dictionary found := by
    rcases second.fragments name dictionary found with found | added
    · exact (first.fragments name dictionary found).imp_right .inl
    · exact .inr (.inr added)
  named name := by rw [second.named, first.named, exists_or, or_assoc]

theorem congr (gains : Gains locale fragment before after)
    (sameLocale : ∀ stem dictionary, locale stem dictionary ↔ more stem dictionary)
    (sameFragment : ∀ name dictionary, fragment name dictionary ↔ others name dictionary) :
    Gains more others before after := by
  have locales : locale = more := by
    funext stem dictionary
    exact propext (sameLocale stem dictionary)
  have fragments : fragment = others := by
    funext name dictionary
    exact propext (sameFragment name dictionary)
  exact locales ▸ fragments ▸ gains

theorem addLocale (directory : MessageDirectory) (stem : String) (dictionary : Dictionary) :
    Gains (fun other found => other = stem ∧ found = dictionary) (fun _ _ => False) directory
      { directory with locales := directory.locales ++ [(stem, dictionary)] } where
  locales := by simp
  fragments _ _ found := .inl found
  named := by simp

theorem putFragment (directory : MessageDirectory) (name : FragmentName) (dictionary : Dictionary) :
    Gains (fun _ _ => False) (fun other found => other = name ∧ found = dictionary) directory
      { directory with fragments := Keyed.put name dictionary directory.fragments } where
  locales := by simp
  fragments other found isFound := by
    rw [Keyed.get?_put] at isFound
    split at isFound
    · next same => exact .inr ⟨same, (Option.some.inj isFound).symm⟩
    · exact .inl isFound
  named other := by
    rw [Keyed.get?_put]
    by_cases same : other = name
    · simp [same]
    · simp [same]

end Gains

/-- The fragments of a locale in the named files of a directory. -/
def FragmentsIn (tree : FileTree) (place : FilePath) (locale : String) (names : List String)
    (fragment : FragmentName) (dictionary : Dictionary) : Prop :=
  fragment.1 = locale ∧ ∃ name ∈ names, jsonStem? name = some fragment.2 ∧
    DictionaryAt tree (place ++ [name]) dictionary

theorem fragmentsIn_cons {fragment : FragmentName} :
    FragmentsIn tree place locale (name :: names) fragment dictionary ↔
      (fragment.1 = locale ∧ jsonStem? name = some fragment.2 ∧
        DictionaryAt tree (place ++ [name]) dictionary) ∨
      FragmentsIn tree place locale names fragment dictionary := by
  simp [FragmentsIn, and_or_left]

theorem addFragments_cases (wellFormed : tree.WellFormed) (opens : tree.Opens path place)
    (plain : ∀ name ∈ names, Plain name) (before : MessageDirectory) :
    (∃ after, addFragments tree path locale names before = .ok after ∧
      (∀ name ∈ names, Legible tree place name) ∧
      Gains (fun _ _ => False) (FragmentsIn tree place locale names) before after) ∨
    (∃ error, addFragments tree path locale names before = .error error ∧
      ∃ name ∈ names, ¬ Legible tree place name) := by
  induction names generalizing before with
  | nil =>
      exact .inl ⟨before, rfl, nofun, (Gains.refl before).congr (by simp) (by simp [FragmentsIn])⟩
  | cons name names ih =>
      have others := ih fun other member => plain other (List.mem_cons_of_mem _ member)
      rw [addFragments]
      cases isStem : jsonStem? name with
      | none =>
          rcases others before with
            ⟨after, added, legible, gains⟩ | ⟨error, failed, other, member, illegible⟩
          · refine .inl ⟨after, added, ?_, gains.congr (by simp) (by simp [FragmentsIn, isStem])⟩
            exact List.forall_mem_cons.mpr ⟨fun stem found => by simp [isStem] at found, legible⟩
          · exact .inr ⟨error, failed, other, List.mem_cons_of_mem _ member, illegible⟩
      | some stem =>
          rcases ofFile_join_cases wellFormed opens (plain name (by simp)) isStem with
            ⟨dictionary, read, there, here⟩ | ⟨error, failed, illegible⟩
          · simp only [read, ok_bind]
            rcases others { before with
                fragments := Keyed.put (locale, stem) dictionary before.fragments } with
              ⟨after, added, legible, gains⟩ | ⟨error, failed, other, member, illegible⟩
            · refine .inl ⟨after, added, List.forall_mem_cons.mpr ⟨here, legible⟩, ?_⟩
              refine ((Gains.putFragment before (locale, stem) dictionary).trans gains).congr
                (by simp) fun fragment found => ?_
              rw [fragmentsIn_cons]
              refine or_congr_left ⟨?_, ?_⟩
              · rintro ⟨rfl, rfl⟩
                exact ⟨rfl, isStem, there⟩
              · rintro ⟨isLocale, sameStem, isFound⟩
                cases isStem.symm.trans sameStem
                exact ⟨Prod.ext isLocale rfl, isFound.unique there⟩
            · exact .inr ⟨error, failed, other, List.mem_cons_of_mem _ member, illegible⟩
          · simp only [failed]
            exact .inr ⟨error, rfl, name, by simp, illegible⟩

/-- The dictionaries of the named files of a directory. -/
def LocalesIn (tree : FileTree) (place : FilePath) (names : List String) (stem : String)
    (dictionary : Dictionary) : Prop :=
  ∃ name ∈ names, jsonStem? name = some stem ∧ DictionaryAt tree (place ++ [name]) dictionary

/-- The fragments in the named directories of a directory. -/
def FragmentsBelow (tree : FileTree) (place : FilePath) (names : List String)
    (fragment : FragmentName) (dictionary : Dictionary) : Prop :=
  ∃ name ∈ names, tree.entry? (place ++ [name]) = some .directory ∧
    FragmentsIn tree (place ++ [name]) (localeOf name) (tree.namesIn (place ++ [name])) fragment
      dictionary

/-- What would be read under a name is dictionaries. -/
def LegibleBelow (tree : FileTree) (place : FilePath) (name : String) : Prop :=
  match tree.entry? (place ++ [name]) with
  | some .directory => ∀ file ∈ tree.namesIn (place ++ [name]), Legible tree (place ++ [name]) file
  | _ => Legible tree place name

theorem legibleBelow_of_directory (isDirectory : tree.entry? (place ++ [name]) = some .directory) :
    LegibleBelow tree place name ↔
      ∀ file ∈ tree.namesIn (place ++ [name]), Legible tree (place ++ [name]) file := by
  simp only [LegibleBelow, isDirectory]

theorem legibleBelow_of_other (other : ¬ tree.entry? (place ++ [name]) = some .directory) :
    LegibleBelow tree place name ↔ Legible tree place name := by
  unfold LegibleBelow
  split
  · next isDirectory => exact absurd isDirectory other
  · exact Iff.rfl

theorem list_of_directory (located : tree.locate path = .ok (place, some .directory)) :
    tree.list path = .ok (Text.sorted (tree.namesIn place)) := by
  simp only [list, located]

variable {order : String → List String → List String}

theorem mem_ordered (ordered : ∀ path names, (order path names).Perm names) :
    name ∈ order path (Text.sorted names) ↔ name ∈ names :=
  (ordered path _).mem_iff.trans (Text.sorted_perm names).mem_iff

theorem isDirectory_join (wellFormed : tree.WellFormed) (opens : tree.Opens path place)
    (plain : Plain name) :
    tree.isDirectory (join path name) = true ↔ tree.entry? (place ++ [name]) = some .directory := by
  rw [isDirectory, opens.locate wellFormed plain]
  cases tree.entry? (place ++ [name]) with
  | none => simp
  | some entry => cases entry <;> simp

theorem DictionaryAt.file (there : DictionaryAt tree place dictionary) :
    tree.entry? place ≠ some .directory := by
  obtain ⟨content, text, file, _⟩ := there
  simp [file]

theorem fragmentsIn_congr {others : List String} (same : ∀ name, name ∈ names ↔ name ∈ others)
    {fragment : FragmentName} :
    FragmentsIn tree place locale names fragment dictionary ↔
      FragmentsIn tree place locale others fragment dictionary := by
  simp only [FragmentsIn, same]

theorem addEntryInOrder_cases (wellFormed : tree.WellFormed) (opens : tree.Opens path place)
    (ordered : ∀ path names, (order path names).Perm names) (plain : Plain name)
    (plainBelow : ∀ file ∈ tree.namesIn (place ++ [name]), Plain file)
    (before : MessageDirectory) :
    (∃ after, addEntryInOrder order tree path name before = .ok after ∧
      LegibleBelow tree place name ∧
      Gains (LocalesIn tree place [name]) (FragmentsBelow tree place [name]) before after) ∨
    (∃ error, addEntryInOrder order tree path name before = .error error ∧
      ¬ LegibleBelow tree place name) := by
  have located := opens.locate wellFormed plain
  have isOne := isDirectory_join wellFormed opens plain
  rw [addEntryInOrder]
  by_cases isDirectory : tree.entry? (place ++ [name]) = some .directory
  · -- the files of a directory give fragments only
    rw [isDirectory] at located
    have none : ∀ stem dictionary, False ↔ LocalesIn tree place [name] stem dictionary := by
      rintro stem dictionary
      refine ⟨False.elim, ?_⟩
      rintro ⟨_, member, _, there⟩
      cases List.mem_singleton.mp member
      exact there.file isDirectory
    simp only [if_pos (isOne.mpr isDirectory), list_of_directory located]
    have below : LegibleBelow tree place name ↔
        ∀ file ∈ order (join path name) (Text.sorted (tree.namesIn (place ++ [name]))),
          Legible tree (place ++ [name]) file := by
      simp only [legibleBelow_of_directory isDirectory, mem_ordered ordered]
    rcases addFragments_cases wellFormed (opens_of_located located)
      (fun file member => plainBelow file ((mem_ordered ordered).mp member)) before with
      ⟨after, added, legible, gains⟩ | ⟨error, failed, file, member, illegible⟩
    · refine .inl ⟨after, added, below.mpr legible, gains.congr none fun fragment found => ?_⟩
      rw [fragmentsIn_congr fun file => mem_ordered ordered]
      simp [FragmentsBelow, isDirectory]
    · exact .inr ⟨error, failed, fun legible => illegible (below.mp legible file member)⟩
  · have none : ∀ fragment dictionary, False ↔
        FragmentsBelow tree place [name] fragment dictionary := by
      simp [FragmentsBelow, isDirectory]
    simp only [if_neg (mt isOne.mp isDirectory), legibleBelow_of_other isDirectory]
    cases isStem : jsonStem? name with
    | none =>
        refine .inl ⟨before, rfl, fun stem found => by simp [isStem] at found, ?_⟩
        exact (Gains.refl before).congr (by simp [LocalesIn, isStem]) none
    | some stem =>
        rcases ofFile_join_cases wellFormed opens plain isStem with
          ⟨dictionary, read, there, legible⟩ | ⟨error, failed, illegible⟩
        · simp only [read, ok_bind]
          refine .inl ⟨_, rfl, legible, (Gains.addLocale before stem dictionary).congr ?_ none⟩
          intro other found
          constructor
          · rintro ⟨rfl, rfl⟩
            exact ⟨name, by simp, isStem, there⟩
          · rintro ⟨_, member, sameStem, isFound⟩
            cases List.mem_singleton.mp member
            cases isStem.symm.trans sameStem
            exact ⟨rfl, isFound.unique there⟩
        · simp only [failed]
          exact .inr ⟨error, rfl, illegible⟩

theorem addEntriesInOrder_cases (wellFormed : tree.WellFormed) (opens : tree.Opens path place)
    (ordered : ∀ path names, (order path names).Perm names) (plain : ∀ name ∈ names, Plain name)
    (plainBelow : ∀ name ∈ names, ∀ file ∈ tree.namesIn (place ++ [name]), Plain file)
    (before : MessageDirectory) :
    (∃ after, addEntriesInOrder order tree path names before = .ok after ∧
      (∀ name ∈ names, LegibleBelow tree place name) ∧
      Gains (LocalesIn tree place names) (FragmentsBelow tree place names) before after) ∨
    (∃ error, addEntriesInOrder order tree path names before = .error error ∧
      ∃ name ∈ names, ¬ LegibleBelow tree place name) := by
  induction names generalizing before with
  | nil =>
      exact .inl ⟨before, rfl, nofun,
        (Gains.refl before).congr (by simp [LocalesIn]) (by simp [FragmentsBelow])⟩
  | cons name names ih =>
      obtain ⟨plainHere, plainOthers⟩ := List.forall_mem_cons.mp plain
      obtain ⟨plainIn, plainInOthers⟩ := List.forall_mem_cons.mp plainBelow
      rw [addEntriesInOrder]
      rcases addEntryInOrder_cases wellFormed opens ordered plainHere plainIn before with
        ⟨middle, added, here, first⟩ | ⟨error, failed, illegible⟩
      · simp only [added, ok_bind]
        rcases ih plainOthers plainInOthers middle with
          ⟨after, rest, legible, second⟩ | ⟨error, failed, other, member, illegible⟩
        · refine .inl ⟨after, rest, List.forall_mem_cons.mpr ⟨here, legible⟩, ?_⟩
          exact (first.trans second).congr (by simp [LocalesIn]) (by simp [FragmentsBelow])
        · exact .inr ⟨error, failed, other, List.mem_cons_of_mem _ member, illegible⟩
      · simp only [failed]
        exact .inr ⟨error, rfl, name, by simp, illegible⟩

end MessageDirectory

end Phrasebook
