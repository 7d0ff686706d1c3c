import Phrasebook.Proofs.Json.RoundTrip
import Phrasebook.Proofs.MessageDirectory.Reading

namespace Phrasebook.MessageDirectory

open FileTree

variable {tree : FileTree} {path name stem : String} {place : FilePath} {dictionary : Dictionary}

def Subdirectory (tree : FileTree) (place : FilePath) (name : String) : Prop :=
  name ∈ tree.namesIn place ∧ tree.entry? (place ++ [name]) = some .directory

def HasFile (tree : FileTree) (place : FilePath) (stem : String) : Prop :=
  stem ≠ "" ∧ ∃ content, tree.entry? (place ++ [stem ++ ".json"]) = some (.file content)

def DictionaryOf (tree : FileTree) (place : FilePath) (stem : String) (dictionary : Dictionary) :
    Prop :=
  stem ≠ "" ∧ DictionaryAt tree (place ++ [stem ++ ".json"]) dictionary

/-- Some directory of the locale has a file for the namespace, which holds the dictionary. -/
def FragmentOf (tree : FileTree) (place : FilePath) (fragment : FragmentName)
    (dictionary : Dictionary) : Prop :=
  ∃ subdirectory, Subdirectory tree place subdirectory ∧ localeOf subdirectory = fragment.1 ∧
    DictionaryOf tree (place ++ [subdirectory]) fragment.2 dictionary

/-- A directory in which every file that is read holds a dictionary, and no two of them the one for
the same locale, or the fragment for the same locale and namespace. -/
structure Layout (tree : FileTree) (place : FilePath) : Prop where
  wellFormed : tree.WellFormed
  plain : ∀ above, ∀ name ∈ tree.namesIn above, Plain name
  dictionaries : ∀ stem, HasFile tree place stem → ∃ dictionary,
    DictionaryOf tree place stem dictionary
  fragments : ∀ subdirectory, Subdirectory tree place subdirectory →
    ∀ name, HasFile tree (place ++ [subdirectory]) name → ∃ dictionary,
      DictionaryOf tree (place ++ [subdirectory]) name dictionary
  localesApart : ∀ first second, HasFile tree place first → HasFile tree place second →
    Locale.normalize first = Locale.normalize second → first = second
  fragmentsApart : ∀ first second, Subdirectory tree place first → Subdirectory tree place second →
    ∀ name, HasFile tree (place ++ [first]) name → HasFile tree (place ++ [second]) name →
      localeOf first = localeOf second → first = second

/-- Some directory of a locale holds a directory with the name of a file that would be read. -/
def Blocked (tree : FileTree) (place : FilePath) : Prop :=
  ∃ subdirectory, Subdirectory tree place subdirectory ∧ ∃ name, name ≠ "" ∧
    tree.entry? (place ++ [subdirectory] ++ [name ++ ".json"]) = some .directory

structure Holds (tree : FileTree) (place : FilePath) (directory : MessageDirectory) : Prop where
  locales : ∀ stem dictionary, (stem, dictionary) ∈ directory.locales ↔
    DictionaryOf tree place stem dictionary
  fragments : ∀ fragment dictionary, Keyed.get? fragment directory.fragments = some dictionary ↔
    FragmentOf tree place fragment dictionary

theorem mem_namesIn_of_entry {entry : FileEntry}
    (found : tree.entry? (place ++ [stem ++ ".json"]) = some entry) :
    stem ++ ".json" ∈ tree.namesIn place := by
  have level : stem ++ ".json" ≠ ".." := fun same => by
    have last := congrArg (fun text => text.toList.getLast?) same
    simp at last
  unfold entry? at found
  rw [if_neg (by simp [level])] at found
  exact mem_namesIn.mpr (List.mem_map_of_mem (Keyed.mem_of_get? found))

theorem entry_of_mem_namesIn (member : name ∈ tree.namesIn place) :
    ∃ entry, tree.entry? (place ++ [name]) = some entry := by
  have found := Keyed.get?_isSome_iff.mpr (mem_namesIn.mp member)
  unfold entry?
  split
  · exact ⟨_, rfl⟩
  · exact Option.isSome_iff_exists.mp found

theorem DictionaryOf.hasFile (there : DictionaryOf tree place stem dictionary) :
    HasFile tree place stem := by
  obtain ⟨nonempty, content, _, file, _⟩ := there
  exact ⟨nonempty, content, file⟩

/-- A file with the text of a dictionary holds it. -/
theorem dictionaryOf_render (nonempty : stem ≠ "")
    (readable : dictionary.toJson.Readable Json.maxLevels) (integral : dictionary.toJson.Integral)
    (file : tree.entry? (place ++ [stem ++ ".json"]) =
      some (.file dictionary.toJson.render.toUTF8)) : DictionaryOf tree place stem dictionary := by
  have valid : dictionary.toJson.render.toUTF8.IsValidUTF8 := dictionary.toJson.render.isValidUTF8
  refine ⟨nonempty, _, _, file, ?_, Dictionary.read_render readable integral⟩
  rw [String.fromUTF8?, dif_pos valid]
  rfl

theorem HasFile.mem_stems (file : HasFile tree place stem) :
    stem ∈ (tree.namesIn place).filterMap jsonStem? := by
  obtain ⟨nonempty, content, found⟩ := file
  exact List.mem_filterMap.mpr
    ⟨_, mem_namesIn_of_entry found, jsonStem?_eq_some_iff.mpr ⟨nonempty, rfl⟩⟩

theorem plain_of_names (plain : ∀ entry ∈ tree.entries, Plain (baseName entry.1))
    (above : FilePath) : ∀ name ∈ tree.namesIn above, Plain name := by
  intro name member
  obtain ⟨entry, isEntry, rfl⟩ := List.mem_map.mp member
  exact plain entry (List.mem_filter.mp isEntry).1

theorem dictionaryOf_iff :
    DictionaryOf tree place stem dictionary ↔
      ∃ name ∈ tree.namesIn place, jsonStem? name = some stem ∧
        DictionaryAt tree (place ++ [name]) dictionary := by
  constructor
  · rintro ⟨nonempty, there⟩
    obtain ⟨_, content, file⟩ := DictionaryOf.hasFile ⟨nonempty, there⟩
    exact ⟨_, mem_namesIn_of_entry file, jsonStem?_eq_some_iff.mpr ⟨nonempty, rfl⟩, there⟩
  · rintro ⟨name, _, isStem, there⟩
    obtain ⟨nonempty, rfl⟩ := jsonStem?_eq_some_iff.mp isStem
    exact ⟨nonempty, there⟩

theorem fragmentOf_iff {fragment : FragmentName} :
    FragmentOf tree place fragment dictionary ↔
      FragmentsBelow tree place (tree.namesIn place) fragment dictionary := by
  simp only [FragmentOf, FragmentsBelow, FragmentsIn, ← dictionaryOf_iff, Subdirectory, and_assoc,
    @eq_comm _ fragment.1]

namespace Layout

theorem fragment_unique (layout : Layout tree place) {fragment : FragmentName}
    {other : Dictionary} (first : FragmentOf tree place fragment dictionary)
    (second : FragmentOf tree place fragment other) : dictionary = other := by
  obtain ⟨left, isLeft, leftLocale, leftThere⟩ := first
  obtain ⟨right, isRight, rightLocale, rightThere⟩ := second
  cases layout.fragmentsApart left right isLeft isRight fragment.2 leftThere.hasFile
    rightThere.hasFile (leftLocale.trans rightLocale.symm)
  exact leftThere.2.unique rightThere.2

/-- What is no dictionary where one would be read is a directory. -/
theorem legible_or_directory
    (readable : ∀ stem, HasFile tree place stem → ∃ dictionary,
      DictionaryOf tree place stem dictionary)
    (member : name ∈ tree.namesIn place) :
    Legible tree place name ∨ ∃ stem, stem ≠ "" ∧ name = stem ++ ".json" ∧
      tree.entry? (place ++ [name]) = some .directory := by
  cases isStem : jsonStem? name with
  | none => exact .inl fun stem found => by simp [isStem] at found
  | some stem =>
      obtain ⟨nonempty, rfl⟩ := jsonStem?_eq_some_iff.mp isStem
      obtain ⟨entry, found⟩ := entry_of_mem_namesIn member
      cases entry with
      | directory => exact .inr ⟨stem, nonempty, rfl, found⟩
      | file content =>
          obtain ⟨dictionary, _, there⟩ := readable stem ⟨nonempty, content, found⟩
          exact .inl fun _ _ => ⟨dictionary, there⟩

theorem blocked_iff (layout : Layout tree place) :
    Blocked tree place ↔ ∃ name ∈ tree.namesIn place, ¬ LegibleBelow tree place name := by
  constructor
  · rintro ⟨subdirectory, ⟨member, isDirectory⟩, name, nonempty, found⟩
    refine ⟨subdirectory, member, fun legible => ?_⟩
    obtain ⟨dictionary, there⟩ := (legibleBelow_of_directory isDirectory).mp legible _
      (mem_namesIn_of_entry found) name (jsonStem?_eq_some_iff.mpr ⟨nonempty, rfl⟩)
    exact there.file found
  · rintro ⟨name, member, illegible⟩
    by_cases isDirectory : tree.entry? (place ++ [name]) = some .directory
    · rw [legibleBelow_of_directory isDirectory] at illegible
      refine ⟨name, ⟨member, isDirectory⟩, Classical.byContradiction fun free => illegible ?_⟩
      intro file isFile
      rcases legible_or_directory (layout.fragments name ⟨member, isDirectory⟩) isFile with
        legible | ⟨stem, nonempty, rfl, found⟩
      · exact legible
      · exact absurd ⟨stem, nonempty, found⟩ free
    · rw [legibleBelow_of_other isDirectory] at illegible
      rcases legible_or_directory layout.dictionaries member with legible | ⟨_, _, _, found⟩
      · exact absurd legible illegible
      · exact absurd found isDirectory

/-- The order in which directories are listed makes no difference. -/
theorem readInOrder_cases (layout : Layout tree place)
    (located : tree.locate path = .ok (place, some .directory))
    {order : String → List String → List String}
    (ordered : ∀ path names, (order path names).Perm names) :
    (∃ directory, readInOrder order tree path = .ok directory ∧ ¬ Blocked tree place ∧
      Holds tree place directory) ∨
    (∃ error, readInOrder order tree path = .error error ∧ Blocked tree place) := by
  have opens := opens_of_located located
  have listed (name : String) : name ∈ order path (Text.sorted (tree.namesIn place)) ↔
      name ∈ tree.namesIn place := mem_ordered ordered
  simp only [readInOrder, list_of_directory located]
  rcases addEntriesInOrder_cases layout.wellFormed opens ordered
    (fun name member => layout.plain place name ((listed name).mp member))
    (fun name _ => layout.plain (place ++ [name])) empty with
    ⟨directory, read, legible, gains⟩ | ⟨error, failed, name, member, illegible⟩
  · have free : ¬ Blocked tree place := by
      rw [layout.blocked_iff]
      rintro ⟨name, member, illegible⟩
      exact illegible (legible name ((listed name).mpr member))
    have below (fragment : FragmentName) (dictionary : Dictionary) :
        FragmentsBelow tree place (order path (Text.sorted (tree.namesIn place))) fragment
          dictionary ↔ FragmentOf tree place fragment dictionary := by
      rw [fragmentOf_iff]
      simp only [FragmentsBelow, listed]
    have sound (fragment : FragmentName) (dictionary : Dictionary)
        (found : Keyed.get? fragment directory.fragments = some dictionary) :
        FragmentOf tree place fragment dictionary := by
      rcases gains.fragments fragment dictionary found with none | added
      · cases none
      · exact (below fragment dictionary).mp added
    refine .inl ⟨directory, read, free, ⟨fun stem dictionary => ?_, fun fragment dictionary => ?_⟩⟩
    · rw [gains.locales, dictionaryOf_iff]
      simp only [LocalesIn, listed, empty, List.not_mem_nil, false_or]
    · refine ⟨sound fragment dictionary, fun there => ?_⟩
      have named := (gains.named fragment).mpr (.inr ⟨dictionary, (below fragment _).mpr there⟩)
      obtain ⟨other, found⟩ := Option.isSome_iff_exists.mp named
      rw [found, layout.fragment_unique (sound fragment other found) there]
  · exact .inr ⟨error, failed,
      layout.blocked_iff.mpr ⟨name, (listed name).mp member, illegible⟩⟩

end Layout

end Phrasebook.MessageDirectory
