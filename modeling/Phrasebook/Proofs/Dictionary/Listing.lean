import Mathlib.Data.List.Nodup
import Phrasebook.Proofs.Dictionary.Namespaces

namespace Phrasebook

namespace Json

theorem entriesLeaves_eq_flatMap (entries : List (String × Json)) :
    entriesLeaves entries =
      entries.flatMap fun entry => entry.2.leaves.map fun leaf => (entry.1 :: leaf.1, leaf.2) := by
  induction entries with
  | nil => rfl
  | cons entry entries ih => rw [entriesLeaves, ih, List.flatMap_cons]

theorem cons_mem_entriesLeaves {entries : List (String × Json)} {key : String}
    {path : List String} {text : String} :
    (key :: path, text) ∈ entriesLeaves entries ↔
      ∃ value, (key, value) ∈ entries ∧ (path, text) ∈ value.leaves := by
  simp only [entriesLeaves_eq_flatMap, List.mem_flatMap, List.mem_map, Prod.mk.injEq,
    List.cons.injEq]
  constructor
  · intro listed
    obtain ⟨⟨_, value⟩, member, ⟨_, _⟩, among, ⟨rfl, rfl⟩, rfl⟩ := listed
    exact ⟨value, member, among⟩
  · intro listed
    obtain ⟨value, member, among⟩ := listed
    exact ⟨(key, value), member, (path, text), among, ⟨rfl, rfl⟩, rfl⟩

theorem ne_nil_of_mem_entriesLeaves {entries : List (String × Json)}
    {leaf : List String × String} (member : leaf ∈ entriesLeaves entries) : leaf.1 ≠ [] := by
  simp only [entriesLeaves_eq_flatMap, List.mem_flatMap, List.mem_map] at member
  obtain ⟨entry, _, inner, _, rfl⟩ := member
  exact List.cons_ne_nil _ _

/-- The leaves are the strings with the paths they stand at. -/
theorem mem_leaves_iff {path : List String} {text : String} {value : Json}
    (distinct : value.Distinct) :
    (path, text) ∈ value.leaves ↔ value.at? path = some (.string text) := by
  induction path generalizing value with
  | nil =>
      cases value with
      | string other => simp [leaves, at?, eq_comm]
      | object entries =>
          have absent : ([], text) ∉ (object entries).leaves :=
            fun member => ne_nil_of_mem_entriesLeaves member rfl
          simp [absent, at?]
      | _ => simp [leaves, at?]
  | cons key path ih =>
      cases value with
      | object entries =>
          rw [leaves, cons_mem_entriesLeaves, at?_object_cons, Option.bind_eq_some_iff]
          refine exists_congr fun value => ?_
          rw [Keyed.get?_eq_some_iff distinct.1]
          refine and_congr_right fun member => ih ?_
          exact distinctEntries_iff.mp distinct.2 _ member
      | _ => simp [leaves, at?]

mutual

/-- No leaf is listed twice. -/
theorem leaves_nodup : ∀ value : Json, value.Distinct → value.leaves.Nodup
  | .object entries, distinct => entriesLeaves_nodup entries distinct.1 distinct.2
  | .string _, _ => List.nodup_singleton _
  | .null, _ => List.nodup_nil
  | .bool _, _ => List.nodup_nil
  | .integer _, _ => List.nodup_nil
  | .double _, _ => List.nodup_nil
  | .array _, _ => List.nodup_nil

theorem entriesLeaves_nodup : ∀ entries : List (String × Json), Keyed.Distinct entries →
    DistinctEntries entries → (entriesLeaves entries).Nodup
  | [], _, _ => List.nodup_nil
  | (key, value) :: entries, keys, values => by
      obtain ⟨absent, others⟩ := List.nodup_cons.mp keys
      rw [entriesLeaves, List.nodup_append]
      refine ⟨(leaves_nodup value values.1).map ?_, entriesLeaves_nodup entries others values.2, ?_⟩
      · intro first second same
        exact Prod.ext (List.cons.inj (Prod.mk.inj same).1).2 (Prod.mk.inj same).2
      · -- leaves of different entries begin with different keys
        intro leaf here other there same
        obtain ⟨inner, _, rfl⟩ := List.mem_map.mp here
        subst same
        obtain ⟨standing, member, _⟩ := cons_mem_entriesLeaves.mp there
        exact absent (List.mem_map.mpr ⟨_, member, rfl⟩)

end

mutual

/-- No key has a dot, at any depth.  There are no paths into an array, so its items do not count. -/
def PlainKeys : Json → Prop
  | .object entries => PlainEntries entries
  | _ => True

def PlainEntries : List (String × Json) → Prop
  | [] => True
  | (key, value) :: entries => '.' ∉ key.toList ∧ value.PlainKeys ∧ PlainEntries entries

end

theorem plainEntries_iff {entries : List (String × Json)} :
    PlainEntries entries ↔ ∀ entry ∈ entries, '.' ∉ entry.1.toList ∧ entry.2.PlainKeys := by
  induction entries with
  | nil => simp [PlainEntries]
  | cons entry rest ih => simp [PlainEntries, ih, and_assoc]

theorem PlainKeys.plain {path : List String} {value inner : Json} (plainKeys : value.PlainKeys)
    (found : value.at? path = some inner) : ∀ segment ∈ path, '.' ∉ segment.toList := by
  induction path generalizing value with
  | nil => simp
  | cons key path ih =>
      obtain ⟨entries, rfl⟩ := object_of_at?_cons found
      rw [at?_object_cons, Option.bind_eq_some_iff] at found
      obtain ⟨next, here, inside⟩ := found
      obtain ⟨plain, below⟩ := plainEntries_iff.mp plainKeys _ (Keyed.mem_of_get? here)
      exact List.forall_mem_cons.mpr ⟨plain, ih below inside⟩

end Json

namespace Dictionary

variable {dictionary : Dictionary} {key message : String} {path : List String}

theorem intercalate_keyPath (key : String) : String.intercalate "." (keyPath key) = key := by
  have separator : ".".toList = ['.'] := rfl
  rw [← String.toList_inj, String.toList_intercalate, keyPath, List.map_map, separator]
  have unchanged : String.toList ∘ String.ofList = id := funext fun cs => String.toList_ofList
  rw [unchanged, List.map_id, Text.intercalate_segments]

theorem keyPath_intercalate (plain : ∀ segment ∈ path, '.' ∉ segment.toList)
    (nonempty : path ≠ []) : keyPath (String.intercalate "." path) = path := by
  have separator : ".".toList = ['.'] := rfl
  have free : ∀ piece ∈ path.map String.toList, '.' ∉ piece := by
    intro piece member
    obtain ⟨segment, among, rfl⟩ := List.mem_map.mp member
    exact plain segment among
  rw [keyPath, String.toList_intercalate, separator,
    Text.segments_intercalate free (mt List.map_eq_nil_iff.mp nonempty), List.map_map]
  have unchanged : String.ofList ∘ String.toList = id := funext fun text => String.ofList_toList
  rw [unchanged, List.map_id]

theorem stringAt?_cons_eq_some_iff {root : String} :
    dictionary.stringAt? (root :: path) = some message ↔
      ∃ value, Keyed.get? root dictionary.entries = some value ∧
        value.at? path = some (.string message) := by
  rw [stringAt?_eq_some_iff, toJson, Json.at?_object_cons, Option.bind_eq_some_iff]

theorem stringAt?_singleton_eq_some_iff :
    dictionary.stringAt? [key] = some message ↔
      Keyed.get? key dictionary.entries = some (.string message) := by
  simp [stringAt?_cons_eq_some_iff, Json.at?]

theorem stringAt?_singleton_eq_none
    (free : ∀ held, Keyed.get? key dictionary.entries ≠ some (.string held)) :
    dictionary.stringAt? [key] = none :=
  Option.eq_none_iff_forall_ne_some.mpr fun held present =>
    free held (stringAt?_singleton_eq_some_iff.mp present)

theorem mem_entriesLeaves_iff :
    (path, message) ∈ Json.entriesLeaves dictionary.entries ↔
      dictionary.stringAt? path = some message := by
  rw [stringAt?_eq_some_iff]
  exact Json.mem_leaves_iff dictionary.distinct

theorem mem_flatten_iff :
    (key, message) ∈ dictionary.flatten ↔
      ∃ path, dictionary.stringAt? path = some message ∧ String.intercalate "." path = key := by
  simp only [flatten, List.mem_map, Prod.exists, mem_entriesLeaves_iff, Prod.mk.injEq]
  constructor
  · intro listed
    obtain ⟨path, _, found, named, rfl⟩ := listed
    exact ⟨path, found, named⟩
  · intro standing
    obtain ⟨path, found, named⟩ := standing
    exact ⟨path, message, found, named, rfl⟩

theorem find?_of_root (present : Keyed.get? key dictionary.entries = some (.string message)) :
    dictionary.find? key = some message := by
  rw [find?, stringAt?_singleton_eq_some_iff.mpr present]

theorem mem_flatten_of_find? (found : dictionary.find? key = some message) :
    (key, message) ∈ dictionary.flatten := by
  rw [mem_flatten_iff]
  cases whole : dictionary.stringAt? [key] with
  | some held =>
      simp only [find?, whole, Option.some.injEq] at found
      subst found
      exact ⟨[key], whole, by simp⟩
  | none =>
      rw [find?_of_path whole] at found
      exact ⟨keyPath key, found, intercalate_keyPath key⟩

/-- Neither a key of an object at the root nor any key below the root has a dot. -/
structure PlainBelow (dictionary : Dictionary) : Prop where
  objects : ∀ key entries, Keyed.get? key dictionary.entries = some (.object entries) →
    '.' ∉ key.toList
  below : ∀ entry ∈ dictionary.entries, entry.2.PlainKeys

/-- Below a root key without a dot there is none on the whole path. -/
theorem PlainBelow.plain (plainBelow : dictionary.PlainBelow) {root : String}
    (found : dictionary.stringAt? (root :: path) = some message) (plainRoot : '.' ∉ root.toList) :
    ∀ segment ∈ root :: path, '.' ∉ segment.toList := by
  obtain ⟨value, atRoot, inside⟩ := stringAt?_cons_eq_some_iff.mp found
  have plainKeys := plainBelow.below _ (Keyed.mem_of_get? atRoot)
  exact List.forall_mem_cons.mpr ⟨plainRoot, plainKeys.plain inside⟩

/-- Taking the name of a path apart leads back to the path. -/
theorem PlainBelow.keyPath_name (plainBelow : dictionary.PlainBelow) {root : String}
    (found : dictionary.stringAt? (root :: path) = some message) (plainRoot : '.' ∉ root.toList) :
    keyPath (String.intercalate "." (root :: path)) = root :: path :=
  keyPath_intercalate (plainBelow.plain found plainRoot) (List.cons_ne_nil _ _)

theorem PlainBelow.find?_of_mem_flatten (plainBelow : dictionary.PlainBelow)
    (listed : (key, message) ∈ dictionary.flatten)
    (free : ∀ held, Keyed.get? key dictionary.entries ≠ some (.string held)) :
    dictionary.find? key = some message := by
  obtain ⟨path, found, rfl⟩ := mem_flatten_iff.mp listed
  match path with
  | [] => contradiction
  | [root] =>
      have held := stringAt?_singleton_eq_some_iff.mp found
      exact absurd held (by simpa using free message)
  | root :: next :: path =>
      obtain ⟨value, atRoot, inside⟩ := stringAt?_cons_eq_some_iff.mp found
      obtain ⟨entries, rfl⟩ := Json.object_of_at?_cons inside
      have plainRoot := plainBelow.objects root entries atRoot
      have absent := stringAt?_singleton_eq_none free
      rw [find?_of_path absent, plainBelow.keyPath_name found plainRoot, found]

theorem keyPath_of_stringAt? (plainBelow : dictionary.PlainBelow)
    (plainRoots : ∀ key ∈ dictionary.keys, '.' ∉ key.toList)
    (found : dictionary.stringAt? path = some message) :
    keyPath (String.intercalate "." path) = path := by
  cases path with
  | nil => contradiction
  | cons root path =>
      obtain ⟨value, atRoot, _⟩ := stringAt?_cons_eq_some_iff.mp found
      exact plainBelow.keyPath_name found (plainRoots root (mem_keys_iff.mpr ⟨value, atRoot⟩))

theorem flatten_names_nodup (plainBelow : dictionary.PlainBelow)
    (plainRoots : ∀ key ∈ dictionary.keys, '.' ∉ key.toList) :
    (dictionary.flatten.map Prod.fst).Nodup := by
  have leaves : (Json.entriesLeaves dictionary.entries).Nodup :=
    Json.leaves_nodup dictionary.toJson dictionary.distinct
  rw [flatten, List.map_map]
  refine leaves.map_on ?_
  intro ⟨first, firstMessage⟩ firstListed ⟨second, secondMessage⟩ secondListed sameName
  have atFirst := mem_entriesLeaves_iff.mp firstListed
  have atSecond := mem_entriesLeaves_iff.mp secondListed
  have samePath : first = second := by
    rw [← keyPath_of_stringAt? plainBelow plainRoots atFirst,
      ← keyPath_of_stringAt? plainBelow plainRoots atSecond]
    exact congrArg keyPath sameName
  subst samePath
  exact Prod.ext rfl (Option.some.inj (atFirst.symm.trans atSecond))

theorem find?_eq_some_iff_mem_flatten (plainBelow : dictionary.PlainBelow)
    (plainRoots : ∀ key ∈ dictionary.keys, '.' ∉ key.toList) :
    dictionary.find? key = some message ↔ (key, message) ∈ dictionary.flatten := by
  refine ⟨mem_flatten_of_find?, fun listed => ?_⟩
  obtain ⟨path, found, rfl⟩ := mem_flatten_iff.mp listed
  have apart := keyPath_of_stringAt? plainBelow plainRoots found
  by_cases dotted : '.' ∈ (String.intercalate "." path).toList
  · have absent := stringAt?_singleton_eq_none fun held present =>
      plainRoots _ (mem_keys_iff.mpr ⟨.string held, present⟩) dotted
    rw [find?_of_path absent, apart, found]
  · rw [find?_of_plain dotted, apart, found]

/-- Whatever is found is listed.  Where no key of an object and no key below the root has a dot,
whatever is listed is found under its name, unless the root holds a message under that name as a
whole; and if no other key at the root has a dot either, every name is listed once. -/
theorem find?_flatten (dictionary : Dictionary) :
    (∀ key message, dictionary.find? key = some message → (key, message) ∈ dictionary.flatten) ∧
    (dictionary.PlainBelow → ∀ key message, (key, message) ∈ dictionary.flatten →
      (∀ held, Keyed.get? key dictionary.entries = some (.string held) →
        dictionary.find? key = some held) ∧
      ((∀ held, Keyed.get? key dictionary.entries ≠ some (.string held)) →
        dictionary.find? key = some message)) ∧
    (dictionary.PlainBelow → (∀ key ∈ dictionary.keys, '.' ∉ key.toList) →
      (dictionary.flatten.map Prod.fst).Nodup ∧
      ∀ key message,
        dictionary.find? key = some message ↔ (key, message) ∈ dictionary.flatten) := by
  refine ⟨fun _ _ => mem_flatten_of_find?, fun plainBelow key message listed => ?_,
    fun plainBelow plainRoots => ?_⟩
  · exact ⟨fun held present => find?_of_root present, plainBelow.find?_of_mem_flatten listed⟩
  · exact ⟨flatten_names_nodup plainBelow plainRoots,
      fun _ _ => find?_eq_some_iff_mem_flatten plainBelow plainRoots⟩

/-- The file menu with a message at the root that has the name of the one in the menu. -/
def overlaidFile : Dictionary :=
  nestedFile.insert "file.open" (.string "Start")

theorem plainBelow_nestedFile : nestedFile.PlainBelow := by
  refine ⟨fun key entries found => ?_, by simp [nestedFile, Json.PlainKeys, Json.PlainEntries]⟩
  have here := Keyed.mem_of_get? found
  simp only [nestedFile, List.mem_singleton, Prod.mk.injEq] at here
  rw [here.1]
  decide

theorem plainBelow_overlaidFile : overlaidFile.PlainBelow := by
  have atRoot : overlaidFile.entries = nestedFile.entries ++ [("file.open", .string "Start")] := rfl
  constructor
  case objects =>
    intro key entries found
    have here := Keyed.mem_of_get? found
    simp only [atRoot, nestedFile, List.mem_append, List.mem_singleton, Prod.mk.injEq,
      reduceCtorEq, and_false, or_false] at here
    rw [here.1]
    decide
  case below => simp [atRoot, nestedFile, Json.PlainKeys, Json.PlainEntries]

theorem find?_flatten_files :
    nestedFile.PlainBelow ∧ (∀ key ∈ nestedFile.keys, '.' ∉ key.toList) ∧
      (nestedFile.flatten.map Prod.fst).Nodup ∧
      ("file.open", "Auf") ∈ nestedFile.flatten ∧ nestedFile.find? "file.open" = some "Auf" ∧
      overlaidFile.PlainBelow ∧ ("file.open", "Auf") ∈ overlaidFile.flatten ∧
      overlaidFile.find? "file.open" = some "Start" := by
  have plainRoots : ∀ key ∈ nestedFile.keys, '.' ∉ key.toList := by decide
  have listed : ("file.open", "Auf") ∈ nestedFile.flatten := by decide
  have overlaid : ("file.open", "Auf") ∈ overlaidFile.flatten := by decide
  have free : ∀ held, Keyed.get? "file.open" nestedFile.entries ≠ some (.string held) := nofun
  obtain ⟨_, nested, plain⟩ := find?_flatten nestedFile
  obtain ⟨nodup, _⟩ := plain plainBelow_nestedFile plainRoots
  have found := (nested plainBelow_nestedFile _ _ listed).2 free
  have held := ((find?_flatten overlaidFile).2.1 plainBelow_overlaidFile _ _ overlaid).1 "Start" rfl
  exact ⟨plainBelow_nestedFile, plainRoots, nodup, listed, found, plainBelow_overlaidFile, overlaid,
    held⟩

end Dictionary

end Phrasebook
