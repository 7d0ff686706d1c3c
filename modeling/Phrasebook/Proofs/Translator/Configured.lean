import Phrasebook.Proofs.MessageDirectory.Layout
import Phrasebook.Proofs.Traffic.Prompt
import Phrasebook.Translator.Configured

namespace Phrasebook.Translator

open MessageDirectory

variable {σ ε ρ : Type} {network : Network ε ρ} {config : Config} {world : World ε ρ}
  {order : String → List String → List String} {tree : FileTree} {place : FilePath}
  {path locale name : String} {directory : MessageDirectory} {dictionary : Dictionary}

/-- The translator of a configuration without a remote source, once its directory is read. -/
def ofDirectory (config : Config) (world : World ε ρ) (directory : MessageDirectory) :
    Translator (World ε ρ) :=
  { create config.locale.locale config.locale.fallback [] world with
    formatter := .empty config.locale.templateCapacity
    store := .seeded (directory.locales.map fun entry => (Locale.normalize entry.1, entry.2))
    namespaces := some directory.namespaces }

theorem ofConfigInOrder_of_read (valid : config.validate = .ok ()) (isLocal : config.remote = none)
    (named : config.locale.messagesDirectory = some path) :
    ofConfigInOrder order network config world =
      (readInOrder order world.files path).map (ofDirectory config world) := by
  have same : (create config.locale.locale config.locale.fallback [] world).world = world := rfl
  simp only [ofConfigInOrder, valid, ok_bind, addDirectoryInOrder, named, addRemote, isLocal, same]
  cases readInOrder order world.files path with
  | error error => rfl
  | ok directory => rfl

/-- A translator starts with the dictionaries of a directory, and gets the fragments of the
directory and nothing else, whatever was loaded before and whatever locale is the current one. -/
structure ReadFrom (tree : FileTree) (place : FilePath) (first : Translator σ) : Prop where
  idle : first.flights = .empty
  dictionaries : ∀ locale dictionary, first.store.dictionary? locale = some dictionary ↔
    ∃ stem, Locale.normalize stem = locale ∧ DictionaryOf tree place stem dictionary
  loaded : ∀ locale, first.store.hasLocale locale = (first.store.dictionary? locale).isSome
  unmarked : ∀ locale name, first.store.hasNamespace locale name = false
  found : ∀ moves now name dictionary,
    let translator := ((Traffic.quiet first).run moves).translator
    FragmentOf tree place (translator.locale, name) dictionary →
      (translator.loadNamespace now name).1 = .ok () ∧
        (translator.loadNamespace now name).2.store =
          if translator.isNamespaceLoaded name then translator.store
          else translator.store.mergeNamespace translator.locale name dictionary
  missing : ∀ moves now name,
    let translator := ((Traffic.quiet first).run moves).translator
    (∀ dictionary, ¬ FragmentOf tree place (translator.locale, name) dictionary) →
      (translator.loadNamespace now name).1 =
          .error (.localeUnavailable s!"{translator.locale}/{name}") ∧
        (translator.loadNamespace now name).2.store = translator.store

def staticAnswer (fragments : List (FragmentName × Dictionary)) (name : FragmentName) :
    LoadOutcome :=
  match Keyed.get? name fragments with
  | some dictionary => .ok dictionary
  | none => .error (.localeUnavailable name.label)

theorem static_settles (fragments : List (FragmentName × Dictionary)) (now : Int64)
    (name : FragmentName) (state : σ) :
    Loader.static FragmentName.label fragments now name state =
      (.settled (staticAnswer fragments name), state) := by
  unfold Loader.static staticAnswer
  cases Keyed.get? name fragments <;> rfl

theorem prompt_ofDirectory (config : Config) (world : World ε ρ) (directory : MessageDirectory) :
    Traffic.Prompt (staticAnswer directory.fragments)
      (Traffic.quiet (ofDirectory config world directory)) where
  source := ⟨_, rfl, static_settles directory.fragments⟩
  pending _ _ found := by
    simp only [Traffic.quiet, Flights.find?_empty] at found
    contradiction
  callers _ _ member := absurd member List.not_mem_nil
  merged _ marked := absurd marked Bool.false_ne_true

theorem mem_normalized (locales : List (String × Dictionary)) :
    (locale, dictionary) ∈ (locales.map fun entry => (Locale.normalize entry.1, entry.2)) ↔
      ∃ stem, Locale.normalize stem = locale ∧ (stem, dictionary) ∈ locales := by
  simp only [List.mem_map, Prod.mk.injEq, Prod.exists]
  constructor
  · rintro ⟨stem, _, member, isLocale, rfl⟩
    exact ⟨stem, isLocale, member⟩
  · rintro ⟨stem, isLocale, member⟩
    exact ⟨stem, dictionary, member, isLocale, rfl⟩

theorem dictionary?_ofDirectory (layout : Layout tree place) (holds : Holds tree place directory) :
    (ofDirectory config world directory).store.dictionary? locale = some dictionary ↔
      ∃ stem, Locale.normalize stem = locale ∧ DictionaryOf tree place stem dictionary := by
  have sound {dictionary : Dictionary} (found :
      (ofDirectory config world directory).store.dictionary? locale = some dictionary) :
      ∃ stem, Locale.normalize stem = locale ∧ DictionaryOf tree place stem dictionary := by
    obtain ⟨stem, isLocale, member⟩ :=
      (mem_normalized _).mp (MessageStore.mem_of_dictionary?_seeded found)
    exact ⟨stem, isLocale, (holds.locales stem dictionary).mp member⟩
  refine ⟨sound, ?_⟩
  rintro ⟨stem, isLocale, there⟩
  have named : ((ofDirectory config world directory).store.dictionary? locale).isSome := by
    rw [ofDirectory, MessageStore.dictionary?_seeded]
    exact List.mem_map_of_mem
      ((mem_normalized _).mpr ⟨stem, isLocale, (holds.locales stem dictionary).mpr there⟩)
  obtain ⟨other, found⟩ := Option.isSome_iff_exists.mp named
  obtain ⟨twin, isTwin, thereToo⟩ := sound found
  cases layout.localesApart stem twin there.hasFile thereToo.hasFile (isLocale.trans isTwin.symm)
  rw [found, there.2.unique thereToo.2]

theorem readFrom_of_holds (layout : Layout tree place) (holds : Holds tree place directory)
    (config : Config) (world : World ε ρ) :
    ReadFrom tree place (ofDirectory config world directory) where
  idle := rfl
  dictionaries locale dictionary := dictionary?_ofDirectory layout holds
  loaded locale := by
    rw [Bool.eq_iff_iff, MessageStore.hasLocale_iff]
    exact (MessageStore.dictionary?_seeded _ locale).symm
  unmarked _ _ := rfl
  found moves now name dictionary := by
    have prompt := (prompt_ofDirectory config world directory).run moves
    have sourced := sourced_kept.run (quiet_sourced (ofDirectory config world directory)) moves
    intro translator there
    refine prompt.loadNamespace_ok sourced now ?_
    rw [staticAnswer, (holds.fragments _ _).mpr there]
  missing moves now name := by
    have prompt := (prompt_ofDirectory config world directory).run moves
    intro translator absent
    refine prompt.loadNamespace_error now ?_
    have none : Keyed.get? (translator.locale, name) directory.fragments = none :=
      Option.eq_none_iff_forall_ne_some.mpr fun dictionary found =>
        absent dictionary ((holds.fragments _ _).mp found)
    rw [staticAnswer, none]
    rfl

/-- Whatever order directories list their names in, a translator is set up unless something that
would be read is a directory, and then has all that the directory offers. -/
theorem ofConfigInOrder_readFrom (valid : config.validate = .ok ())
    (isLocal : config.remote = none) (named : config.locale.messagesDirectory = some path)
    (located : world.files.locate path = .ok (place, some .directory))
    (layout : Layout world.files place)
    (ordered : ∀ path names, (order path names).Perm names) :
    ofConfig network config world = ofConfigInOrder (fun _ names => names) network config world ∧
      ((∃ first, ofConfigInOrder order network config world = .ok first) ↔
        ¬ Blocked world.files place) ∧
      ∀ first, ofConfigInOrder order network config world = .ok first →
        ReadFrom world.files place first := by
  refine ⟨rfl, ?_⟩
  rw [ofConfigInOrder_of_read valid isLocal named]
  rcases layout.readInOrder_cases located ordered with
    ⟨directory, read, free, holds⟩ | ⟨error, failed, blocked⟩
  · rw [read]
    refine ⟨iff_of_true ⟨_, rfl⟩ free, fun first isFirst => ?_⟩
    rw [← Except.ok.inj isFirst]
    exact readFrom_of_holds layout holds config world
  · rw [failed]
    exact ⟨iff_of_false nofun (not_not_intro blocked), nofun⟩

def titled (title : String) : Dictionary :=
  ⟨[("title", .string title)],
    by simp [Json.Distinct, Json.DistinctEntries, Keyed.Distinct, Keyed.keys]⟩

def titledFile (title : String) : FileEntry :=
  .file (titled title).toJson.render.toUTF8

theorem dictionaryOf_titled {stem title : String} (nonempty : stem ≠ "")
    (file : tree.entry? (place ++ [stem ++ ".json"]) = some (titledFile title)) :
    DictionaryOf tree place stem (titled title) := by
  have readable : (titled title).toJson.Readable Json.maxLevels := by
    refine .object fun entry member => ?_
    cases List.mem_singleton.mp member
    exact .string title
  have integral : (titled title).toJson.Integral := by
    refine .object fun entry member => ?_
    cases List.mem_singleton.mp member
    exact .string title
  exact dictionaryOf_render nonempty readable integral file

def offline : Network Unit Unit :=
  ⟨.unreachable, fun _ => .error "offline"⟩

def inDirectory (locale : String) : Config :=
  { locale := { locale, messagesDirectory := some "m" } }

/-- The directory of a locale, one with an extension, and a file that is not read. -/
def mixed : FileTree :=
  ⟨"", [], [(["m"], .directory), (["m", "tr_tr.json"], titledFile "Selam"),
    (["m", "notes.txt"], titledFile "?"), (["m", "en"], .directory),
    (["m", "en", "admin.json"], titledFile "New"), (["m", "en.old"], .directory),
    (["m", "en.old", "shop.json"], titledFile "Old")]⟩

theorem subdirectory_mixed (isOne : Subdirectory mixed ["m"] name) :
    name = "en" ∨ name = "en.old" := by
  obtain ⟨member, isDirectory⟩ := isOne
  have names : mixed.namesIn ["m"] = ["tr_tr.json", "notes.txt", "en", "en.old"] := by decide
  rw [names] at member
  simp only [List.mem_cons, List.not_mem_nil, or_false] at member
  rcases member with rfl | rfl | rfl | rfl
  · cases isDirectory
  · cases isDirectory
  · exact .inl rfl
  · exact .inr rfl

theorem hasFile_mixed {place : FilePath} {stem : String} (file : HasFile mixed place stem) :
    (place = ["m"] → stem = "tr_tr") ∧ (place = ["m", "en"] → stem = "admin") ∧
      (place = ["m", "en.old"] → stem = "shop") := by
  have stem := file.mem_stems
  refine ⟨?_, ?_, ?_⟩
  · rintro rfl
    have stems : (mixed.namesIn ["m"]).filterMap jsonStem? = ["tr_tr"] := by decide +kernel
    simpa [stems] using stem
  · rintro rfl
    have stems : (mixed.namesIn ["m", "en"]).filterMap jsonStem? = ["admin"] := by decide +kernel
    simpa [stems] using stem
  · rintro rfl
    have stems : (mixed.namesIn ["m", "en.old"]).filterMap jsonStem? = ["shop"] := by
      decide +kernel
    simpa [stems] using stem

theorem layout_mixed : Layout mixed ["m"] where
  wellFormed := ⟨.inl rfl, by simp [mixed, Keyed.Distinct, Keyed.keys]⟩
  plain := plain_of_names (by simp only [mixed]; decide)
  dictionaries stem file := by
    cases (hasFile_mixed file).1 rfl
    exact ⟨_, dictionaryOf_titled (by decide) rfl⟩
  fragments subdirectory isOne name file := by
    rcases subdirectory_mixed isOne with rfl | rfl
    · cases (hasFile_mixed file).2.1 rfl
      exact ⟨_, dictionaryOf_titled (by decide) rfl⟩
    · cases (hasFile_mixed file).2.2 rfl
      exact ⟨_, dictionaryOf_titled (by decide) rfl⟩
  localesApart first second isFirst isSecond _ := by
    rw [(hasFile_mixed isFirst).1 rfl, (hasFile_mixed isSecond).1 rfl]
  fragmentsApart first second isFirst isSecond name inFirst inSecond _ := by
    rcases subdirectory_mixed isFirst with rfl | rfl <;>
      rcases subdirectory_mixed isSecond with rfl | rfl
    · rfl
    · have admin := (hasFile_mixed inFirst).2.1 rfl
      exact absurd (admin.symm.trans ((hasFile_mixed inSecond).2.2 rfl)) (by decide)
    · have shop := (hasFile_mixed inFirst).2.2 rfl
      exact absurd (shop.symm.trans ((hasFile_mixed inSecond).2.1 rfl)) (by decide)
    · rfl

theorem not_blocked_mixed : ¬ Blocked mixed ["m"] := by
  rintro ⟨subdirectory, isOne, name, nonempty, isDirectory⟩
  have member := mem_namesIn_of_entry isDirectory
  rcases subdirectory_mixed isOne with rfl | rfl
  · have names : mixed.namesIn (["m"] ++ ["en"]) = ["admin.json"] := by decide
    rw [names, List.mem_singleton] at member
    rw [member] at isDirectory
    cases isDirectory
  · have names : mixed.namesIn (["m"] ++ ["en.old"]) = ["shop.json"] := by decide
    rw [names, List.mem_singleton] at member
    rw [member] at isDirectory
    cases isDirectory

/-- What the second directory holds is found under the locale of the first one, and not under its
own name. -/
theorem ofConfigInOrder_readFrom_mixed :
    (inDirectory "en").validate = .ok () ∧ mixed.locate "m" = .ok (["m"], some .directory) ∧
      Layout mixed ["m"] ∧ (∀ names : List String, names.reverse.Perm names) ∧
      ∃ first,
        ofConfigInOrder (fun _ => List.reverse) offline (inDirectory "en")
          (World.create () mixed ()) = .ok first ∧
        first.store.dictionary? "tr-TR" = some (titled "Selam") ∧
        (((Traffic.quiet first).run [.setLocale "en"]).translator.loadNamespace 0 "shop").1 =
          .ok () ∧
        (((Traffic.quiet first).run [.setLocale "en.old"]).translator.loadNamespace 0 "shop").1 =
          .error (.localeUnavailable "en.old/shop") := by
  have valid : (inDirectory "en").validate = .ok () := rfl
  have located : mixed.locate "m" = .ok (["m"], some .directory) := rfl
  obtain ⟨_, isSetUp, readFrom⟩ := @ofConfigInOrder_readFrom Unit Unit offline (inDirectory "en")
    (World.create () mixed ()) (fun _ => List.reverse) ["m"] "m" valid rfl rfl located layout_mixed
    fun _ => List.reverse_perm
  obtain ⟨first, isFirst⟩ := isSetUp.mpr not_blocked_mixed
  have readFrom := readFrom first isFirst
  refine ⟨valid, located, layout_mixed, List.reverse_perm, first, isFirst, ?_, ?_, ?_⟩
  · refine (readFrom.dictionaries _ _).mpr ⟨"tr_tr", by decide +kernel, ?_⟩
    exact dictionaryOf_titled (by decide) rfl
  · refine (readFrom.found [.setLocale "en"] 0 "shop" (titled "Old") ⟨"en.old", ?_, ?_, ?_⟩).1
    · exact ⟨by decide, rfl⟩
    · exact @localeOf_append "en" "old" (by decide) (by decide)
    · exact dictionaryOf_titled (show "shop" ≠ "" by decide) rfl
  · have isLocale : Locale.normalize "en.old" = "en.old" := by decide +kernel
    refine (readFrom.missing [.setLocale "en.old"] 0 "shop" fun dictionary there => ?_).1.trans ?_
    · obtain ⟨subdirectory, isOne, sameLocale, _⟩ := there
      have different : ∀ name ∈ ["en", "en.old"], localeOf name ≠ Locale.normalize "en.old" := by
        decide +kernel
      exact different subdirectory (by simpa using subdirectory_mixed isOne) sameLocale
    · show _ = Except.error (Error.localeUnavailable (FragmentName.label ("en.old", "shop")))
      rw [← isLocale]
      rfl

/-- Two directories whose names differ in the extension. -/
def dotted : FileTree :=
  ⟨"", [], [(["m"], .directory), (["m", "en"], .directory),
    (["m", "en", "admin.json"], titledFile "New"), (["m", "en.old"], .directory),
    (["m", "en.old", "admin.json"], titledFile "Old")]⟩

theorem addEntryInOrder_dotted {title : String}
    (single : ∀ path, order path ["admin.json"] = ["admin.json"])
    (isOne : (name = "en" ∧ title = "New") ∨ (name = "en.old" ∧ title = "Old"))
    (directory : MessageDirectory) :
    addEntryInOrder order dotted "m" name directory =
      .ok { directory with
        fragments := Keyed.put ("en", "admin") (titled title) directory.fragments } := by
  obtain ⟨plain, isDirectory, isLocale, names, file⟩ : FileTree.Plain name ∧
      dotted.entry? ["m", name] = some .directory ∧ localeOf name = "en" ∧
      dotted.namesIn ["m", name] = ["admin.json"] ∧
      dotted.entry? (["m", name] ++ ["admin" ++ ".json"]) = some (titledFile title) := by
    have isNormal : Locale.normalize "en" = "en" := by decide +kernel
    rcases isOne with ⟨rfl, rfl⟩ | ⟨rfl, rfl⟩
    · exact ⟨by decide, rfl, (localeOf_of_notMem (by decide)).trans isNormal, by decide, rfl⟩
    · have stemmed := @localeOf_append "en" "old" (by decide) (by decide)
      exact ⟨by decide, rfl, stemmed.trans isNormal, by decide, rfl⟩
  have wellFormed : dotted.WellFormed :=
    ⟨.inl rfl, by simp [dotted, Keyed.Distinct, Keyed.keys]⟩
  have opens : dotted.Opens "m" ["m"] := FileTree.opens_of_located rfl
  have located : dotted.locate (FileTree.join "m" name) = .ok (["m", name], some .directory) :=
    isDirectory ▸ opens.locate wellFormed plain
  have there := (dictionaryOf_titled (by decide) file).2
  have read := (ofFile_join_iff wellFormed (FileTree.opens_of_located located)
    (by decide : FileTree.Plain "admin.json")).mpr there
  have isStem : jsonStem? "admin.json" = some "admin" := by decide
  have sorted : Text.sorted ["admin.json"] = ["admin.json"] := List.mergeSort_singleton _
  simp only [addEntryInOrder, FileTree.isDirectory, located, if_true, list_of_directory located,
    names, sorted, single, addFragments, isStem, read, ok_bind, isLocale]

theorem readInOrder_dotted :
    readInOrder (fun _ names => names) dotted "m" =
        .ok ⟨[], [(("en", "admin"), titled "Old")]⟩ ∧
      readInOrder (fun _ => List.reverse) dotted "m" =
        .ok ⟨[], [(("en", "admin"), titled "New")]⟩ := by
  have located : dotted.locate "m" = .ok (["m"], some .directory) := rfl
  have names : dotted.namesIn ["m"] = ["en", "en.old"] := by decide
  have sorted : Text.sorted ["en", "en.old"] = ["en", "en.old"] :=
    List.mergeSort_of_pairwise (by decide)
  have backward : ["en", "en.old"].reverse = ["en.old", "en"] := rfl
  simp only [readInOrder, list_of_directory located, names, sorted, backward, addEntriesInOrder]
  constructor
  · rw [addEntryInOrder_dotted (fun _ => rfl) (.inl ⟨rfl, rfl⟩), ok_bind,
      addEntryInOrder_dotted (fun _ => rfl) (.inr ⟨rfl, rfl⟩), ok_bind]
    rfl
  · rw [addEntryInOrder_dotted (fun _ => rfl) (.inr ⟨rfl, rfl⟩), ok_bind,
      addEntryInOrder_dotted (fun _ => rfl) (.inl ⟨rfl, rfl⟩), ok_bind]
    rfl

def fedByDotted (title : String) : Translator (World Unit Unit) :=
  ofDirectory (inDirectory "en.old") (World.create () dotted ())
    ⟨[], [(("en", "admin"), titled title)]⟩

theorem ofConfigInOrder_fedByDotted {title : String}
    (read : readInOrder order dotted "m" = .ok ⟨[], [(("en", "admin"), titled title)]⟩) :
    ofConfigInOrder order offline (inDirectory "en.old") (World.create () dotted ()) =
      .ok (fedByDotted title) := by
  have valid : (inDirectory "en.old").validate = .ok () := rfl
  rw [ofConfigInOrder_of_read valid rfl rfl]
  exact congrArg _ read

/-- The directory of the current locale has the file and is not asked for it.  Under the locale of
the other one the file is found that was listed last. -/
theorem ofConfigInOrder_dotted :
    Locale.normalize "en" ≠ Locale.normalize "en.old" ∧
      DictionaryOf dotted ["m", "en"] "admin" (titled "New") ∧
      DictionaryOf dotted ["m", "en.old"] "admin" (titled "Old") ∧
      ∃ first second,
        ofConfigInOrder (fun _ names => names) offline (inDirectory "en.old")
          (World.create () dotted ()) = .ok first ∧
        ofConfigInOrder (fun _ => List.reverse) offline (inDirectory "en.old")
          (World.create () dotted ()) = .ok second ∧
        first.locale = Locale.normalize "en.old" ∧
        (first.loadNamespace 0 "admin").1 = .error (.localeUnavailable "en.old/admin") ∧
        ((first.setLocale "en").loadNamespace 0 "admin").2.store.find? "en" "admin.title" =
          some "Old" ∧
        ((second.setLocale "en").loadNamespace 0 "admin").2.store.find? "en" "admin.title" =
          some "New" := by
  obtain ⟨forward, backward⟩ := readInOrder_dotted
  exact ⟨by decide +kernel, dictionaryOf_titled (by decide) rfl,
    dictionaryOf_titled (by decide) rfl, fedByDotted "Old", fedByDotted "New",
    ofConfigInOrder_fedByDotted forward, ofConfigInOrder_fedByDotted backward, rfl,
    by decide +kernel, by decide +kernel, by decide +kernel⟩

end Phrasebook.Translator
