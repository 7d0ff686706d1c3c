import Phrasebook.Proofs.Cache.Files
import Phrasebook.Proofs.Cache.RoundTrip
import Phrasebook.Proofs.FileTree.Making

namespace Phrasebook.FileStorage

/-! Storing a record in one go.

To store a record, the directory is made, the record is written to a file beside its place, and the
file takes its place.  Whatever stops this before the last step, a failure or the end of the
program, nobody who reads a record sees any of it.
-/

open FileTree

variable {directory key text : String} {tree middle after : FileTree} {step : WriteStep}

/-- What a step that does not come to its end may leave behind.  A new name is given at once or not
at all. -/
inductive Cut (directory key text : String) (tree : FileTree) : WriteStep → FileTree → Prop where
  | unbegun (step : WriteStep) : Cut directory key text tree step tree
  | directories {place steps made} (started : tree.start directory = .ok (place, steps))
      (first : made <+: steps) :
      Cut directory key text tree .makeDirectory
        (tree.makeDirectories place (made.filter (· ≠ "."))).2
  | bytes {written : ByteArray} (first : written.data.toList <+: text.toUTF8.data.toList) :
      Cut directory key text tree .writeTemporary
        (tree.write (temporaryPath directory key) written).2

/-- The trees that are left behind if some steps are done and the next one is cut short. -/
inductive Halted (directory key text : String) :
    List WriteStep → FileTree → FileTree → Prop where
  | here {step steps tree after} (cut : Cut directory key text tree step after) :
      Halted directory key text (step :: steps) tree after
  | later {step steps tree middle after}
      (ran : step.run directory key text tree = (.ok (), middle))
      (halted : Halted directory key text steps middle after) :
      Halted directory key text (step :: steps) tree after

theorem outcome_eq_ok {α : Type} {verb path : String} {result : Except FileFault α × FileTree}
    {value : α} (isOk : outcome verb path result = (.ok value, after)) :
    result = (.ok value, after) := by
  obtain ⟨answer, state⟩ := result
  cases answer with
  | error reason => cases isOk
  | ok answer => cases isOk; rfl

theorem outcome_eq_error {α : Type} {verb path : String} {result : Except FileFault α × FileTree}
    {error : Error} (failed : outcome verb path result = (.error error, after)) :
    ∃ reason, result = (.error reason, after) := by
  obtain ⟨answer, state⟩ := result
  cases answer with
  | error reason => cases failed; exact ⟨reason, rfl⟩
  | ok answer => cases failed

theorem createDirectories_cut (tree : FileTree) (directory key text : String) :
    Cut directory key text tree .makeDirectory (tree.createDirectories directory).2 := by
  unfold createDirectories
  split
  · exact .unbegun _
  · split
    · next place steps started => exact .directories started (List.prefix_refl steps)
    · exact .unbegun _

theorem write_error {path : String} {content : ByteArray} {fault : FileFault}
    (failed : tree.write path content = (.error fault, after)) : after = tree := by
  unfold write at failed
  split at failed
  · cases failed; rfl
  · cases failed
  · cases failed; rfl

theorem rename_error {source target : String} {fault : FileFault}
    (failed : tree.rename source target = (.error fault, after)) : after = tree := by
  unfold FileTree.rename at failed
  split at failed
  · split at failed
    · cases failed; rfl
    · cases failed
  · cases failed; rfl
  · cases failed; rfl
  · cases failed; rfl
  · cases failed; rfl

/-- A step that fails is cut short. -/
theorem cut_of_run {error : Error}
    (failed : step.run directory key text tree = (.error error, after)) :
    Cut directory key text tree step after := by
  unfold WriteStep.run at failed
  cases step with
  | makeDirectory =>
      obtain ⟨reason, failed⟩ := outcome_eq_error failed
      have cut := createDirectories_cut tree directory key text
      rw [failed] at cut
      exact cut
  | writeTemporary =>
      obtain ⟨reason, failed⟩ := outcome_eq_error failed
      rw [write_error failed]
      exact .unbegun _
  | publish =>
      obtain ⟨reason, failed⟩ := outcome_eq_error failed
      rw [rename_error failed]
      exact .unbegun _

theorem halted_of_runSteps {error : Error} {steps : List WriteStep}
    (failed : runSteps directory key text steps tree = (.error error, after)) :
    Halted directory key text steps tree after := by
  induction steps generalizing tree with
  | nil => cases failed
  | cons step steps ih =>
      cases ran : step.run directory key text tree with
      | mk answer middle =>
          simp only [runSteps, ran] at failed
          cases answer with
          | ok done => exact .later ran (ih failed)
          | error reason =>
              cases failed
              exact .here (cut_of_run ran)

theorem runSteps_cons_eq_ok {steps : List WriteStep}
    (ran : runSteps directory key text (step :: steps) tree = (.ok (), after)) :
    ∃ middle, step.run directory key text tree = (.ok (), middle) ∧
      runSteps directory key text steps middle = (.ok (), after) := by
  cases first : step.run directory key text tree with
  | mk answer middle =>
      simp only [runSteps, first] at ran
      cases answer with
      | ok done => exact ⟨middle, rfl, ran⟩
      | error reason => cases ran

/-- All keys are read in two trees alike. -/
def ReadAlike (directory : String) (tree after : FileTree) : Prop :=
  ∀ key, (get directory key after).1 = (get directory key tree).1

theorem ReadAlike.trans (first : ReadAlike directory tree middle)
    (second : ReadAlike directory middle after) : ReadAlike directory tree after :=
  fun key => (second key).trans (first key)

/-- A tree in which names of the directory can be looked up. -/
structure Ready (directory : String) (tree : FileTree) : Prop where
  wellFormed : tree.WellFormed
  origin : ∃ start steps, tree.origin directory = .ok (start, steps)

theorem readAlike_made {place : FilePath} {steps made : List String}
    (wellFormed : tree.WellFormed) (rooted : tree.Rooted) (direct : tree.Direct directory)
    (started : tree.start directory = .ok (place, steps)) (first : made <+: steps) :
    ReadAlike directory tree (tree.makeDirectories place (made.filter (· ≠ "."))).2 :=
  fun key => get_congr
    (readText_made wellFormed rooted direct started (plain_recordName key) first)

theorem makeDirectory_ran (wellFormed : tree.WellFormed) (rooted : tree.Rooted)
    (direct : tree.Direct directory)
    (ran : WriteStep.run directory key text tree .makeDirectory = (.ok (), middle)) :
    Ready directory middle ∧ ReadAlike directory tree middle := by
  unfold WriteStep.run at ran
  have made := outcome_eq_ok ran
  unfold createDirectories at made
  split at made
  · next empty =>
      -- nothing is to be made, and names are looked up in the base
      cases made
      exact ⟨⟨wellFormed, tree.base, [], if_pos empty⟩, fun _ => rfl⟩
  · split at made
    · next place steps started =>
        have grown := grown_makeDirectories tree place (steps.filter (· ≠ "."))
        have alike := readAlike_made wellFormed rooted direct started (List.prefix_refl steps)
        rw [made] at grown alike
        refine ⟨⟨grown.wellFormed wellFormed, place, steps, ?_⟩, alike⟩
        rw [origin_congr grown.root grown.base]
        exact origin_of_start started
    · cases made

theorem Ready.written (ready : Ready directory tree) (key : String) (written : ByteArray) :
    ReadAlike directory tree (tree.write (temporaryPath directory key) written).2 := by
  obtain ⟨start, steps, origin⟩ := ready.origin
  exact fun wanted => get_congr (readText_write_join ready.wellFormed (plain_temporaryName key)
    (plain_recordName wanted) (recordName_ne_temporaryName wanted key) origin written)

theorem Ready.writeTemporary_ran (ready : Ready directory tree)
    (ran : WriteStep.run directory key text tree .writeTemporary = (.ok (), middle)) :
    (Ready directory middle ∧ ReadAlike directory tree middle) ∧
      ∃ place, middle.Opens directory place ∧
        middle.entry? (place ++ [temporaryName key]) = some (.file text.toUTF8) := by
  obtain ⟨start, steps, origin⟩ := ready.origin
  unfold WriteStep.run at ran
  have alike := ready.written key text.toUTF8
  have result := outcome_eq_ok ran
  rw [result] at alike
  rw [temporaryPath_eq] at result
  rcases write_join_cases ready.wellFormed (plain_temporaryName key) origin text.toUTF8 with
    ⟨fault, failed⟩ | ⟨place, other, opens, written, wellFormed, keeps, changed⟩
  · rw [failed] at result
    cases result
  · rw [written] at result
    cases result
    refine ⟨⟨⟨wellFormed, start, steps, ?_⟩, alike⟩, place, keeps.opens opens, ?_⟩
    · rw [origin_congr keeps.root keeps.base, origin]
    · rw [changed, if_pos rfl]

/-- What is read once the file has taken its place. -/
theorem Ready.publish_ran (ready : Ready directory tree) {place : FilePath}
    (opens : tree.Opens directory place)
    (file : tree.entry? (place ++ [temporaryName key]) = some (.file text.toUTF8))
    (ran : WriteStep.run directory key text tree .publish = (.ok (), after)) :
    (get directory key after).1 = .ok (CacheRecord.decode text) ∧
      ∀ wanted, Sha256.hexDigest wanted ≠ Sha256.hexDigest key →
        (get directory wanted after).1 = (get directory wanted tree).1 := by
  obtain ⟨start, steps, origin⟩ := ready.origin
  unfold WriteStep.run at ran
  have result := outcome_eq_ok ran
  rw [temporaryPath_eq] at result
  rcases rename_join_cases ready.wellFormed (plain_temporaryName key) (plain_recordName key)
      (recordName_ne_temporaryName key key) origin with
    ⟨fault, failed⟩ | ⟨goal, content, other, opened, found, renamed, wellFormed, keeps, changed⟩
  · rw [recordPath, failed] at result
    cases result
  · rw [recordPath, renamed] at result
    cases result
    -- the file that takes its place is the one that was written
    cases opened.unique opens
    rw [file] at found
    cases found
    constructor
    · rw [get_of_text wellFormed (keeps.opens opens) (by rw [changed, if_pos rfl])]
    · intro wanted different
      apply get_congr
      apply readText_join_congr ready.wellFormed wellFormed opens keeps (plain_recordName wanted)
      have otherRecord : recordName wanted ≠ recordName key :=
        fun same => different (hexDigest_of_recordName same)
      rw [changed, if_neg (by simpa using otherRecord),
        if_neg (by simpa using recordName_ne_temporaryName wanted key)]

/-- The file takes its place, or nothing is changed. -/
theorem eq_of_halted_publish (halted : Halted directory key text [.publish] tree after) :
    after = tree := by
  cases halted with
  | here cut =>
      cases cut
      rfl
  | later _ halted => cases halted

theorem Ready.writeTemporary_halted (ready : Ready directory tree)
    (halted : Halted directory key text [.writeTemporary, .publish] tree after) :
    ReadAlike directory tree after := by
  cases halted with
  | here cut =>
      cases cut with
      | unbegun => exact fun _ => rfl
      | bytes first => exact ready.written key _
  | later ran halted =>
      obtain ⟨⟨_, alike⟩, _⟩ := ready.writeTemporary_ran ran
      rw [eq_of_halted_publish halted]
      exact alike

/-- Nothing is seen of what is stored before the file takes its place. -/
theorem readAlike_of_halted (wellFormed : tree.WellFormed) (rooted : tree.Rooted)
    (direct : tree.Direct directory)
    (halted : Halted directory key text [.makeDirectory, .writeTemporary, .publish] tree after) :
    ReadAlike directory tree after := by
  cases halted with
  | here cut =>
      cases cut with
      | unbegun => exact fun _ => rfl
      | directories started first => exact readAlike_made wellFormed rooted direct started first
  | later ran halted =>
      obtain ⟨ready, alike⟩ := makeDirectory_ran wellFormed rooted direct ran
      exact alike.trans (ready.writeTemporary_halted halted)

/-- Where all steps are done, the key is read as what was stored, and the others as before. -/
theorem get_of_runSteps (wellFormed : tree.WellFormed) (rooted : tree.Rooted)
    (direct : tree.Direct directory)
    (ran : runSteps directory key text [.makeDirectory, .writeTemporary, .publish] tree =
      (.ok (), after)) :
    (get directory key after).1 = .ok (CacheRecord.decode text) ∧
      ∀ wanted, Sha256.hexDigest wanted ≠ Sha256.hexDigest key →
        (get directory wanted after).1 = (get directory wanted tree).1 := by
  obtain ⟨made, directoryMade, ran⟩ := runSteps_cons_eq_ok ran
  obtain ⟨written, temporaryWritten, ran⟩ := runSteps_cons_eq_ok ran
  obtain ⟨published, filePublished, ran⟩ := runSteps_cons_eq_ok ran
  cases ran
  obtain ⟨ready, alike⟩ := makeDirectory_ran wellFormed rooted direct directoryMade
  obtain ⟨⟨readyThen, alikeThen⟩, place, opens, file⟩ := ready.writeTemporary_ran temporaryWritten
  obtain ⟨stored, others⟩ := readyThen.publish_ran opens file filePublished
  refine ⟨stored, fun wanted different => ?_⟩
  rw [others wanted different, alikeThen wanted, alike wanted]

/-- Storing a record is seen whole or not at all.  No reader finds a change before the file takes
its place, wherever the steps end, and all of the record and nothing else when it has.  It does so
in a directory that is there, if no other directory stands in its way. -/
theorem set_atomic {record : CacheRecord} (wellFormed : tree.WellFormed) (rooted : tree.Rooted)
    (direct : tree.Direct directory) :
    (∀ after, Halted directory key record.encode [.makeDirectory, .writeTemporary, .publish]
        tree after → ReadAlike directory tree after) ∧
      (∀ error after, set directory key record tree = (.error error, after) →
        ReadAlike directory tree after) ∧
      (∀ after, set directory key record tree = (.ok (), after) →
        (get directory key after).1 = .ok (CacheRecord.decode record.encode) ∧
          ∀ wanted, Sha256.hexDigest wanted ≠ Sha256.hexDigest key →
            (get directory wanted after).1 = (get directory wanted tree).1) ∧
      ∀ place, tree.locate directory = .ok (place, some .directory) →
        tree.entry? (place ++ [temporaryName key]) ≠ some .directory →
        tree.entry? (place ++ [recordName key]) ≠ some .directory →
        ∃ after, set directory key record tree = (.ok (), after) := by
  refine ⟨fun after halted => ?_, fun error after failed => ?_, fun after done => ?_,
    fun place located freeBeside free => ?_⟩
  · exact readAlike_of_halted wellFormed rooted direct halted
  · exact readAlike_of_halted wellFormed rooted direct (halted_of_runSteps failed)
  · exact get_of_runSteps wellFormed rooted direct done
  · obtain ⟨after, published, _⟩ :=
      publish_free wellFormed (opens_of_located located) freeBeside free record.encode
    exact ⟨after, by rw [set_of_opens (opens_of_located located), published]⟩

def welcome : CacheRecord :=
  .stamped 1760000000000

theorem decode_encode_welcome : CacheRecord.decode welcome.encode = some welcome :=
  CacheRecord.decode_encode_stamped _

/-- A directory that is still to be made, the first record in it, and the program ended when nothing
of the record has been written yet. -/
theorem set_atomic_welcome :
    note.WellFormed ∧ note.Rooted ∧ note.Direct "data/cache" ∧
      (∃ after, Halted "data/cache" "tr" welcome.encode
        [.makeDirectory, .writeTemporary, .publish] note after ∧
          ReadAlike "data/cache" note after) ∧
      ∃ after, set "data/cache" "tr" welcome note = (.ok (), after) ∧
        (get "data/cache" "tr" after).1 = .ok (some welcome) := by
  have rooted : note.Rooted := rooted_of_keys (by simp [note, Keyed.keys, entry?])
  have started : note.start "data/cache" = .ok ([], ["data", "cache"]) := rfl
  have direct : note.Direct "data/cache" := direct_of_level started (by decide)
  have named : Named (· = "tr") := fun _ _ isLeft isRight _ => isLeft.trans isRight.symm
  obtain ⟨halted, _, done, _⟩ :=
    @set_atomic "data/cache" "tr" note welcome note_wellFormed rooted direct
  have nothing : ByteArray.empty.data.toList <+: welcome.encode.toUTF8.data.toList :=
    List.nil_prefix
  have cut : Halted "data/cache" "tr" welcome.encode [.makeDirectory, .writeTemporary, .publish]
      note _ :=
    .later rfl (.here (.bytes nothing))
  have stored := ((vacant_note.shows note_wellFormed _).set named rfl welcome).1
  obtain ⟨read, _⟩ := done _ (Prod.ext stored rfl)
  rw [decode_encode_welcome] at read
  exact ⟨note_wellFormed, rooted, direct, ⟨_, cut, halted _ cut⟩, _, Prod.ext stored rfl, read⟩

def detour : FileTree :=
  ⟨"", [], [(["kept"], .directory),
    (["kept", recordName "de"], .file welcome.encode.toUTF8)]⟩

/-- An old record comes to light as soon as the directory is made, before anything is written. -/
theorem set_atomic_detour :
    detour.WellFormed ∧ detour.Rooted ∧
      Halted "new/../kept" "tr" welcome.encode [.makeDirectory, .writeTemporary, .publish] detour
        (detour.put ["new"] .directory) ∧
      (get "new/../kept" "de" detour).1 = .ok none ∧
      (get "new/../kept" "de" (detour.put ["new"] .directory)).1 = .ok (some welcome) := by
  have wellFormed : detour.WellFormed :=
    ⟨.inl rfl, by simp [detour, Keyed.Distinct, Keyed.keys]⟩
  have rooted : detour.Rooted := rooted_of_keys (by simp [detour, Keyed.keys, entry?, Keyed.get?])
  have started : detour.start "new/../kept" = .ok ([], ["new", "..", "kept"]) := rfl
  have missing : detour.Missing "new/../kept" :=
    ⟨_, _, started, .inl (by simp [detour, follow, entry?, Keyed.get?])⟩
  have opens : (detour.put ["new"] .directory).Opens "new/../kept" ["kept"] := by
    refine ⟨_, _, origin_of_start started, ?_⟩
    simp [detour, follow, parent, entry?, put, Keyed.put, Keyed.get?]
  have made : (detour.makeDirectories [] ["new"]).2 = detour.put ["new"] .directory := by
    simp [detour, makeDirectories, entry?, Keyed.get?]
  refine ⟨wellFormed, rooted, .here ?_, ?_, ?_⟩
  · rw [← made]
    exact .directories started (List.prefix_append ["new"] ["..", "kept"])
  · rw [get_of_missing wellFormed missing]
  · have file : entry? (detour.put ["new"] .directory) (["kept"] ++ [recordName "de"]) =
        some (.file welcome.encode.toUTF8) := by
      simp [detour, entry?, put, Keyed.put, Keyed.get?]
    rw [get_of_text (wellFormed.put _ _) opens file, decode_encode_welcome]

end Phrasebook.FileStorage
