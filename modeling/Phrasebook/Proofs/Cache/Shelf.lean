import Phrasebook.Cache.Storage
import Phrasebook.Proofs.Keyed

namespace Phrasebook

/-! Storages that keep texts in different ways are compared with a map from keys to texts, by what
they answer to calls, one after another. -/

/-- What is kept under each key. -/
abbrev Shelf := String → Option String

namespace Storage

/-- A storage that is nothing but a map. -/
def shelf : Storage Shelf where
  get key texts := (.ok ((texts key).bind CacheRecord.decode), texts)
  set key record texts :=
    (.ok (), fun other => if other = key then some record.encode else texts other)
  remove key texts := (.ok (), fun other => if other = key then none else texts other)
  clear _ := (.ok (), fun _ => none)

/-- A map that stays as it is when it is to be cleared. -/
def keepingShelf : Storage Shelf :=
  { shelf with clear := fun texts => (.ok (), texts) }

inductive Call where
  | get (key : String)
  | set (key : String) (record : CacheRecord)
  | remove (key : String)
  | clear

inductive Answer where
  | found (result : Except Error (Option CacheRecord))
  | done (result : Except Error Unit)

def Call.key? : Call → Option String
  | .get key => some key
  | .set key _ => some key
  | .remove key => some key
  | .clear => none

def keysOf (calls : List Call) : List String :=
  calls.filterMap Call.key?

def perform (storage : Storage σ) (state : σ) : Call → Answer × σ
  | .get key => (.found (storage.get key state).1, (storage.get key state).2)
  | .set key record => (.done (storage.set key record state).1, (storage.set key record state).2)
  | .remove key => (.done (storage.remove key state).1, (storage.remove key state).2)
  | .clear => (.done (storage.clear state).1, (storage.clear state).2)

def performAll (storage : Storage σ) : List Call → σ → List Answer × σ
  | [], state => ([], state)
  | call :: calls, state =>
      let (answer, state) := storage.perform state call
      let (answers, state) := storage.performAll calls state
      (answer :: answers, state)

/-- A storage does for some keys what a map does.  `shows` tells which map a state is like. -/
structure Mirrors (storage : Storage σ) (model : Storage Shelf) (keys : String → Prop)
    (shows : Shelf → σ → Prop) : Prop where
  get : ∀ {texts state key}, shows texts state → keys key →
    (storage.get key state).1 = (model.get key texts).1 ∧
      shows (model.get key texts).2 (storage.get key state).2
  set : ∀ {texts state key}, shows texts state → keys key → ∀ record,
    (storage.set key record state).1 = (model.set key record texts).1 ∧
      shows (model.set key record texts).2 (storage.set key record state).2
  remove : ∀ {texts state key}, shows texts state → keys key →
    (storage.remove key state).1 = (model.remove key texts).1 ∧
      shows (model.remove key texts).2 (storage.remove key state).2
  clear : ∀ {texts state}, shows texts state →
    (storage.clear state).1 = (model.clear texts).1 ∧
      shows (model.clear texts).2 (storage.clear state).2

namespace Mirrors

variable {storage : Storage σ} {model : Storage Shelf} {keys : String → Prop}
  {shows : Shelf → σ → Prop} {texts : Shelf} {state : σ}

theorem perform (mirrors : storage.Mirrors model keys shows) (shown : shows texts state)
    (call : Call) (known : ∀ key, call.key? = some key → keys key) :
    (storage.perform state call).1 = (model.perform texts call).1 ∧
      shows (model.perform texts call).2 (storage.perform state call).2 := by
  cases call with
  | get key =>
      obtain ⟨answer, shown⟩ := mirrors.get shown (known key rfl)
      exact ⟨congrArg Answer.found answer, shown⟩
  | set key record =>
      obtain ⟨answer, shown⟩ := mirrors.set shown (known key rfl) record
      exact ⟨congrArg Answer.done answer, shown⟩
  | remove key =>
      obtain ⟨answer, shown⟩ := mirrors.remove shown (known key rfl)
      exact ⟨congrArg Answer.done answer, shown⟩
  | clear =>
      obtain ⟨answer, shown⟩ := mirrors.clear shown
      exact ⟨congrArg Answer.done answer, shown⟩

/-- The same answers to all calls, and a state that is still like the map. -/
theorem performAll (mirrors : storage.Mirrors model keys shows) (shown : shows texts state)
    (calls : List Call) (known : ∀ key ∈ keysOf calls, keys key) :
    (storage.performAll calls state).1 = (model.performAll calls texts).1 ∧
      shows (model.performAll calls texts).2 (storage.performAll calls state).2 := by
  induction calls generalizing texts state with
  | nil => exact ⟨rfl, shown⟩
  | cons call calls ih =>
      have knownFirst : ∀ key, call.key? = some key → keys key := fun key isKey =>
        known key (by simp [keysOf, isKey])
      have knownRest : ∀ key ∈ keysOf calls, keys key := fun key member =>
        known key (by
          rw [keysOf, List.filterMap_cons]
          split
          · exact member
          · exact List.mem_cons_of_mem _ member)
      obtain ⟨answer, shown⟩ := mirrors.perform shown call knownFirst
      obtain ⟨answers, shown⟩ := ih shown knownRest
      exact ⟨congr (congrArg List.cons answer) answers, shown⟩

end Mirrors

theorem memory_mirrors :
    memory.Mirrors shelf (fun _ => True)
      fun texts table => ∀ key, Keyed.get? key table = texts key where
  get := by
    intro texts table key shown _
    refine ⟨?_, shown⟩
    show _ = Except.ok ((texts key).bind CacheRecord.decode)
    rw [← shown key]
    rfl
  set := by
    intro texts table key shown _ record
    refine ⟨rfl, fun other => ?_⟩
    simp only [memory, shelf, Keyed.get?_put, shown other]
  remove := by
    intro texts table key shown _
    refine ⟨rfl, fun other => ?_⟩
    simp only [memory, shelf, Keyed.get?_erase, shown other]
  clear _ := ⟨rfl, fun _ => rfl⟩

end Storage

end Phrasebook
