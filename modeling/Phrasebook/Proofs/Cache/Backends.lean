import Phrasebook.Cache.RedisStorage
import Phrasebook.Proofs.Cache.Files

namespace Phrasebook

namespace RedisConnection

/-- The characters that stand for others in a pattern of keys. -/
def isGlob (c : Char) : Bool :=
  c ∈ ['*', '?', '[', '\\']

/-- A server without failures.  `held` tells what it holds. -/
structure Faithful (server : RedisConnection σ) (held : σ → Shelf) : Prop where
  get : ∀ key state, (server.get key state).1 = .ok (held state key) ∧
    held (server.get key state).2 = held state
  set : ∀ key text state, (server.set key text state).1 = .ok () ∧
    ∀ other, held (server.set key text state).2 other =
      if other = key then some text else held state other
  del : ∀ keys state, keys ≠ [] → (server.del keys state).1 = .ok () ∧
    ∀ other, held (server.del keys state).2 other =
      if other ∈ keys then none else held state other
  /-- A pattern that ends in an asterisk finds the keys that start with what stands before it. -/
  keys : ∀ lead state, (∀ c ∈ lead.toList, isGlob c = false) →
    (∃ found, (server.keys (lead ++ "*") state).1 = .ok found ∧
      ∀ key, key ∈ found ↔ held state key ≠ none ∧ lead.toList <+: key.toList) ∧
    held (server.keys (lead ++ "*") state).2 = held state

theorem table_faithful : table.Faithful fun entries key => Keyed.get? key entries where
  get key entries := ⟨rfl, rfl⟩
  set key text entries := ⟨rfl, fun other => Keyed.get?_put key other text entries⟩
  del keys entries _ := by
    refine ⟨rfl, fun other => ?_⟩
    show Keyed.get? other (entries.filter fun entry => entry.1 ∉ keys) = _
    induction entries with
    | nil => simp [Keyed.get?]
    | cons entry entries ih =>
        by_cases removed : entry.1 ∈ keys
        · rw [List.filter_cons_of_neg (by simp [removed]), ih]
          by_cases here : entry.1 = other
          · rw [if_pos (here ▸ removed), if_pos (here ▸ removed)]
          · simp [Keyed.get?, here]
        · rw [List.filter_cons_of_pos (by simp [removed])]
          by_cases here : entry.1 = other
          · simp only [Keyed.get?, if_pos here, if_neg (here ▸ removed)]
          · simp only [Keyed.get?, if_neg here, ih]
  keys lead entries _ := by
    refine ⟨⟨_, rfl, fun key => ?_⟩, rfl⟩
    have isMatch : RedisConnection.isMatch (lead ++ "*") key =
        lead.toList.isPrefixOf key.toList := by
      simp [RedisConnection.isMatch]
    rw [(List.mergeSort_perm _ _).mem_iff, List.mem_filter, isMatch, List.isPrefixOf_iff_prefix,
      Ne, Keyed.get?_eq_none_iff, Decidable.not_not]

end RedisConnection

namespace RedisStorage

variable {σ : Type} {server : RedisConnection σ} {held : σ → Shelf} {lead : String}

/-- A key of the server that is none of the storage's. -/
def Foreign (lead key : String) : Prop :=
  ¬ (lead ++ ":").toList <+: key.toList

theorem serverKey_injective {left right : String}
    (same : serverKey lead left = serverKey lead right) : left = right := by
  simpa [serverKey, ← String.toList_inj] using same

theorem lead_prefix_serverKey (lead key : String) :
    (lead ++ ":").toList <+: (serverKey lead key).toList :=
  ⟨key.toList, by simp [serverKey]⟩

theorem foreign_iff {key : String} : Foreign lead key ↔ ∀ own, key ≠ serverKey lead own := by
  constructor
  · rintro foreign own rfl
    exact foreign (lead_prefix_serverKey lead own)
  · rintro other ⟨rest, same⟩
    exact other (String.ofList rest) (String.toList_inj.mp (by simp [serverKey, ← same]))

/-- The storage's keys hold what a map holds, and all others what they held first. -/
def Shows (held : σ → Shelf) (lead : String) (first : σ) (texts : Shelf) (state : σ) : Prop :=
  (∀ key, held state (serverKey lead key) = texts key) ∧
    ∀ key, Foreign lead key → held state key = held first key

variable {first state after : σ} {texts : Shelf}

theorem Shows.changed (shown : Shows held lead first texts state) {key : String}
    {text : Option String}
    (changed : ∀ other, held after other =
      if other = serverKey lead key then text else held state other) :
    Shows held lead first (fun other => if other = key then text else texts other) after := by
  obtain ⟨own, foreign⟩ := shown
  refine ⟨fun wanted => ?_, fun other isForeign => ?_⟩
  · rw [changed, own]
    by_cases same : wanted = key
    · simp only [same, if_true]
    · simp only [same, mt serverKey_injective same, if_false]
  · rw [changed, if_neg (foreign_iff.mp isForeign key), foreign other isForeign]

/-- The keys that are found and removed are all that the storage has, and no others. -/
theorem Shows.emptied (shown : Shows held lead first texts state) {found : List String}
    (isFound : ∀ key, key ∈ found ↔ held state key ≠ none ∧ (lead ++ ":").toList <+: key.toList)
    (removed : ∀ other, held after other = if other ∈ found then none else held state other) :
    Shows held lead first (fun _ => none) after := by
  refine ⟨fun key => ?_, fun other isForeign => ?_⟩
  · rw [removed]
    split
    · rfl
    · next absent =>
        rw [isFound, and_iff_left (lead_prefix_serverKey lead key)] at absent
        exact Decidable.not_not.mp absent
  · have absent : other ∉ found := fun member => isForeign ((isFound other).mp member).2
    rw [removed, if_neg absent, shown.2 other isForeign]

theorem outcome_of_ok {α : Type} {operation : String} {result : Except String α × σ} {value : α}
    (isOk : result.1 = .ok value) : outcome operation result = (.ok value, result.2) := by
  obtain ⟨answer, state⟩ := result
  cases isOk
  rfl

theorem pattern_eq (lead : String) : pattern lead = lead ++ ":" ++ "*" := by
  rw [pattern, String.append_assoc]
  rfl

theorem isGlob_of_mem_lead (plain : ∀ c ∈ lead.toList, RedisConnection.isGlob c = false) :
    ∀ c ∈ (lead ++ ":").toList, RedisConnection.isGlob c = false := by
  intro c member
  rw [String.toList_append, List.mem_append] at member
  rcases member with member | colon
  · exact plain c member
  · cases List.mem_singleton.mp colon
    rfl

theorem mirrors (faithful : server.Faithful held)
    (plain : ∀ c ∈ lead.toList, RedisConnection.isGlob c = false) (first : σ) :
    (Storage.redis server lead).Mirrors Storage.shelf (fun _ => True) (Shows held lead first) where
  get := by
    intro texts state key shown _
    obtain ⟨answer, kept⟩ := faithful.get (serverKey lead key) state
    simp only [Storage.redis, get, outcome_of_ok answer, shown.1 key]
    exact ⟨rfl, by simpa only [Shows, Storage.shelf, kept] using shown⟩
  set := by
    intro texts state key shown _ record
    obtain ⟨answer, changed⟩ := faithful.set (serverKey lead key) record.encode state
    simp only [Storage.redis, outcome_of_ok answer]
    exact ⟨rfl, shown.changed changed⟩
  remove := by
    intro texts state key shown _
    obtain ⟨answer, changed⟩ := faithful.del [serverKey lead key] state (List.cons_ne_nil _ _)
    simp only [Storage.redis, outcome_of_ok answer]
    exact ⟨rfl, shown.changed (by simpa only [List.mem_singleton] using changed)⟩
  clear := by
    intro texts state shown
    obtain ⟨⟨found, answer, isFound⟩, kept⟩ :=
      faithful.keys (lead ++ ":") state (isGlob_of_mem_lead plain)
    rw [← pattern_eq] at answer kept
    simp only [Storage.redis, clear, outcome_of_ok answer]
    -- nothing is asked of the server where there is nothing to remove
    cases found with
    | nil => exact ⟨rfl, shown.emptied isFound fun other => by simp [kept]⟩
    | cons name names =>
        obtain ⟨removed, changed⟩ :=
          faithful.del (name :: names) (server.keys (pattern lead) state).2 (List.cons_ne_nil _ _)
        simp only [outcome_of_ok removed]
        exact ⟨rfl, shown.emptied isFound fun other => by rw [changed, kept]⟩

end RedisStorage

namespace Storage

variable {σ : Type} {server : RedisConnection σ} {held : σ → Shelf} {lead directory : String}
  {tree : FileTree}

/-- All storages start empty, and answer to all calls what a map answers.  Of the directories, the
one with the empty path is not cleared.  A server may hold other keys: they are not changed, and
nothing depends on them. -/
theorem performAll_shelf (faithful : server.Faithful held)
    (plain : ∀ c ∈ lead.toList, RedisConnection.isGlob c = false) (wellFormed : tree.WellFormed)
    (vacant : FileStorage.Vacant directory tree) {calls : List Call}
    (named : FileStorage.Named (· ∈ keysOf calls)) :
    (memory.performAll calls []).1 = (shelf.performAll calls fun _ => none).1 ∧
    (directory ≠ "" →
      ((files directory).performAll calls tree).1 = (shelf.performAll calls fun _ => none).1) ∧
    (directory = "" →
      ((files directory).performAll calls tree).1 =
        (keepingShelf.performAll calls fun _ => none).1) ∧
    (∀ start, (∀ key, held start (RedisStorage.serverKey lead key) = none) →
      ((redis server lead).performAll calls start).1 = (shelf.performAll calls fun _ => none).1) ∧
    (∀ start,
      ((redis server lead).performAll calls start).1 =
        (shelf.performAll calls fun key => held start (RedisStorage.serverKey lead key)).1 ∧
      ∀ key, RedisStorage.Foreign lead key →
        held ((redis server lead).performAll calls start).2 key = held start key) := by
  have onServer : ∀ start,
      ((redis server lead).performAll calls start).1 =
        (shelf.performAll calls fun key => held start (RedisStorage.serverKey lead key)).1 ∧
      ∀ key, RedisStorage.Foreign lead key →
        held ((redis server lead).performAll calls start).2 key = held start key := by
    intro start
    have shown : RedisStorage.Shows held lead start
        (fun key => held start (RedisStorage.serverKey lead key)) start :=
      ⟨fun _ => rfl, fun _ _ => rfl⟩
    obtain ⟨answers, _, foreign⟩ :=
      (RedisStorage.mirrors faithful plain start).performAll shown calls fun _ _ => trivial
    exact ⟨answers, foreign⟩
  have shown := vacant.shows wellFormed (· ∈ keysOf calls)
  refine ⟨?_, fun nonempty => ?_, fun isEmpty => ?_, fun start empty => ?_, onServer⟩
  · exact (memory_mirrors.performAll (fun _ => rfl) calls fun _ _ => trivial).1
  · exact ((FileStorage.mirrors named nonempty).performAll shown calls fun _ member => member).1
  · subst isEmpty
    exact ((FileStorage.mirrors_empty named).performAll shown calls fun _ member => member).1
  · rw [(onServer start).1]
    exact congrArg (fun texts => (shelf.performAll calls texts).1) (funext empty)

def greeting : CacheRecord :=
  ⟨Dictionary.empty.insert "hello" (.string "Merhaba"), 0⟩

/-- Two keys, one of which is set, removed and set again before all are cleared. -/
def greetingCalls : List Call :=
  [.clear, .get "tr", .set "tr" greeting, .set "de" greeting, .get "tr", .remove "tr", .get "tr",
    .set "tr" greeting, .clear, .get "de"]

theorem greetingCalls_named : FileStorage.Named (· ∈ keysOf greetingCalls) := by
  have known : ∀ key ∈ keysOf greetingCalls, key = "tr" ∨ key = "de" := by decide
  have different : Sha256.hexDigest "tr" ≠ Sha256.hexDigest "de" := by decide +kernel
  intro left right isLeft isRight same
  rcases known left isLeft with rfl | rfl
  · rcases known right isRight with rfl | rfl
    · rfl
    · exact absurd same different
  · rcases known right isRight with rfl | rfl
    · exact absurd same.symm different
    · rfl

/-- A directory that is still to be made beside a file, and a server with a key of another
storage. -/
theorem performAll_shelf_greeting :
    FileStorage.Vacant "data/cache" FileStorage.note ∧
    (memory.performAll greetingCalls []).1 = (shelf.performAll greetingCalls fun _ => none).1 ∧
    ((files "data/cache").performAll greetingCalls FileStorage.note).1 =
      (shelf.performAll greetingCalls fun _ => none).1 ∧
    ((redis .table "tercume").performAll greetingCalls [("tercumes:de", "kept")]).1 =
      (shelf.performAll greetingCalls fun _ => none).1 ∧
    Keyed.get? "tercumes:de"
      ((redis .table "tercume").performAll greetingCalls [("tercumes:de", "kept")]).2 =
        some "kept" := by
  have plain : ∀ c ∈ "tercume".toList, RedisConnection.isGlob c = false := by
    simp [RedisConnection.isGlob]
  obtain ⟨inMemory, inFiles, _, onServer, elsewhere⟩ :=
    performAll_shelf RedisConnection.table_faithful plain FileStorage.note_wellFormed
      FileStorage.vacant_note greetingCalls_named
  have foreign : RedisStorage.Foreign "tercume" "tercumes:de" := by
    unfold RedisStorage.Foreign
    decide
  refine ⟨FileStorage.vacant_note, inMemory, inFiles (by decide), onServer _ fun key => ?_,
    (elsewhere _).2 _ foreign⟩
  have different : ¬ "tercumes:de" = RedisStorage.serverKey "tercume" key :=
    RedisStorage.foreign_iff.mp foreign key
  simp [Keyed.get?, different]

def bare : FileTree :=
  ⟨"", [], []⟩

def bareCalls : List Call :=
  [.set "tr" greeting, .clear, .get "tr"]

/-- Where the directory has the empty path, a record is still there after all have been removed. -/
theorem performAll_shelf_bare :
    bare.WellFormed ∧ FileStorage.Vacant "" bare ∧
      ((files "").performAll bareCalls bare).1 =
        [.done (.ok ()), .done (.ok ()), .found (.ok (some greeting))] ∧
      (memory.performAll bareCalls []).1 =
        [.done (.ok ()), .done (.ok ()), .found (.ok none)] := by
  have wellFormed : bare.WellFormed := ⟨.inl rfl, by simp [bare, Keyed.Distinct, Keyed.keys]⟩
  have vacant : FileStorage.Vacant "" bare := by
    refine ⟨rfl, [], ⟨[], [], rfl, rfl⟩, fun name record => ?_⟩
    have plain := FileStorage.plain_of_isRecordName record
    show bare.entry? [name] = none
    simp [bare, FileTree.entry?, Keyed.get?, plain.notAbove]
  have named : FileStorage.Named (· ∈ keysOf bareCalls) := by
    intro left right isLeft isRight _
    have known : ∀ key ∈ keysOf bareCalls, key = "tr" := by decide
    rw [known left isLeft, known right isRight]
  have decoded : CacheRecord.decode greeting.encode = some greeting := rfl
  have mirrors := FileStorage.mirrors_empty named
  have answers := (mirrors.performAll (vacant.shows wellFormed _) bareCalls
    fun _ member => member).1
  refine ⟨wellFormed, vacant, ?_, rfl⟩
  rw [answers, ← decoded]
  rfl

end Storage

end Phrasebook
