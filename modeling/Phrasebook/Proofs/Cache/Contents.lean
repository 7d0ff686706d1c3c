import Phrasebook.Proofs.Cache.Backends

namespace Phrasebook

namespace CacheRecord

variable {text : String} {record : CacheRecord} {messages timestamp : Json}

/-- The values of the two fields of a record. -/
structure Gives (messages timestamp : Json) (record : CacheRecord) : Prop where
  messages : Dictionary.ofJson messages = .ok record.messages
  timestamp : timestamp = .integer record.timestamp.toInt

/-- A record is told by an object that has each of the two fields once among any others, in either
order, and by an array of the two values. -/
inductive Tells (text : String) (record : CacheRecord) : Prop where
  | object {rest fields messages timestamp}
      (opened : Json.skipSpace text.toList = '\x7b' :: rest)
      (read : whole (Json.readContainer '\x7d' readField) rest = some fields)
      (own : fields.filterMap id = [(messagesField, messages), (timestampField, timestamp)] ∨
        fields.filterMap id = [(timestampField, timestamp), (messagesField, messages)])
      (gives : Gives messages timestamp record) : Tells text record
  | array {rest messages timestamp}
      (opened : Json.skipSpace text.toList = '[' :: rest)
      (read : whole (Json.readContainer ']' (Json.readValue maxInnerLevels)) rest =
        some [messages, timestamp])
      (gives : Gives messages timestamp record) : Tells text record

theorem timestamp?_eq_some_iff {value : Json} {timestamp : Int64} :
    timestamp? value = some timestamp ↔ value = .integer timestamp.toInt := by
  constructor
  · intro isTime
    unfold timestamp? at isTime
    split at isTime
    · next value =>
        split at isTime
        · next bounds =>
            cases isTime
            rw [Int64.toInt_ofInt_of_le bounds.1 (Int.lt_of_le_of_lt bounds.2 (by decide))]
        · contradiction
    · contradiction
  · rintro rfl
    exact timestamp?_toInt timestamp

theorem ofValues_eq_some_iff :
    ofValues messages timestamp = some record ↔ Gives messages timestamp record := by
  unfold ofValues
  constructor
  · intro isRecord
    split at isRecord
    · next isMessages isTime =>
        cases isRecord
        exact ⟨isMessages, timestamp?_eq_some_iff.mp isTime⟩
    · contradiction
  · rintro ⟨isMessages, isTime⟩
    rw [isMessages, timestamp?_eq_some_iff.mpr isTime]

theorem ofFields_eq_some_iff {fields : List (String × Json)} :
    ofFields fields = some record ↔ ∃ messages timestamp,
      (fields = [(messagesField, messages), (timestampField, timestamp)] ∨
        fields = [(timestampField, timestamp), (messagesField, messages)]) ∧
      Gives messages timestamp record := by
  constructor
  · intro isRecord
    unfold ofFields at isRecord
    split at isRecord
    · next first left second right =>
        split at isRecord
        · next inOrder =>
            obtain ⟨rfl, rfl⟩ := inOrder
            exact ⟨left, right, .inl rfl, ofValues_eq_some_iff.mp isRecord⟩
        · split at isRecord
          · next swapped =>
              obtain ⟨rfl, rfl⟩ := swapped
              exact ⟨right, left, .inr rfl, ofValues_eq_some_iff.mp isRecord⟩
          · contradiction
    · contradiction
  · rintro ⟨messages, timestamp, rfl | rfl, gives⟩
    · exact ofValues_eq_some_iff.mpr gives
    · exact ofValues_eq_some_iff.mpr gives

theorem decode_eq_some_iff : decode text = some record ↔ Tells text record := by
  unfold decode
  constructor
  · intro isRecord
    split at isRecord
    · next rest opened =>
        obtain ⟨fields, read, isRecord⟩ := Option.bind_eq_some_iff.mp isRecord
        obtain ⟨messages, timestamp, own, gives⟩ := ofFields_eq_some_iff.mp isRecord
        exact .object opened read own gives
    · next rest opened =>
        split at isRecord
        · next messages timestamp read =>
            exact .array opened read (ofValues_eq_some_iff.mp isRecord)
        · contradiction
    · contradiction
  · intro tells
    cases tells with
    | object opened read own gives =>
        simp only [opened, read, Option.bind_some]
        exact ofFields_eq_some_iff.mpr ⟨_, _, own, gives⟩
    | array opened read gives =>
        simp only [opened, read]
        exact ofValues_eq_some_iff.mpr gives

/-- The record that bytes tell, if they are a text at all. -/
def ofBytes (content : ByteArray) : Option CacheRecord :=
  (String.fromUTF8? content).bind decode

theorem ofBytes_toUTF8 (text : String) : ofBytes text.toUTF8 = decode text := by
  have valid : text.toUTF8.IsValidUTF8 := text.isValidUTF8
  rw [ofBytes, String.fromUTF8?, dif_pos valid]
  rfl

theorem ofBytes_eq_some_iff {content : ByteArray} :
    ofBytes content = some record ↔ ∃ text : String, content = text.toUTF8 ∧ Tells text record := by
  constructor
  · intro isRecord
    obtain ⟨text, isText, isRecord⟩ := Option.bind_eq_some_iff.mp isRecord
    refine ⟨text, ?_, decode_eq_some_iff.mp isRecord⟩
    unfold String.fromUTF8? at isText
    split at isText
    · cases isText
      rfl
    · contradiction
  · rintro ⟨text, rfl, tells⟩
    rw [ofBytes_toUTF8, decode_eq_some_iff.mpr tells]

end CacheRecord

namespace Storage

open CacheRecord FileTree

variable {σ : Type} {directory lead key text : String}

theorem get_memory {table : Table} (stored : Keyed.get? key table = some text) :
    (memory.get key table).1 = .ok (decode text) := by
  simp only [memory, stored, Option.bind_some]

theorem get_redis {server : RedisConnection σ} {state : σ}
    (stored : (server.get (RedisStorage.serverKey lead key) state).1 = .ok (some text)) :
    ((redis server lead).get key state).1 = .ok (decode text) := by
  simp only [redis, RedisStorage.get, RedisStorage.outcome_of_ok stored, Option.bind_some]

variable {tree : FileTree} {place : FilePath} {content : ByteArray}

theorem get_files (wellFormed : tree.WellFormed) (opens : tree.Opens directory place)
    (file : tree.entry? (place ++ [FileStorage.recordName key]) = some (.file content))
    (valid : content.IsValidUTF8) :
    ((files directory).get key tree).1 = .ok (ofBytes content) := by
  obtain ⟨text, rfl⟩ : ∃ text : String, content = text.toUTF8 :=
    ⟨String.fromUTF8 content valid, rfl⟩
  rw [ofBytes_toUTF8]
  exact congrArg Prod.fst (FileStorage.get_of_text wellFormed opens file)

theorem get_files_invalid (wellFormed : tree.WellFormed) (opens : tree.Opens directory place)
    (file : tree.entry? (place ++ [FileStorage.recordName key]) = some (.file content))
    (invalid : ¬ content.IsValidUTF8) :
    ((files directory).get key tree).1 =
      .error (FileStorage.fault "read" (FileStorage.recordPath directory key) .invalidText) :=
  congrArg Prod.fst (FileStorage.get_of_invalid wellFormed opens file invalid)

/-- What is stored under a key and is no record is read as nothing, by every storage.  Only bytes
that are no text, which a file can hold, are a failure. -/
theorem get_stored :
    (∀ (table : Table) (key text : String), Keyed.get? key table = some text →
      (memory.get key table).1 = .ok (decode text)) ∧
    (∀ (server : RedisConnection σ) (lead key text : String) (state : σ),
      (server.get (RedisStorage.serverKey lead key) state).1 = .ok (some text) →
      ((redis server lead).get key state).1 = .ok (decode text)) ∧
    (∀ (tree : FileTree) (directory key : String) (place : FilePath) (content : ByteArray),
      tree.WellFormed → tree.Opens directory place →
      tree.entry? (place ++ [FileStorage.recordName key]) = some (.file content) →
      (((files directory).get key tree).1 = .ok (ofBytes content) ↔ content.IsValidUTF8) ∧
      (¬ content.IsValidUTF8 → ((files directory).get key tree).1 =
        .error (FileStorage.fault "read" (FileStorage.recordPath directory key) .invalidText))) ∧
    (∀ (text : String) (record : CacheRecord), decode text = some record ↔ Tells text record) ∧
    ∀ (content : ByteArray) (record : CacheRecord), ofBytes content = some record ↔
      ∃ text : String, content = text.toUTF8 ∧ Tells text record := by
  refine ⟨fun _ _ _ => get_memory, fun _ _ _ _ _ => get_redis,
    fun tree directory key place content wellFormed opens file => ?_,
    fun _ _ => decode_eq_some_iff, fun _ _ => ofBytes_eq_some_iff⟩
  refine ⟨⟨fun isOk => ?_, get_files wellFormed opens file⟩,
    get_files_invalid wellFormed opens file⟩
  refine Classical.byContradiction fun invalid => ?_
  rw [get_files_invalid wellFormed opens file invalid] at isOk
  contradiction

/-- A directory with one file, where the record of a key belongs. -/
def oneFile (content : ByteArray) : FileTree :=
  ⟨"", [], [(["c"], .directory), (["c", FileStorage.recordName "k"], .file content)]⟩

theorem oneFile_wellFormed (content : ByteArray) : (oneFile content).WellFormed :=
  ⟨.inl rfl, by simp [oneFile, Keyed.Distinct, Keyed.keys]⟩

theorem oneFile_opens (content : ByteArray) : (oneFile content).Opens "c" ["c"] :=
  ⟨[], ["c"], rfl, rfl⟩

theorem oneFile_entry (content : ByteArray) :
    entry? (oneFile content) (["c"] ++ [FileStorage.recordName "k"]) = some (.file content) := by
  simp [oneFile, entry?, Keyed.get?]

theorem get_oneFile (text : String) :
    ((files "c").get "k" (oneFile text.toUTF8)).1 = .ok (decode text) := by
  have valid : text.toUTF8.IsValidUTF8 := text.isValidUTF8
  rw [get_files (oneFile_wellFormed _) (oneFile_opens _) (oneFile_entry _) valid, ofBytes_toUTF8]

/-- A text that is no record, and the text of one, in each of the storages. -/
theorem get_stored_corrupted :
    Keyed.get? "k" [("k", "\x7b\x7d")] = some "\x7b\x7d" ∧
      (memory.get "k" [("k", "\x7b\x7d")]).1 = .ok none ∧
      ((redis .table "tercume").get "k" [("tercume:k", "\x7b\x7d")]).1 = .ok none ∧
      ((files "c").get "k" (oneFile "\x7b\x7d".toUTF8)).1 = .ok none ∧
      ((files "c").get "k" (oneFile (stamped 0).encode.toUTF8)).1 = .ok (some (stamped 0)) := by
  obtain ⟨inMemory, onServer, inFiles, _, _⟩ := @get_stored Table
  have corrupted : decode "\x7b\x7d" = none := rfl
  have readFile : ∀ text : String,
      ((files "c").get "k" (oneFile text.toUTF8)).1 = .ok (decode text) := by
    intro text
    have read := inFiles _ "c" "k" _ text.toUTF8 (oneFile_wellFormed _) (oneFile_opens _)
      (oneFile_entry _)
    rw [read.1.mpr text.isValidUTF8, ofBytes_toUTF8]
  refine ⟨rfl, ?_, ?_, ?_, ?_⟩
  · rw [inMemory _ "k" _ rfl, corrupted]
  · rw [onServer _ "tercume" "k" _ _ rfl, corrupted]
  · rw [readFile, corrupted]
  · rw [readFile, decode_encode_stamped]

/-- A byte with which no character of a text starts, and the text with which the deepest dictionary
that can be read is stored. -/
theorem get_stored_garbled :
    ((files "c").get "k" (oneFile ⟨#[255]⟩)).1 =
        .error (FileStorage.fault "read" (FileStorage.recordPath "c" "k") .invalidText) ∧
      (∀ found, ((files "c").get "k" (oneFile ⟨#[255]⟩)).1 ≠ .ok found) ∧
      Dictionary.read deepest.toJson.render = .ok deepest ∧
      (memory.get "k" [("k", encode ⟨deepest, 0⟩)]).1 = .ok none ∧
      ((files "c").get "k" (oneFile (encode ⟨deepest, 0⟩).toUTF8)).1 = .ok none := by
  have invalid : ¬ (ByteArray.mk #[255]).IsValidUTF8 := by decide
  have failed :=
    get_files_invalid (oneFile_wellFormed _) (oneFile_opens _) (oneFile_entry _) invalid
  refine ⟨failed, fun found isOk => ?_, read_deepest, ?_, ?_⟩
  · rw [failed] at isOk
    contradiction
  · rw [@get_memory "k" _ _ rfl, decode_deepest]
  · rw [get_oneFile, decode_deepest]

end Storage

end Phrasebook
