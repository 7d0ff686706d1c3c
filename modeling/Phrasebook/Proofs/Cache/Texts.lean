import Phrasebook.Cache.FileStorage
import Phrasebook.Cache.RedisStorage

namespace Phrasebook

attribute [ext] Storage

structure TextStorage (σ : Type) where
  read : String → σ → Except Error (Option String) × σ
  write : String → String → σ → Except Error Unit × σ
  remove : String → σ → Except Error Unit × σ
  clear : σ → Except Error Unit × σ

namespace TextStorage

def records (texts : TextStorage σ) : Storage σ where
  get key state :=
    match texts.read key state with
    | (.ok text, state) => (.ok (text.bind CacheRecord.decode), state)
    | (.error error, state) => (.error error, state)
  set key record := texts.write key record.encode
  remove := texts.remove
  clear := texts.clear

/-- The storage as if every text that cannot be read, or is no record, were missing. -/
def legible (texts : TextStorage σ) : TextStorage σ where
  read key state :=
    match texts.read key state with
    | (.ok text, state) => (.ok (text.filter fun text => (CacheRecord.decode text).isSome), state)
    | (.error _, state) => (.ok none, state)
  write := texts.write
  remove := texts.remove
  clear := texts.clear

def memory : TextStorage Storage.Table where
  read key table := (.ok (Keyed.get? key table), table)
  write key text table := (.ok (), Keyed.put key text table)
  remove key table := (.ok (), Keyed.erase key table)
  clear _ := (.ok (), [])

theorem records_memory : memory.records = Storage.memory := rfl

def files (directory : String) : TextStorage FileTree where
  read key tree :=
    match tree.readText (FileStorage.recordPath directory key) with
    | .ok text => (.ok (some text), tree)
    | .error .notFound => (.ok none, tree)
    | .error reason =>
        (.error (FileStorage.fault "read" (FileStorage.recordPath directory key) reason), tree)
  write key text tree :=
    FileStorage.runSteps directory key text [.makeDirectory, .writeTemporary, .publish] tree
  remove := FileStorage.remove directory
  clear := FileStorage.clear directory

theorem records_files (directory : String) :
    (files directory).records = Storage.files directory := by
  apply Storage.ext
  case get =>
    funext key tree
    simp only [records, files, Storage.files, FileStorage.get]
    cases tree.readText (FileStorage.recordPath directory key) with
    | ok text => rfl
    | error reason => cases reason <;> rfl
  case set =>
    simp only [records, files, Storage.files]
    rfl
  case remove => simp only [records, files, Storage.files]
  case clear => simp only [records, files, Storage.files]

def redis (server : RedisConnection σ) (lead : String) : TextStorage σ where
  read key state :=
    RedisStorage.outcome "get" (server.get (RedisStorage.serverKey lead key) state)
  write key text state :=
    RedisStorage.outcome "set" (server.set (RedisStorage.serverKey lead key) text state)
  remove key state :=
    RedisStorage.outcome "del" (server.del [RedisStorage.serverKey lead key] state)
  clear := RedisStorage.clear server lead

theorem records_redis (server : RedisConnection σ) (lead : String) :
    (redis server lead).records = Storage.redis server lead := rfl

end TextStorage

end Phrasebook
