import Phrasebook.Cache.Storage

namespace Phrasebook

structure RedisConnection (σ : Type) where
  ping : σ → Except String Unit × σ
  get : String → σ → Except String (Option String) × σ
  set : String → String → σ → Except String Unit × σ
  del : List String → σ → Except String Unit × σ
  keys : String → σ → Except String (List String) × σ

namespace RedisStorage

def defaultPrefix : String := "tercume"

def serverKey (lead key : String) : String :=
  lead ++ ":" ++ key

def pattern (lead : String) : String :=
  lead ++ ":*"

def outcome (operation : String) : Except String α × σ → Except Error α × σ
  | (.ok value, state) => (.ok value, state)
  | (.error reason, state) => (.error (.storage operation reason), state)

def get (server : RedisConnection σ) (lead key : String) (state : σ) :
    Except Error (Option CacheRecord) × σ :=
  match outcome "get" (server.get (serverKey lead key) state) with
  | (.ok text, state) => (.ok (text.bind CacheRecord.decode), state)
  | (.error error, state) => (.error error, state)

def clear (server : RedisConnection σ) (lead : String) (state : σ) : Except Error Unit × σ :=
  match outcome "scan keys" (server.keys (pattern lead) state) with
  | (.ok [], state) => (.ok (), state)
  | (.ok keys, state) => outcome "del" (server.del keys state)
  | (.error error, state) => (.error error, state)

/-- The server of a connection, which may have failed for a reason.  It has to answer. -/
def connected (connection : Except String (RedisConnection σ)) (state : σ) :
    Except Error (RedisConnection σ) × σ :=
  match connection with
  | .error reason => (.error (.storage "connect" reason), state)
  | .ok server =>
      match outcome "ping" (server.ping state) with
      | (.ok (), state) => (.ok server, state)
      | (.error error, state) => (.error error, state)

end RedisStorage

namespace Storage

def redis (server : RedisConnection σ) (lead : String) : Storage σ where
  get := RedisStorage.get server lead
  set key record state :=
    RedisStorage.outcome "set" (server.set (RedisStorage.serverKey lead key) record.encode state)
  remove key state :=
    RedisStorage.outcome "del" (server.del [RedisStorage.serverKey lead key] state)
  clear := RedisStorage.clear server lead

end Storage

namespace RedisConnection

/-- A key matches a pattern that ends in an asterisk if it starts with what stands before it, and
any other pattern only if it is equal. -/
def isMatch (pattern key : String) : Bool :=
  match pattern.toList.reverse with
  | '*' :: lead => lead.reverse.isPrefixOf key.toList
  | _ => pattern = key

def table : RedisConnection Storage.Table where
  ping entries := (.ok (), entries)
  get key entries := (.ok (Keyed.get? key entries), entries)
  set key text entries := (.ok (), Keyed.put key text entries)
  del keys entries := (.ok (), entries.filter fun entry => entry.1 ∉ keys)
  keys pattern entries :=
    (.ok (((Keyed.keys entries).filter (isMatch pattern)).mergeSort
      fun left right => decide (left ≤ right)), entries)

end RedisConnection

end Phrasebook
