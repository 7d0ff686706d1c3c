import Phrasebook.Cache.Record

namespace Phrasebook

/-- One part of a larger state. -/
structure Part (σ τ : Type) where
  get : σ → τ
  set : τ → σ → σ

def Part.lift (part : Part σ τ) (action : τ → α × τ) (state : σ) : α × σ :=
  let (answer, inner) := action (part.get state)
  (answer, part.set inner state)

/-- Where cache records are kept.  A text that is no record is no error: `get` finds nothing
there. -/
structure Storage (σ : Type) where
  get : String → σ → Except Error (Option CacheRecord) × σ
  set : String → CacheRecord → σ → Except Error Unit × σ
  remove : String → σ → Except Error Unit × σ
  clear : σ → Except Error Unit × σ

namespace Storage

def inside (part : Part σ τ) (storage : Storage τ) : Storage σ where
  get key := part.lift (storage.get key)
  set key record := part.lift (storage.set key record)
  remove key := part.lift (storage.remove key)
  clear := part.lift storage.clear

abbrev Table := List (String × String)

def memory : Storage Table where
  get key table := (.ok ((Keyed.get? key table).bind CacheRecord.decode), table)
  set key record table := (.ok (), Keyed.put key record.encode table)
  remove key table := (.ok (), Keyed.erase key table)
  clear _ := (.ok (), [])

/-- The storage with the named operations failing for a given reason. -/
def failing (operations : List String) (reason : String) (storage : Storage σ) : Storage σ where
  get key := unlessFailing "get" (storage.get key)
  set key record := unlessFailing "set" (storage.set key record)
  remove key := unlessFailing "remove" (storage.remove key)
  clear := unlessFailing "clear" storage.clear
where
  unlessFailing {α : Type} (operation : String) (action : σ → Except Error α × σ) (state : σ) :
      Except Error α × σ :=
    if operation ∈ operations then (.error (.storage operation reason), state) else action state

end Storage

end Phrasebook
