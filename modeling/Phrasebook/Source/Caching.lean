import Phrasebook.Source.Basic

namespace Phrasebook

/-! A source with an offline cache before it.

A fresh record is served as it is.  Otherwise the inner source is asked, and what it delivers is
stored.  If it fails, a record of any age is served.  A storage that fails never makes a load fail:
what cannot be read counts as missing, and what cannot be stored is delivered all the same.
-/

structure CachingPolicy where
  /-- Records of a lower age are fresh, in milliseconds. -/
  ttl : Nat
  keyLead : String

namespace CachingPolicy

def defaultTtl : Nat := 3600000

def defaultKeyLead : String := "tercume_messages_"

def cacheKey (policy : CachingPolicy) (locale : String) : String :=
  policy.keyLead ++ locale

end CachingPolicy

/-- The state of the inner source, that of the storage, and the locales that were delivered. -/
structure CachingState (ι τ : Type) where
  inner : ι
  storage : τ
  served : List String
  /-- Whether an age was asked for at which a build with checks of overflow has stopped.  All that
  is said of the state from then on is said of builds without them. -/
  overflowed : Bool

namespace CachingSource

variable {ι τ : Type}

def markServed (locale : String) (state : CachingState ι τ) : CachingState ι τ :=
  if locale ∈ state.served then state else { state with served := state.served ++ [locale] }

def noteAge (record : CacheRecord) (now : Int64) (state : CachingState ι τ) : CachingState ι τ :=
  { state with overflowed := state.overflowed || record.overflows now }

def readCached (storage : Storage τ) (key : String) (state : CachingState ι τ) :
    Option CacheRecord × CachingState ι τ :=
  match storage.get key state.storage with
  | (.ok record, inner) => (record, { state with storage := inner })
  | (.error _, inner) => (none, { state with storage := inner })

def persist (storage : Storage τ) (key : String) (record : CacheRecord)
    (state : CachingState ι τ) : CachingState ι τ :=
  { state with storage := (storage.set key record state.storage).2 }

/-- The outcome of a load that had to ask the inner source, from what the source answered and the
record that there was before. -/
def conclude (policy : CachingPolicy) (storage : Storage τ) (locale : String)
    (cached : Option CacheRecord) (now : Int64) (outcome : LoadOutcome)
    (state : CachingState ι τ) : LoadOutcome × CachingState ι τ :=
  match outcome, cached with
  | .ok messages, _ =>
      let state := persist storage (policy.cacheKey locale) ⟨messages, now⟩ state
      (.ok messages, markServed locale state)
  | .error _, some stale => (.ok stale.messages, markServed locale state)
  | .error error, none => (.error error, state)

def loadInner (policy : CachingPolicy) (source : MessageSource ι) (storage : Storage τ)
    (now : Int64) (locale : String) (cached : Option CacheRecord) (state : CachingState ι τ) :
    Progress (CachingState ι τ) × CachingState ι τ :=
  match source.load now locale state.inner with
  | (.settled outcome, inner) =>
      let (outcome, state) :=
        conclude policy storage locale cached now outcome { state with inner }
      (.settled outcome, state)
  | (.awaiting finish, inner) =>
      (.awaiting fun now state =>
        let (outcome, inner) := finish now state.inner
        conclude policy storage locale cached now outcome { state with inner },
      { state with inner })

def load (policy : CachingPolicy) (source : MessageSource ι) (storage : Storage τ) :
    Loader String (CachingState ι τ) :=
  fun now locale state =>
    match readCached storage (policy.cacheKey locale) state with
    | (some record, state) =>
        let state := noteAge record now state
        if record.isFresh policy.ttl now then
          (.settled (.ok record.messages), markServed locale state)
        else
          loadInner policy source storage now locale (some record) state
    | (none, state) => loadInner policy source storage now locale none state

/-- Remove all records.  If that fails, nothing is forgotten. -/
def clear (storage : Storage τ) (state : CachingState ι τ) :
    Except Error Unit × CachingState ι τ :=
  match storage.clear state.storage with
  | (.ok (), inner) => (.ok (), { state with storage := inner, served := [] })
  | (.error error, inner) => (.error error, { state with storage := inner })

end CachingSource

namespace MessageSource

def caching (source : MessageSource ι) (policy : CachingPolicy) (storage : Storage τ) :
    MessageSource (CachingState ι τ) where
  load := CachingSource.load policy source storage
  offers locale state := locale ∈ state.served || source.offers locale state.inner
  available state := source.available state.inner

end MessageSource

end Phrasebook
