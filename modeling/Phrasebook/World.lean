import Phrasebook.Cache.FileStorage
import Phrasebook.Cache.RedisStorage
import Phrasebook.Source.Caching

namespace Phrasebook

structure World (ε ρ : Type) where
  outside : ε
  files : FileTree
  memory : Storage.Table
  redis : ρ
  /-- The locales that a caching source has delivered. -/
  served : List String
  /-- Whether a build with checks of overflow has stopped. -/
  overflowed : Bool

namespace World

variable {ε ρ τ : Type}

def create (outside : ε) (files : FileTree) (redis : ρ) : World ε ρ :=
  ⟨outside, files, [], redis, [], false⟩

def outsidePart : Part (World ε ρ) ε where
  get world := world.outside
  set outside world := { world with outside }

def filesPart : Part (World ε ρ) FileTree where
  get world := world.files
  set files world := { world with files }

def memoryPart : Part (World ε ρ) Storage.Table where
  get world := world.memory
  set memory world := { world with memory }

def redisPart : Part (World ε ρ) ρ where
  get world := world.redis
  set redis world := { world with redis }

/-- The part for a caching source whose inner source acts on what lies outside. -/
def cachingPart (storage : Part (World ε ρ) τ) : Part (World ε ρ) (CachingState ε τ) where
  get world := ⟨world.outside, storage.get world, world.served, world.overflowed⟩
  set state world :=
    storage.set state.storage
      { world with
        outside := state.inner
        served := state.served
        overflowed := state.overflowed }

end World

inductive OpenStorage (ρ : Type) where
  | memory
  | files (directory : String)
  | redis (server : RedisConnection ρ)

namespace OpenStorage

variable {ε ρ : Type}

def storage : OpenStorage ρ → Storage (World ε ρ)
  | .memory => Storage.memory.inside World.memoryPart
  | .files directory => (Storage.files directory).inside World.filesPart
  | .redis server => (Storage.redis server RedisStorage.defaultPrefix).inside World.redisPart

def caching (opened : OpenStorage ρ) (policy : CachingPolicy) (source : MessageSource ε) :
    MessageSource (World ε ρ) :=
  match opened with
  | .memory =>
      (source.caching policy .memory).inside (World.cachingPart World.memoryPart)
  | .files directory =>
      (source.caching policy (.files directory)).inside (World.cachingPart World.filesPart)
  | .redis server =>
      (source.caching policy (.redis server RedisStorage.defaultPrefix)).inside
        (World.cachingPart World.redisPart)

end OpenStorage

end Phrasebook
