import Phrasebook.Config.Basic
import Phrasebook.MessageDirectory
import Phrasebook.Translator.Basic

namespace Phrasebook

structure Network (ε ρ : Type) where
  endpoint : Endpoint ε
  redis : String → Except String (RedisConnection ρ)

namespace Translator

variable {ε ρ : Type}

/-- Add the dictionaries of a directory.  They give the namespaces too, unless there is a remote
source. -/
def addDirectoryInOrder (order : String → List String → List String) (config : Config)
    (translator : Translator (World ε ρ)) : Except Error (Translator (World ε ρ)) :=
  match config.locale.messagesDirectory with
  | none => .ok translator
  | some path => do
      let directory ← MessageDirectory.readInOrder order translator.world.files path
      let locales := directory.locales.map fun entry => (Locale.normalize entry.1, entry.2)
      .ok { translator with
        store := .seeded locales
        namespaces := if config.remote.isNone then some directory.namespaces else none }

def addRemote (network : Network ε ρ) (config : Config) (translator : Translator (World ε ρ)) :
    Except Error (Translator (World ε ρ)) :=
  match config.remote with
  | none => .ok translator
  | some settings => do
      let source ← RemoteSource.create settings.remote network.endpoint
      let translator :=
        { translator with namespaces := some (source.namespaces.inside World.outsidePart) }
      if config.cache.enabled then do
        let (opened, world) := config.cache.openStorage network.redis translator.world
        let opened ← opened
        .ok { translator with
          world
          source := some (opened.caching config.cache.policy source.messages) }
      else
        .ok { translator with source := some (source.messages.inside World.outsidePart) }

/-- The translator of a configuration, which has to be valid, where directories list their names in
some order. -/
def ofConfigInOrder (order : String → List String → List String) (network : Network ε ρ)
    (config : Config) (world : World ε ρ) : Except Error (Translator (World ε ρ)) := do
  config.validate
  let translator := create config.locale.locale config.locale.fallback [] world
  let translator ← addDirectoryInOrder order config
    { translator with formatter := .empty config.locale.templateCapacity }
  addRemote network config translator

/-- The names in the order in which the tree gives them. -/
def ofConfig : Network ε ρ → Config → World ε ρ → Except Error (Translator (World ε ρ)) :=
  ofConfigInOrder fun _ names => names

end Translator

end Phrasebook
