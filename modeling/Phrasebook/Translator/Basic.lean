import Phrasebook.Interpolation
import Phrasebook.Locale
import Phrasebook.MessageStore
import Phrasebook.Template.Detection
import Phrasebook.Template.Formatter
import Phrasebook.Translator.Flights

namespace Phrasebook

structure Hooks (σ : Type) where
  missingKey : String → String → σ → σ
  loaded : String → σ → σ
  /-- A key could not be rendered, or something could not be loaded. -/
  failed : Error → String → σ → σ

namespace Hooks

def silent : Hooks σ where
  missingKey _ _ state := state
  loaded _ state := state
  failed _ _ state := state

end Hooks

inductive LoadKey where
  | locale (name : String)
  | fragment (name : FragmentName)
deriving DecidableEq

namespace LoadKey

def tag : LoadKey → String
  | .locale name => name
  | .fragment name => name.label

def stored (dictionary : Dictionary) (store : MessageStore) : LoadKey → MessageStore
  | .locale name => store.setLocale name dictionary
  | .fragment name => store.mergeNamespace name.1 name.2 dictionary

end LoadKey

structure Translator (σ : Type) where
  locale : String
  fallback : String
  store : MessageStore
  formatter : TemplateFormatter
  source : Option (MessageSource σ)
  namespaces : Option (NamespaceSource σ)
  hooks : Hooks σ
  flights : Flights LoadKey σ
  /-- What the sources and the hooks act on. -/
  world : σ

namespace Translator

def create (locale fallback : String) (dictionaries : List (String × Dictionary)) (world : σ) :
    Translator σ where
  locale := Locale.normalize locale
  fallback := Locale.normalize fallback
  store := .seeded (dictionaries.map fun entry => (Locale.normalize entry.1, entry.2))
  formatter := .empty TemplateFormatter.defaultCapacity
  source := none
  namespaces := none
  hooks := .silent
  flights := .empty
  world := world

def setLocale (translator : Translator σ) (locale : String) : Translator σ :=
  { translator with locale := Locale.normalize locale }

def isLocaleLoaded (translator : Translator σ) (locale : String) : Bool :=
  translator.store.hasLocale (Locale.normalize locale)

def isNamespaceLoaded (translator : Translator σ) (name : String) : Bool :=
  translator.store.hasNamespace translator.locale name

def chain (translator : Translator σ) : List String :=
  Locale.fallbackChain translator.locale translator.fallback

def resolve (translator : Translator σ) (key : String) : Option (String × String) :=
  translator.store.resolve translator.chain key

def missing (translator : Translator σ) (key : String) : String × Translator σ :=
  (key, { translator with
    world := translator.hooks.missingKey key translator.locale translator.world })

def translate (translator : Translator σ) (key : String) : String × Translator σ :=
  match translator.resolve key with
  | some (_, message) => (message, translator)
  | none => translator.missing key

def formatMessage (translator : Translator σ) (key locale template : String) (params : Params) :
    String × Translator σ :=
  match translator.formatter.tryFormat template locale params with
  | (.ok text, formatter) => (text, { translator with formatter })
  | (.error error, formatter) =>
      (template, { translator with
        formatter
        world := translator.hooks.failed error key translator.world })

def translateWith (translator : Translator σ) (key : String) (params : Params) :
    String × Translator σ :=
  match translator.resolve key with
  | some (locale, message) =>
      if Template.isTemplate message then translator.formatMessage key locale message params
      else (interpolate message params, translator)
  | none => translator.missing key

end Translator

end Phrasebook
