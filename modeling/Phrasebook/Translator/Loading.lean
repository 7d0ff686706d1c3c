import Phrasebook.Translator.Basic

namespace Phrasebook.Translator

/-! Loading locales and namespaces.

A call enters: it may be answered at once, and else it joins the load of its key, which is started
if there is none under way.  When the load has ended the call settles: the first of the callers to
do so stores what was loaded, and has the hooks told of it.
-/

def starter (translator : Translator σ) (key : LoadKey) :
    Except Error (Int64 → σ → Progress σ × σ) :=
  match key, translator.source, translator.namespaces with
  | .locale name, some source, _ => .ok fun now => source.load now name
  | .locale _, none, _ =>
      .error (.configuration "load_locale requires a message source")
  | .fragment name, _, some load => .ok fun now => load now name
  | .fragment _, _, none =>
      .error (.configuration "load_namespace requires a namespace source")

/-- Nothing has to be loaded for the key.  A locale is always loaded anew. -/
def holds (translator : Translator σ) : LoadKey → Bool
  | .locale _ => false
  | .fragment name => translator.store.hasNamespace name.1 name.2

inductive Entry (σ : Type) where
  | answered (result : Except Error Unit)
  | boarded (flight : Flight σ)

def enter (translator : Translator σ) (now : Int64) (key : LoadKey) : Entry σ × Translator σ :=
  match translator.starter key with
  | .error error => (.answered (.error error), translator)
  | .ok start =>
      match translator.flights.find? key with
      | some flight => (.boarded flight, translator)
      | none =>
          if translator.holds key then
            (.answered (.ok ()), translator)
          else
            let (progress, world) := start now translator.world
            let (flight, flights) := translator.flights.depart key progress
            (.boarded flight, { translator with flights, world })

def commit (translator : Translator σ) (key : LoadKey) : LoadOutcome → Translator σ
  | .ok dictionary => { translator with store := key.stored dictionary translator.store }
  | .error _ => translator

/-- Whether the load of a key is still under way under its number.  If it is, it is so no longer,
and what it brought is stored. -/
def unload (translator : Translator σ) (key : LoadKey) (number : Nat) (outcome : LoadOutcome) :
    Bool × Translator σ :=
  match translator.flights.settle key number with
  | (true, flights) => (true, { translator with flights }.commit key outcome)
  | (false, flights) => (false, { translator with flights })

def report (translator : Translator σ) (key : LoadKey) : Except Error Unit → Translator σ
  | .ok () => { translator with world := translator.hooks.loaded key.tag translator.world }
  | .error error =>
      { translator with world := translator.hooks.failed error key.tag translator.world }

def settle (translator : Translator σ) (key : LoadKey) (number : Nat) (outcome : LoadOutcome) :
    Except Error Unit × Translator σ :=
  let result := outcome.map fun _ => ()
  match translator.unload key number outcome with
  | (true, translator) => (result, translator.report key result)
  | (false, translator) => (result, translator)

def perform (translator : Translator σ) (now : Int64) (key : LoadKey) :
    Except Error Unit × Translator σ :=
  match translator.enter now key with
  | (.answered result, translator) => (result, translator)
  | (.boarded flight, translator) =>
      let (outcome, world) := flight.progress.finish now translator.world
      { translator with world }.settle key flight.number outcome

def localeKey (locale : String) : LoadKey :=
  .locale (Locale.normalize locale)

def fragmentKey (translator : Translator σ) (name : String) : LoadKey :=
  .fragment (translator.locale, name)

def loadLocale (translator : Translator σ) (now : Int64) (locale : String) :
    Except Error Unit × Translator σ :=
  translator.perform now (localeKey locale)

def loadNamespace (translator : Translator σ) (now : Int64) (name : String) :
    Except Error Unit × Translator σ :=
  translator.perform now (translator.fragmentKey name)

def needsLoad (translator : Translator σ) (locale : String) : Bool :=
  translator.source.isSome && !translator.isLocaleLoaded locale

/-- Make a locale the current one, and load it first if it is not loaded and can be. -/
def changeLocale (translator : Translator σ) (now : Int64) (locale : String) :
    Except Error Unit × Translator σ :=
  let locale := Locale.normalize locale
  if translator.needsLoad locale then
    match translator.loadLocale now locale with
    | (.ok (), translator) => (.ok (), translator.setLocale locale)
    | failed => failed
  else
    (.ok (), translator.setLocale locale)

/-- Load locales one after another; those that could not be loaded. -/
def loadAll (now : Int64) : List String → Translator σ → List String × Translator σ
  | [], translator => ([], translator)
  | locale :: locales, translator =>
      match translator.loadLocale now locale with
      | (.ok (), translator) => loadAll now locales translator
      | (.error _, translator) =>
          let (failed, translator) := loadAll now locales translator
          (locale :: failed, translator)

def missingChainSource : Error :=
  .configuration "load_fallback_chain requires a message source"

def loadChain (translator : Translator σ) (now : Int64) :
    Except Error (List String) × Translator σ :=
  if translator.source.isNone then
    (.error missingChainSource, translator)
  else
    let (failed, translator) := loadAll now translator.chain translator
    (.ok failed, translator)

end Phrasebook.Translator
