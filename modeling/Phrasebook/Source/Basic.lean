import Phrasebook.Cache.Storage
import Phrasebook.Text.Basic

namespace Phrasebook

abbrev LoadOutcome := Except Error Dictionary

inductive Progress (σ : Type) where
  | settled (outcome : LoadOutcome)
  | awaiting (finish : Int64 → σ → LoadOutcome × σ)

namespace Progress

def finish (progress : Progress σ) (now : Int64) (state : σ) : LoadOutcome × σ :=
  match progress with
  | .settled outcome => (outcome, state)
  | .awaiting rest => rest now state

def inside (part : Part σ τ) : Progress τ → Progress σ
  | .settled outcome => .settled outcome
  | .awaiting rest => .awaiting fun now => part.lift (rest now)

end Progress

/-- How the load of a name is started at a time. -/
abbrev Loader (ν σ : Type) := Int64 → ν → σ → Progress σ × σ

namespace Loader

def run (load : Loader ν σ) (now : Int64) (name : ν) (state : σ) : LoadOutcome × σ :=
  let (progress, state) := load now name state
  progress.finish now state

def inside (part : Part σ τ) (load : Loader ν τ) : Loader ν σ :=
  fun now name state =>
    let (progress, inner) := load now name (part.get state)
    (progress.inside part, part.set inner state)

def noting (note : ν → σ → σ) (load : Loader ν σ) : Loader ν σ :=
  fun now name state => load now name (note name state)

def renamed (rename : μ → ν) (load : Loader ν σ) : Loader μ σ :=
  fun now name => load now (rename name)

/-- Dictionaries that are there from the start.  A name without one is unavailable. -/
def static [DecidableEq ν] (label : ν → String) (dictionaries : List (ν × Dictionary)) :
    Loader ν σ :=
  fun _ name state =>
    match Keyed.get? name dictionaries with
    | some dictionary => (.settled (.ok dictionary), state)
    | none => (.settled (.error (.localeUnavailable (label name))), state)

end Loader

structure MessageSource (σ : Type) where
  load : Loader String σ
  /-- The source is known to have the locale. -/
  offers : String → σ → Bool
  available : σ → List String

namespace MessageSource

def inside (part : Part σ τ) (source : MessageSource τ) : MessageSource σ where
  load := source.load.inside part
  offers locale state := source.offers locale (part.get state)
  available state := source.available (part.get state)

def noting (note : String → σ → σ) (source : MessageSource σ) : MessageSource σ :=
  { source with load := source.load.noting note }

def static (dictionaries : List (String × Dictionary)) : MessageSource σ where
  load := .static id dictionaries
  offers locale _ := locale ∈ Keyed.keys dictionaries
  available _ := Text.sorted (Keyed.keys dictionaries)

end MessageSource

/-- A fragment of a locale's messages: the locale and the namespace. -/
abbrev FragmentName := String × String

namespace FragmentName

def label (name : FragmentName) : String :=
  s!"{name.1}/{name.2}"

end FragmentName

abbrev NamespaceSource (σ : Type) := Loader FragmentName σ

end Phrasebook
