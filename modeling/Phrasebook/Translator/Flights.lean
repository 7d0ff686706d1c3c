import Phrasebook.Source.Basic

namespace Phrasebook

structure Flight (σ : Type) where
  number : Nat
  progress : Progress σ

namespace Flight

def land (flight : Flight σ) (now : Int64) (state : σ) : Flight σ × σ :=
  let (outcome, state) := flight.progress.finish now state
  ({ flight with progress := .settled outcome }, state)

end Flight

/-- Loads under way, one for each key at most.  The number of a load tells it from later ones of its
key. -/
structure Flights (κ σ : Type) where
  pending : List (κ × Flight σ)
  started : Nat

namespace Flights

variable {κ σ : Type} [DecidableEq κ]

def empty : Flights κ σ := ⟨[], 0⟩

def find? (flights : Flights κ σ) (key : κ) : Option (Flight σ) :=
  Keyed.get? key flights.pending

def depart (flights : Flights κ σ) (key : κ) (progress : Progress σ) : Flight σ × Flights κ σ :=
  let flight := ⟨flights.started, progress⟩
  (flight, ⟨Keyed.put key flight flights.pending, flights.started + 1⟩)

/-- What has become of a load that may be under way. -/
def latest (flights : Flights κ σ) (key : κ) (flight : Flight σ) : Flight σ :=
  match flights.find? key with
  | some current => if current.number = flight.number then current else flight
  | none => flight

/-- Finish all loads, in the order of their start. -/
def landAll (now : Int64) : List (κ × Flight σ) → σ → List (κ × Flight σ) × σ
  | [], state => ([], state)
  | (key, flight) :: rest, state =>
      let (flight, state) := flight.land now state
      let (rest, state) := landAll now rest state
      ((key, flight) :: rest, state)

/-- Whether the load of a key is the one with the given number, which is removed then. -/
def settle (flights : Flights κ σ) (key : κ) (number : Nat) : Bool × Flights κ σ :=
  match flights.find? key with
  | some flight =>
      if flight.number = number then
        (true, { flights with pending := Keyed.erase key flights.pending })
      else
        (false, flights)
  | none => (false, flights)

end Flights

end Phrasebook
