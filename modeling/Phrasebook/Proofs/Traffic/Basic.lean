import Phrasebook.Translator.Loading

namespace Phrasebook

/-! Calls for loads, with their steps in any order.

A call enters, waits for its load, unloads what the load brought unless another call has done so,
and returns.  Between two steps of a call all others may take theirs, loads may end, calls that
wait may be given up, and the current locale may change.  A log tells what has happened.
-/

def Progress.outcome? : Progress σ → Option LoadOutcome
  | .settled outcome => some outcome
  | .awaiting _ => none

inductive Caller (σ : Type) where
  | waiting (key : LoadKey) (flight : Flight σ)
  /-- Its load has ended.  A call that has unloaded it (`own`) still has to tell the hooks. -/
  | leaving (key : LoadKey) (number : Nat) (outcome : LoadOutcome) (own : Bool)
  | gone

/-- What has happened.  Calls are numbered as they enter, loads as they are started. -/
inductive Event (σ : Type) where
  | answered (caller : Nat) (key : LoadKey) (result : Except Error Unit)
  | started (number : Nat) (key : LoadKey) (world : σ)
  | joined (caller number : Nat) (key : LoadKey)
  | ended (number : Nat) (outcome : LoadOutcome) (world : σ)
  | unloaded (caller number : Nat) (key : LoadKey) (outcome : LoadOutcome)
  | returned (caller number : Nat) (key : LoadKey) (result : Except Error Unit) (own : Bool)

def Flight.ending (flight : Flight σ) (world : σ) : List (Event σ) :=
  match flight.progress.outcome? with
  | some outcome => [.ended flight.number outcome world]
  | none => []

def Caller.refreshed (flights : Flights LoadKey σ) : Caller σ → Caller σ
  | .waiting key flight => .waiting key (flights.latest key flight)
  | caller => caller

structure Traffic (σ : Type) where
  translator : Translator σ
  callers : List (Caller σ)
  log : List (Event σ)

namespace Traffic

def quiet (translator : Translator σ) : Traffic σ :=
  ⟨{ translator with flights := .empty }, [], []⟩

inductive Move where
  | enter (now : Int64) (key : LoadKey)
  | land (now : Int64) (key : LoadKey)
  | unload (caller : Nat)
  | leave (caller : Nat)
  | giveUp (caller : Nat)
  | setLocale (locale : String)

/-- The start of a load that a call has boarded, if it was not under way before. -/
def departure (traffic : Traffic σ) (key : LoadKey) (flight : Flight σ) (world : σ) :
    List (Event σ) :=
  match traffic.translator.flights.find? key with
  | some _ => []
  | none => .started flight.number key world :: flight.ending world

def enter (traffic : Traffic σ) (now : Int64) (key : LoadKey) : Traffic σ :=
  let caller := traffic.callers.length
  match traffic.translator.enter now key with
  | (.answered result, translator) =>
      { translator
        callers := traffic.callers ++ [.gone]
        log := traffic.log ++ [.answered caller key result] }
  | (.boarded flight, translator) =>
      { translator
        callers := traffic.callers ++ [.waiting key flight]
        log := traffic.log ++ traffic.departure key flight translator.world ++
          [.joined caller flight.number key] }

def land (traffic : Traffic σ) (now : Int64) (key : LoadKey) : Traffic σ :=
  match traffic.translator.flights.find? key with
  | some ⟨number, .awaiting finish⟩ =>
      let (flight, world) := Flight.land ⟨number, .awaiting finish⟩ now traffic.translator.world
      let flights := traffic.translator.flights
      let flights := { flights with pending := Keyed.put key flight flights.pending }
      { translator := { traffic.translator with flights, world }
        callers := traffic.callers.map (Caller.refreshed flights)
        log := traffic.log ++ flight.ending world }
  | _ => traffic

/-- A call that waits finds that its load has ended. -/
def unload (traffic : Traffic σ) (caller : Nat) : Traffic σ :=
  match traffic.callers[caller]? with
  | some (.waiting key ⟨number, .settled outcome⟩) =>
      let (own, translator) := traffic.translator.unload key number outcome
      { translator
        callers := traffic.callers.set caller (.leaving key number outcome own)
        log := traffic.log ++ if own then [.unloaded caller number key outcome] else [] }
  | _ => traffic

def leave (traffic : Traffic σ) (caller : Nat) : Traffic σ :=
  match traffic.callers[caller]? with
  | some (.leaving key number outcome own) =>
      let result := outcome.map fun _ => ()
      { translator := if own then traffic.translator.report key result else traffic.translator
        callers := traffic.callers.set caller .gone
        log := traffic.log ++ [.returned caller number key result own] }
  | _ => traffic

def giveUp (traffic : Traffic σ) (caller : Nat) : Traffic σ :=
  match traffic.callers[caller]? with
  | some (.waiting ..) => { traffic with callers := traffic.callers.set caller .gone }
  | _ => traffic

/-- One step.  A step that nobody can take changes nothing. -/
def step (traffic : Traffic σ) : Move → Traffic σ
  | .enter now key => traffic.enter now key
  | .land now key => traffic.land now key
  | .unload caller => traffic.unload caller
  | .leave caller => traffic.leave caller
  | .giveUp caller => traffic.giveUp caller
  | .setLocale locale => { traffic with translator := traffic.translator.setLocale locale }

def run (traffic : Traffic σ) (moves : List Move) : Traffic σ :=
  moves.foldl step traffic

theorem run_append (traffic : Traffic σ) (moves more : List Move) :
    traffic.run (moves ++ more) = (traffic.run moves).run more :=
  List.foldl_append

end Traffic

end Phrasebook
