import Phrasebook.Proofs.Keyed
import Phrasebook.Proofs.Store.Basic
import Phrasebook.Proofs.Traffic.Basic

namespace Phrasebook

namespace Flights

variable {κ σ : Type} [DecidableEq κ]

@[simp] theorem find?_empty (key : κ) : (empty : Flights κ σ).find? key = none := rfl

theorem find?_depart (flights : Flights κ σ) (key other : κ) (progress : Progress σ) :
    (flights.depart key progress).2.find? other =
      if other = key then some ⟨flights.started, progress⟩ else flights.find? other :=
  Keyed.get?_put ..

/-- What a flight has become is itself or the flight of its number under way. -/
theorem latest_cases (flights : Flights κ σ) (key : κ) (flight : Flight σ) :
    flights.latest key flight = flight ∨
      (flights.find? key = some (flights.latest key flight) ∧
        (flights.latest key flight).number = flight.number) := by
  unfold latest
  cases found : flights.find? key with
  | none => exact .inl rfl
  | some current =>
      by_cases same : current.number = flight.number
      · simp [same]
      · simp [same]

theorem latest_of_find? {flights : Flights κ σ} {key : κ} {current : Flight σ} (flight : Flight σ)
    (found : flights.find? key = some current) (same : current.number = flight.number) :
    flights.latest key flight = current := by
  simp only [latest, found, if_pos same]

theorem latest_number (flights : Flights κ σ) (key : κ) (flight : Flight σ) :
    (flights.latest key flight).number = flight.number := by
  rcases flights.latest_cases key flight with same | ⟨_, same⟩
  · rw [same]
  · exact same

theorem settle_cases (flights : Flights κ σ) (key : κ) (number : Nat) :
    (∃ progress, flights.find? key = some ⟨number, progress⟩ ∧
      flights.settle key number =
        (true, { flights with pending := Keyed.erase key flights.pending })) ∨
    ((∀ progress, flights.find? key ≠ some ⟨number, progress⟩) ∧
      flights.settle key number = (false, flights)) := by
  unfold settle
  cases found : flights.find? key with
  | none => exact .inr ⟨by simp, rfl⟩
  | some flight =>
      by_cases same : flight.number = number
      · subst same
        exact .inl ⟨flight.progress, rfl, by simp⟩
      · refine .inr ⟨?_, by simp [same]⟩
        intro progress equal
        cases equal
        exact same rfl

end Flights

namespace Translator

variable {σ : Type}

/-- A call is answered at once, or joins the load of its key, or starts one. -/
theorem enter_cases (translator : Translator σ) (now : Int64) (key : LoadKey) :
    (∃ result, translator.enter now key = (.answered result, translator) ∧
      (result = .ok () →
        translator.flights.find? key = none ∧ translator.holds key = true)) ∨
    (∃ flight, translator.enter now key = (.boarded flight, translator) ∧
      translator.flights.find? key = some flight) ∨
    (∃ progress world,
      translator.enter now key =
        (.boarded ⟨translator.flights.started, progress⟩,
          { translator with flights := (translator.flights.depart key progress).2, world }) ∧
      translator.flights.find? key = none ∧ translator.holds key = false) := by
  unfold enter
  cases translator.starter key with
  | error error => exact .inl ⟨.error error, rfl, nofun⟩
  | ok start =>
      cases found : translator.flights.find? key with
      | some flight => exact .inr (.inl ⟨flight, rfl, rfl⟩)
      | none =>
          cases held : translator.holds key with
          | true => exact .inl ⟨.ok (), by simp, fun _ => ⟨rfl, rfl⟩⟩
          | false =>
              refine .inr (.inr ⟨(start now translator.world).1,
                (start now translator.world).2, ?_, rfl, rfl⟩)
              simp [Flights.depart]

/-- The first call to find its load at an end stores what it brought; no other does. -/
theorem unload_cases (translator : Translator σ) (key : LoadKey) (number : Nat)
    (outcome : LoadOutcome) :
    (∃ progress, translator.flights.find? key = some ⟨number, progress⟩ ∧
      translator.unload key number outcome =
        (true, ({ translator with
          flights := { translator.flights with
            pending := Keyed.erase key translator.flights.pending } } :
          Translator σ).commit key outcome)) ∨
    ((∀ progress, translator.flights.find? key ≠ some ⟨number, progress⟩) ∧
      translator.unload key number outcome = (false, translator)) := by
  rcases translator.flights.settle_cases key number with
    ⟨progress, found, settled⟩ | ⟨absent, settled⟩
  · exact .inl ⟨progress, found, by simp only [unload, settled]⟩
  · exact .inr ⟨absent, by simp only [unload, settled]⟩

end Translator

end Phrasebook
