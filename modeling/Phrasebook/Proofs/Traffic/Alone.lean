import Phrasebook.Proofs.Traffic.Flights

namespace Phrasebook

theorem Keyed.erase_put {κ : Type u} {α : Type v} [DecidableEq κ] (key : κ) (value : α)
    (entries : List (κ × α)) : erase key (put key value entries) = erase key entries := by
  induction entries with
  | nil => simp [erase, put]
  | cons entry rest ih =>
      unfold erase at ih ⊢
      by_cases here : entry.1 = key
      · simp [put, here]
      · rw [put, if_neg here, List.filter_cons_of_pos (by simp [here]),
          List.filter_cons_of_pos (by simp [here]), ih]

namespace Traffic

variable {σ : Type} {traffic : Traffic σ} {key : LoadKey} {number caller : Nat}

theorem unload_leave {outcome : LoadOutcome}
    (waits : traffic.callers[caller]? = some (.waiting key ⟨number, .settled outcome⟩)) :
    ((traffic.unload caller).leave caller).translator =
        (traffic.translator.settle key number outcome).2 ∧
      ∃ own, .returned caller number key (traffic.translator.settle key number outcome).1 own ∈
        ((traffic.unload caller).leave caller).log := by
  have inside := (List.getElem?_eq_some_iff.mp waits).1
  generalize unloaded : traffic.translator.unload key number outcome = result
  obtain ⟨own, translator⟩ := result
  simp only [unload, waits, unloaded, leave, List.getElem?_set_self inside, Translator.settle]
  cases own with
  | true => exact ⟨rfl, true, List.mem_append_right _ (List.mem_singleton_self _)⟩
  | false => exact ⟨rfl, false, List.mem_append_right _ (List.mem_singleton_self _)⟩

theorem land_waiting (now : Int64) {flight : Flight σ} {outcome : LoadOutcome} {world : σ}
    (waits : traffic.callers[caller]? = some (.waiting key flight))
    (found : traffic.translator.flights.find? key = some flight)
    (finished : flight.progress.finish now traffic.translator.world = (outcome, world)) :
    (traffic.land now key).callers[caller]? =
        some (.waiting key ⟨flight.number, .settled outcome⟩) ∧
      (traffic.land now key).translator.settle key flight.number outcome =
        ({ traffic.translator with world } : Translator σ).settle key flight.number outcome := by
  obtain ⟨number, progress⟩ := flight
  cases progress with
  | settled known =>
      obtain ⟨rfl, rfl⟩ := Prod.mk.inj finished
      have unchanged : traffic.land now key = traffic := by simp only [land, found]
      rw [unchanged]
      exact ⟨waits, rfl⟩
  | awaiting finish =>
      have landed : finish now traffic.translator.world = (outcome, world) := finished
      simp only [land, found, Flight.land, Progress.finish, landed]
      have latest : ({ traffic.translator.flights with
          pending := Keyed.put key ⟨number, .settled outcome⟩ traffic.translator.flights.pending } :
            Flights LoadKey σ).latest key ⟨number, .awaiting finish⟩ =
          ⟨number, .settled outcome⟩ :=
        Flights.latest_of_find? _ (Keyed.get?_put_self ..) rfl
      refine ⟨by simp [waits, Caller.refreshed, latest], ?_⟩
      have before : Keyed.get? key traffic.translator.flights.pending =
          some ⟨number, .awaiting finish⟩ := found
      simp [Translator.settle, Translator.unload, Flights.settle, Flights.find?,
        Keyed.get?_put_self, before, Keyed.erase_put]

/-- A call that no other one overlaps is a run of one caller's steps. -/
theorem perform_eq_run (traffic : Traffic σ) (now : Int64) (key : LoadKey) :
    ∃ moves, (traffic.run moves).translator = (traffic.translator.perform now key).2 ∧
      (.answered traffic.callers.length key (traffic.translator.perform now key).1 ∈
          (traffic.run moves).log ∨
        ∃ number own, .returned traffic.callers.length number key
          (traffic.translator.perform now key).1 own ∈ (traffic.run moves).log) := by
  generalize entered : traffic.translator.enter now key = entry
  obtain ⟨entry, translator⟩ := entry
  cases entry with
  | answered result =>
      have performed : traffic.translator.perform now key = (result, translator) := by
        simp only [Translator.perform, entered]
      rw [performed]
      refine ⟨[.enter now key], ?_, .inl ?_⟩
      · simp [run, step, enter, entered]
      · simp [run, step, enter, entered]
  | boarded flight =>
      generalize finished : flight.progress.finish now translator.world = finish
      obtain ⟨outcome, world⟩ := finish
      have performed : traffic.translator.perform now key =
          ({ translator with world } : Translator σ).settle key flight.number outcome := by
        simp only [Translator.perform, entered, finished]
      have found : translator.flights.find? key = some flight := by
        rcases traffic.translator.enter_cases now key with
          ⟨result, isAnswered, _⟩ | ⟨current, isBoarded, found⟩ | ⟨progress, state, isBoarded, _⟩
        · simp [entered] at isAnswered
        · rw [entered] at isBoarded
          cases isBoarded
          exact found
        · rw [entered] at isBoarded
          cases isBoarded
          simp [Flights.find?_depart]
      have translatorEntered : (traffic.enter now key).translator = translator := by
        simp only [enter, entered]
      have waits : (traffic.enter now key).callers[traffic.callers.length]? =
          some (.waiting key flight) := by
        simp [enter, entered]
      rw [← translatorEntered] at found finished
      obtain ⟨landed, settles⟩ := land_waiting now waits found finished
      obtain ⟨left, own, returned⟩ := unload_leave landed
      rw [settles, translatorEntered, ← performed] at left returned
      exact ⟨[.enter now key, .land now key, .unload traffic.callers.length,
        .leave traffic.callers.length], left, .inr ⟨_, own, returned⟩⟩

end Traffic

end Phrasebook
