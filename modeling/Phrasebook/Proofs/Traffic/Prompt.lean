import Phrasebook.Proofs.Translator.FailedLoads

namespace Phrasebook.Traffic

open Translator

variable {σ : Type} {traffic : Traffic σ} {answer : FragmentName → LoadOutcome}

/-- Every load of a namespace that anyone knows of is settled with the answer for its name, and
only what was an answer has been merged. -/
structure Prompt (answer : FragmentName → LoadOutcome) (traffic : Traffic σ) : Prop where
  source : ∃ load, traffic.translator.namespaces = some load ∧
    ∀ now name world, load now name world = (.settled (answer name), world)
  pending : ∀ name flight, traffic.translator.flights.find? (.fragment name) = some flight →
    flight.progress = .settled (answer name)
  callers : ∀ name flight, .waiting (.fragment name) flight ∈ traffic.callers →
    flight.progress = .settled (answer name)
  merged : ∀ name, traffic.translator.store.hasNamespace name.1 name.2 = true →
    ∃ dictionary, answer name = .ok dictionary

namespace Prompt

theorem boarded (prompt : Prompt answer traffic) {now : Int64} {name : FragmentName}
    {flight : Flight σ} {after : Translator σ}
    (entered : traffic.translator.enter now (.fragment name) = (.boarded flight, after)) :
    flight.progress = .settled (answer name) := by
  obtain ⟨load, isSource, settles⟩ := prompt.source
  simp only [Translator.enter, starter, isSource] at entered
  split at entered
  · next found =>
      cases entered
      exact prompt.pending name _ found
  · split at entered
    · cases entered
    · simp only [settles] at entered
      cases entered
      rfl

theorem enter (prompt : Prompt answer traffic) (now : Int64) (key : LoadKey) :
    Prompt answer (traffic.enter now key) := by
  have joined {flight : Flight σ} {after : Translator σ} {name : FragmentName}
      {other : Flight σ} (entered : traffic.translator.enter now key = (.boarded flight, after))
      (member : .waiting (.fragment name) other ∈ traffic.callers ++ [.waiting key flight]) :
      other.progress = .settled (answer name) := by
    rcases List.mem_append.mp member with before | last
    · exact prompt.callers name other before
    · cases List.mem_singleton.mp last
      exact prompt.boarded entered
  rcases traffic.translator.enter_cases now key with
    ⟨result, entered, _⟩ | ⟨flight, entered, _⟩ | ⟨progress, world, entered, _⟩
  · simp only [Traffic.enter, entered]
    exact ⟨prompt.source, prompt.pending, by simpa using prompt.callers, prompt.merged⟩
  · simp only [Traffic.enter, entered]
    exact ⟨prompt.source, prompt.pending, fun _ _ => joined entered, prompt.merged⟩
  · simp only [Traffic.enter, entered]
    refine ⟨prompt.source, fun name flight found => ?_, fun _ _ => joined entered, prompt.merged⟩
    rw [Flights.find?_depart] at found
    split at found
    · next same =>
        subst same
        cases found
        exact prompt.boarded entered
    · exact prompt.pending name flight found

theorem land (prompt : Prompt answer traffic) (now : Int64) (key : LoadKey) :
    Prompt answer (traffic.land now key) := by
  unfold Traffic.land
  split
  · next number finish found =>
      -- a load that has not ended yet is one of a locale
      have other : ∀ name, LoadKey.fragment name ≠ key := by
        rintro name rfl
        exact absurd (prompt.pending name _ found) nofun
      have kept (flight : Flight σ) (name : FragmentName) :
          Keyed.get? (.fragment name) (Keyed.put key flight traffic.translator.flights.pending) =
            traffic.translator.flights.find? (.fragment name) :=
        Keyed.get?_put_of_ne (other name) flight _
      refine ⟨prompt.source, fun name flight isFlight => ?_, fun name flight member => ?_,
        prompt.merged⟩
      · exact prompt.pending name flight ((kept _ name).symm.trans isFlight)
      · obtain ⟨caller, before, refreshed⟩ := List.mem_map.mp member
        cases caller with
        | leaving => cases refreshed
        | gone => cases refreshed
        | waiting own flight =>
            simp only [Caller.refreshed, Flights.latest, Flights.find?] at refreshed
            cases refreshed
            rw [kept]
            split
            · next current found =>
                split
                · exact prompt.pending name current found
                · exact prompt.callers name flight before
            · exact prompt.callers name flight before
  · exact prompt

theorem unload (prompt : Prompt answer traffic) (caller : Nat) :
    Prompt answer (traffic.unload caller) := by
  unfold Traffic.unload
  split
  · next key number outcome waits =>
      have callers (own : Bool) : ∀ name flight, .waiting (.fragment name) flight ∈
          traffic.callers.set caller (.leaving key number outcome own) →
            flight.progress = .settled (answer name) := by
        intro name flight member
        rcases List.mem_or_eq_of_mem_set member with before | same
        · exact prompt.callers name flight before
        · cases same
      have left {name : FragmentName} {flight : Flight σ} (found : Keyed.get? (.fragment name)
          (Keyed.erase key traffic.translator.flights.pending) = some flight) :
          traffic.translator.flights.find? (.fragment name) = some flight := by
        rw [Keyed.get?_erase] at found
        split at found
        · contradiction
        · exact found
      rcases traffic.translator.unload_cases key number outcome with
        ⟨progress, _, unloaded⟩ | ⟨_, unloaded⟩
      · simp only [unloaded]
        cases outcome with
        | error error =>
            exact ⟨prompt.source, fun name flight found => prompt.pending name flight (left found),
              callers true, prompt.merged⟩
        | ok dictionary =>
            refine ⟨prompt.source, fun name flight found => prompt.pending name flight (left found),
              callers true, fun name marked => ?_⟩
            cases key with
            | locale locale =>
                exact prompt.merged name (MessageStore.hasNamespace_of_setLocale marked)
            | fragment other =>
                rcases MessageStore.hasNamespace_mergeNamespace.mp marked with same | before
                · have isAnswer := prompt.callers other _ (List.mem_of_getElem? waits)
                  rw [Prod.ext same.1 same.2]
                  exact ⟨dictionary, (Progress.settled.inj isAnswer).symm⟩
                · exact prompt.merged name before
      · simp only [unloaded]
        exact ⟨prompt.source, prompt.pending, callers false, prompt.merged⟩
  · exact prompt

theorem set (prompt : Prompt answer traffic) (caller : Nat) :
    Prompt answer { traffic with callers := traffic.callers.set caller .gone } where
  source := prompt.source
  pending := prompt.pending
  callers name flight member := by
    rcases List.mem_or_eq_of_mem_set member with before | same
    · exact prompt.callers name flight before
    · cases same
  merged := prompt.merged

theorem leave (prompt : Prompt answer traffic) (caller : Nat) :
    Prompt answer (traffic.leave caller) := by
  unfold Traffic.leave
  split
  · next key number outcome own _ =>
      have gone := prompt.set caller
      cases own with
      | false => exact ⟨gone.source, gone.pending, gone.callers, gone.merged⟩
      | true =>
          cases outcome with
          | error error => exact ⟨gone.source, gone.pending, gone.callers, gone.merged⟩
          | ok dictionary => exact ⟨gone.source, gone.pending, gone.callers, gone.merged⟩
  · exact prompt

theorem giveUp (prompt : Prompt answer traffic) (caller : Nat) :
    Prompt answer (traffic.giveUp caller) := by
  unfold Traffic.giveUp
  split
  · exact prompt.set caller
  · exact prompt

theorem run (prompt : Prompt answer traffic) (moves : List Move) :
    Prompt answer (traffic.run moves) := by
  induction moves generalizing traffic with
  | nil => exact prompt
  | cons move moves ih =>
      refine ih ?_
      cases move with
      | enter now key => exact prompt.enter now key
      | land now key => exact prompt.land now key
      | unload caller => exact prompt.unload caller
      | leave caller => exact prompt.leave caller
      | giveUp caller => exact prompt.giveUp caller
      | setLocale locale =>
          simp only [step, setLocale]
          exact ⟨prompt.source, prompt.pending, prompt.callers, prompt.merged⟩

theorem starter_fragmentKey (prompt : Prompt answer traffic) (name : String) :
    ∃ load : NamespaceSource σ, traffic.translator.starter (traffic.translator.fragmentKey name) =
        .ok (fun now => load now (traffic.translator.locale, name)) ∧
      ∀ now name world, load now name world = (.settled (answer name), world) := by
  obtain ⟨load, isSource, settles⟩ := prompt.source
  exact ⟨load, by simp only [starter, fragmentKey, isSource], settles⟩

/-- Nothing has to be loaded once the fragment is merged. -/
theorem loadNamespace_of_loaded (prompt : Prompt answer traffic)
    (sourced : Sourced traffic.translator) (now : Int64) {name : String}
    (loaded : traffic.translator.isNamespaceLoaded name = true) :
    traffic.translator.loadNamespace now name = (.ok (), traffic.translator) := by
  obtain ⟨load, startable, _⟩ := prompt.starter_fragmentKey name
  have held : traffic.translator.holds (traffic.translator.fragmentKey name) = true := loaded
  have none : traffic.translator.flights.find? (traffic.translator.fragmentKey name) = none := by
    cases underWay : traffic.translator.flights.find? (traffic.translator.fragmentKey name) with
    | none => rfl
    | some flight => exact absurd ((sourced _ flight underWay).1.symm.trans held) nofun
  simp [Translator.loadNamespace, perform, Translator.enter, startable, none, held]

/-- A call for a namespace that is not merged ends with the answer for its name. -/
theorem loadNamespace_of_unloaded (prompt : Prompt answer traffic) (now : Int64) {name : String}
    (unloaded : traffic.translator.isNamespaceLoaded name = false) :
    ∃ flights world, traffic.translator.loadNamespace now name =
      ((answer (traffic.translator.locale, name)).map fun _ => (),
        traffic.translator.concluded (traffic.translator.fragmentKey name) flights
          (answer (traffic.translator.locale, name), world)) := by
  obtain ⟨load, startable, settles⟩ := prompt.starter_fragmentKey name
  obtain ⟨flights, _, performed⟩ := perform_of_unheld now startable unloaded
  have attempted : (traffic.translator.attempt now (traffic.translator.fragmentKey name) fun now =>
      load now (traffic.translator.locale, name)).1 =
        answer (traffic.translator.locale, name) := by
    unfold attempt
    cases underWay : traffic.translator.flights.find? (traffic.translator.fragmentKey name) with
    | none => simp only [asked, settles, Progress.finish]
    | some flight => simp only [prompt.pending _ flight underWay, Progress.finish]
  generalize traffic.translator.attempt now (traffic.translator.fragmentKey name) _ = ended
    at performed attempted
  obtain ⟨outcome, world⟩ := ended
  subst attempted
  exact ⟨flights, world, performed⟩

/-- A fragment that there is gets merged, unless that was done before. -/
theorem loadNamespace_ok (prompt : Prompt answer traffic) (sourced : Sourced traffic.translator)
    (now : Int64) {name : String} {dictionary : Dictionary}
    (isAnswer : answer (traffic.translator.locale, name) = .ok dictionary) :
    (traffic.translator.loadNamespace now name).1 = .ok () ∧
      (traffic.translator.loadNamespace now name).2.store =
        if traffic.translator.isNamespaceLoaded name then traffic.translator.store
        else traffic.translator.store.mergeNamespace traffic.translator.locale name dictionary := by
  cases loaded : traffic.translator.isNamespaceLoaded name with
  | true =>
      rw [prompt.loadNamespace_of_loaded sourced now loaded]
      exact ⟨rfl, rfl⟩
  | false =>
      obtain ⟨flights, world, called⟩ := prompt.loadNamespace_of_unloaded now loaded
      rw [called, isAnswer]
      exact ⟨rfl, rfl⟩

theorem loadNamespace_error (prompt : Prompt answer traffic) (now : Int64) {name : String}
    {error : Error} (isAnswer : answer (traffic.translator.locale, name) = .error error) :
    (traffic.translator.loadNamespace now name).1 = .error error ∧
      (traffic.translator.loadNamespace now name).2.store = traffic.translator.store := by
  cases loaded : traffic.translator.isNamespaceLoaded name with
  | true =>
      obtain ⟨dictionary, isOk⟩ := prompt.merged (traffic.translator.locale, name) loaded
      rw [isAnswer] at isOk
      contradiction
  | false =>
      obtain ⟨flights, world, called⟩ := prompt.loadNamespace_of_unloaded now loaded
      rw [called, isAnswer]
      exact ⟨rfl, rfl⟩

end Prompt

end Phrasebook.Traffic
