import Phrasebook.Proofs.Traffic.Preservation
import Phrasebook.Proofs.Translator.Translation

namespace Phrasebook

/-- What a load that `start` has started may have come to. -/
inductive Progress.Of (start : Int64 → σ → Progress σ × σ) : Progress σ → Prop where
  | started (now : Int64) (world : σ) : Of start (start now world).1
  | ended {progress : Progress σ} (now : Int64) (world : σ) (origin : Of start progress) :
      Of start (.settled (progress.finish now world).1)

/-- An outcome that a load comes to which `start` has started. -/
def Answers (start : Int64 → σ → Progress σ × σ) (outcome : LoadOutcome) : Prop :=
  ∃ progress now world, Progress.Of start progress ∧ (progress.finish now world).1 = outcome

namespace Translator

variable {σ : Type} {translator : Translator σ}

theorem translate_beside (translator : Translator σ) (key : String) :
    ∃ world, (translator.translate key).2 = { translator with world } := by
  unfold translate
  split
  · exact ⟨translator.world, rfl⟩
  · exact ⟨_, rfl⟩

theorem translateWith_beside (translator : Translator σ) (key : String) (params : Params) :
    ∃ formatter world, (translator.translateWith key params).2 =
      { translator with formatter, world } := by
  unfold translateWith formatMessage
  split
  · split
    · split
      · exact ⟨_, translator.world, rfl⟩
      · exact ⟨_, _, rfl⟩
    · exact ⟨translator.formatter, translator.world, rfl⟩
  · exact ⟨translator.formatter, _, rfl⟩

structure Kept (invariant : Translator σ → Prop) : Prop where
  enter : ∀ {translator : Translator σ}, invariant translator → ∀ now key,
    invariant (translator.enter now key).2
  land : ∀ {translator : Translator σ}, invariant translator → ∀ now key flight,
    translator.flights.find? key = some flight →
      invariant { translator with
        flights := { translator.flights with
          pending := Keyed.put key (flight.land now translator.world).1
            translator.flights.pending }
        world := (flight.land now translator.world).2 }
  landAll : ∀ {translator : Translator σ}, invariant translator → ∀ now,
    invariant (translator.landAll now)
  unload : ∀ {translator : Translator σ}, invariant translator → ∀ key number outcome,
    invariant (translator.unload key number outcome).2
  setLocale : ∀ {translator : Translator σ}, invariant translator → ∀ locale,
    invariant (translator.setLocale locale)
  aside : ∀ {translator : Translator σ}, invariant translator → ∀ formatter world,
    invariant { translator with formatter, world }

namespace Kept

variable {invariant : Translator σ → Prop}

theorem world (kept : Kept invariant) (before : invariant translator) (world : σ) :
    invariant { translator with world } :=
  kept.aside before translator.formatter world

theorem withFormatter (kept : Kept invariant) (before : invariant translator)
    (formatter : TemplateFormatter) : invariant (translator.withFormatter formatter) :=
  kept.aside before formatter translator.world

theorem report (kept : Kept invariant) (before : invariant translator) (key : LoadKey)
    (result : Except Error Unit) : invariant (translator.report key result) := by
  cases result with
  | ok _ => exact kept.world before _
  | error error => exact kept.world before _

theorem settle (kept : Kept invariant) (before : invariant translator) (key : LoadKey)
    (number : Nat) (outcome : LoadOutcome) :
    invariant (translator.settle key number outcome).2 := by
  have unloaded := kept.unload before key number outcome
  unfold Translator.settle
  generalize translator.unload key number outcome = result at unloaded
  obtain ⟨own, after⟩ := result
  cases own with
  | true => exact kept.report unloaded key _
  | false => exact unloaded

theorem perform (kept : Kept invariant) (before : invariant translator) (now : Int64)
    (key : LoadKey) : invariant (translator.perform now key).2 := by
  have entered := kept.enter before now key
  unfold Translator.perform
  generalize translator.enter now key = result at entered
  obtain ⟨entry, after⟩ := result
  cases entry with
  | answered result => exact entered
  | boarded flight => exact kept.settle (kept.world entered _) ..

theorem changeLocale (kept : Kept invariant) (before : invariant translator) (now : Int64)
    (locale : String) : invariant (translator.changeLocale now locale).2 := by
  unfold Translator.changeLocale
  simp only
  split
  · have loaded := kept.perform before now (localeKey (Locale.normalize locale))
    unfold loadLocale
    generalize translator.perform now (localeKey (Locale.normalize locale)) = result at loaded
    obtain ⟨result, after⟩ := result
    cases result with
    | ok _ => exact kept.setLocale loaded _
    | error error => exact loaded
  · exact kept.setLocale before _

theorem loadAll (kept : Kept invariant) (before : invariant translator) (now : Int64)
    (locales : List String) : invariant (Translator.loadAll now locales translator).2 := by
  induction locales generalizing translator with
  | nil => exact before
  | cons locale locales ih =>
      have loaded := kept.perform before now (localeKey locale)
      unfold Translator.loadAll loadLocale
      generalize translator.perform now (localeKey locale) = result at loaded
      obtain ⟨result, after⟩ := result
      cases result with
      | ok _ => exact ih loaded
      | error error => exact ih loaded

theorem loadChain (kept : Kept invariant) (before : invariant translator) (now : Int64) :
    invariant (translator.loadChain now).2 := by
  unfold Translator.loadChain
  split
  · exact before
  · exact kept.loadAll before now _

theorem board (kept : Kept invariant) (before : invariant translator) (now : Int64) (key : LoadKey)
    (rest : Rest) {next : Except Error Unit → Translator σ → Stage σ × Translator σ}
    (goesOn : ∀ result translator, invariant translator → invariant (next result translator).2) :
    invariant (translator.board now key rest next).2 := by
  have entered := kept.enter before now key
  unfold Translator.board
  generalize translator.enter now key = result at entered
  obtain ⟨entry, after⟩ := result
  cases entry with
  | answered result => exact goesOn result after entered
  | boarded flight =>
      simp only
      split
      · exact goesOn _ _ (kept.settle entered ..)
      · exact entered

theorem loadMore (kept : Kept invariant) (before : invariant translator) (now : Int64)
    (locales failed : List String) :
    invariant (Translator.loadMore now locales failed translator).2 := by
  induction locales generalizing failed translator with
  | nil => exact before
  | cons locale locales ih =>
      exact kept.board before now _ _ fun result translator between => ih between _

theorem resume (kept : Kept invariant) (before : invariant translator) (now : Int64) (rest : Rest)
    (result : Except Error Unit) :
    invariant (Translator.resume now rest result translator).2 := by
  unfold Translator.resume
  split
  · exact before
  · exact kept.setLocale before _
  · exact before
  · exact kept.loadMore before now _ _

theorem begin (kept : Kept invariant) (before : invariant translator) (now : Int64) (call : Call) :
    invariant (translator.begin now call).2 := by
  cases call with
  | loadLocale locale =>
      exact kept.board before now _ _ fun result _ between => kept.resume between now _ result
  | changeLocale locale =>
      unfold Translator.begin
      simp only
      split
      · exact kept.board before now _ _ fun result _ between => kept.resume between now _ result
      · exact kept.setLocale before _
  | loadChain =>
      unfold Translator.begin
      simp only
      split
      · exact before
      · exact kept.loadMore before now _ _
  | loadNamespace name =>
      exact kept.board before now _ _ fun result _ between => kept.resume between now _ result

theorem beginAll (kept : Kept invariant) (before : invariant translator) (now : Int64)
    (calls : List Call) : invariant (Translator.beginAll now calls translator).2 := by
  induction calls generalizing translator with
  | nil => exact before
  | cons call calls ih => exact ih (kept.begin before now call)

theorem wakeAll (kept : Kept invariant) (before : invariant translator) (now : Int64)
    (stages : List (Stage σ)) : invariant (Translator.wakeAll now stages translator).2 := by
  induction stages generalizing translator with
  | nil => exact before
  | cons stage stages ih =>
      cases stage with
      | answered answer => exact ih before
      | waiting call =>
          exact ih (kept.resume (kept.settle (kept.world before _) ..) now call.rest _)

theorem rounds (kept : Kept invariant) (now : Int64) (stages : List (Stage σ))
    (before : invariant translator) : invariant (Translator.rounds now stages translator).2 := by
  fun_induction Translator.rounds now stages translator with
  | case1 stages translator answers answered => exact before
  | case2 stages translator waits next ih =>
      exact ih (kept.wakeAll (kept.landAll before now) now _)

theorem overlap (kept : Kept invariant) (before : invariant translator) (now : Int64)
    (calls : List Call) : invariant (translator.overlap now calls).2 :=
  kept.rounds now _ (kept.beginAll before now calls)

theorem step (kept : Kept invariant) {traffic : Traffic σ} (before : invariant traffic.translator)
    (move : Traffic.Move) : invariant (traffic.step move).translator := by
  cases move with
  | enter now key =>
      have entered := kept.enter before now key
      simp only [Traffic.step, Traffic.enter]
      generalize traffic.translator.enter now key = result at entered
      obtain ⟨entry, after⟩ := result
      cases entry with
      | answered result => exact entered
      | boarded flight => exact entered
  | land now key =>
      simp only [Traffic.step, Traffic.land]
      split
      · next found => exact kept.land before now key _ found
      · exact before
  | unload caller =>
      simp only [Traffic.step, Traffic.unload]
      split
      · exact kept.unload before ..
      · exact before
  | leave caller =>
      simp only [Traffic.step, Traffic.leave]
      split
      · next own _ =>
          cases own with
          | true => exact kept.report before ..
          | false => exact before
      · exact before
  | giveUp caller =>
      simp only [Traffic.step, Traffic.giveUp]
      split
      · exact before
      · exact before
  | setLocale locale => exact kept.setLocale before locale

theorem run (kept : Kept invariant) {traffic : Traffic σ} (before : invariant traffic.translator)
    (moves : List Traffic.Move) : invariant (traffic.run moves).translator := by
  induction moves generalizing traffic with
  | nil => exact before
  | cons move moves ih => exact ih (kept.step before move)

theorem handle (kept : Kept invariant) (before : invariant translator) (request : Request σ) :
    invariant (translator.handle request) := by
  cases request with
  | setLocale locale => exact kept.setLocale before locale
  | load now call =>
      cases call with
      | loadLocale locale => exact kept.perform before now _
      | changeLocale locale => exact kept.changeLocale before now locale
      | loadChain => exact kept.loadChain before now
      | loadNamespace name => exact kept.perform before now _
  | overlap now calls => exact kept.overlap before now calls
  | steps callers log moves =>
      have started : invariant (⟨translator, callers, log⟩ : Traffic σ).translator := before
      exact kept.run started moves
  | translate key =>
      obtain ⟨world, asked⟩ := translator.translate_beside key
      show invariant (translator.translate key).2
      rw [asked]
      exact kept.world before world
  | translateWith key params =>
      obtain ⟨formatter, world, asked⟩ := translator.translateWith_beside key params
      show invariant (translator.translateWith key params).2
      rw [asked]
      exact kept.aside before formatter world
  | format template locale params => exact kept.withFormatter before _
  | clearFormatter => exact kept.withFormatter before _

theorem after (kept : Kept invariant) (before : invariant translator)
    (requests : List (Request σ)) : invariant (translator.after requests) := by
  induction requests generalizing translator with
  | nil => exact before
  | cons request requests ih => exact ih (kept.handle before request)

end Kept

/-- A load under way is one that the source for its key has started, and nothing is held yet. -/
def Sourced (translator : Translator σ) : Prop :=
  ∀ key flight, translator.flights.find? key = some flight →
    translator.holds key = false ∧
      ∃ start, translator.starter key = .ok start ∧ Progress.Of start flight.progress

theorem quiet_sourced (first : Translator σ) : Sourced (Traffic.quiet first).translator := by
  intro key flight found
  simp only [Traffic.quiet, Flights.find?_empty] at found
  contradiction

theorem landAll_of_get? (now : Int64) {entries : List (LoadKey × Flight σ)} (world : σ)
    {key : LoadKey} {landed : Flight σ}
    (found : Keyed.get? key (Flights.landAll now entries world).1 = some landed) :
    ∃ flight world, Keyed.get? key entries = some flight ∧ landed = (flight.land now world).1 := by
  induction entries generalizing world with
  | nil => simp [Flights.landAll, Keyed.get?] at found
  | cons entry entries ih =>
      obtain ⟨name, flight⟩ := entry
      simp only [Flights.landAll, Keyed.get?] at found ⊢
      by_cases here : name = key
      · rw [if_pos here, Option.some.injEq] at found
        exact ⟨flight, world, if_pos here, found.symm⟩
      · rw [if_neg here] at found
        rw [if_neg here]
        exact ih _ found

namespace Sourced

theorem beside (sourced : Sourced translator) (locale : String) (formatter : TemplateFormatter)
    (world : σ) : Sourced { translator with locale, formatter, world } := by
  intro key flight found
  obtain ⟨unheld, start, startable, origin⟩ := sourced key flight found
  exact ⟨by cases key <;> exact unheld, start, startable, origin⟩

theorem enter (sourced : Sourced translator) (now : Int64) (key : LoadKey) :
    Sourced (translator.enter now key).2 := by
  unfold Translator.enter
  cases startable : translator.starter key with
  | error error => exact sourced
  | ok start =>
      cases underWay : translator.flights.find? key with
      | some flight => exact sourced
      | none =>
          cases held : translator.holds key with
          | true => exact sourced
          | false =>
              intro other flight found
              -- the one load that is new has just been started
              simp only [Bool.false_eq_true, if_false, Flights.find?_depart] at found
              split at found
              · next same =>
                  subst same
                  cases found
                  exact ⟨held, start, startable, .started now translator.world⟩
              · exact sourced other flight found

theorem land (sourced : Sourced translator) (now : Int64) (key : LoadKey) (flight : Flight σ)
    (underWay : translator.flights.find? key = some flight) :
    Sourced { translator with
      flights := { translator.flights with
        pending := Keyed.put key (flight.land now translator.world).1 translator.flights.pending }
      world := (flight.land now translator.world).2 } := by
  intro other landed found
  simp only [Flights.find?, Keyed.get?_put] at found
  split at found
  · next same =>
      subst same
      cases found
      obtain ⟨unheld, start, startable, origin⟩ := sourced _ _ underWay
      exact ⟨unheld, start, startable, .ended now translator.world origin⟩
  · exact sourced other landed found

theorem landAll (sourced : Sourced translator) (now : Int64) :
    Sourced (translator.landAll now) := by
  intro key landed found
  obtain ⟨flight, world, underWay, rfl⟩ := landAll_of_get? now translator.world found
  obtain ⟨unheld, start, startable, origin⟩ := sourced key flight underWay
  exact ⟨unheld, start, startable, .ended now world origin⟩

theorem unload (sourced : Sourced translator) (key : LoadKey) (number : Nat)
    (outcome : LoadOutcome) : Sourced (translator.unload key number outcome).2 := by
  rcases translator.unload_cases key number outcome with
    ⟨progress, underWay, unloaded⟩ | ⟨_, unloaded⟩
  · rw [unloaded]
    intro other flight found
    have unchanged : (({ translator with
        flights := { translator.flights with
          pending := Keyed.erase key translator.flights.pending } } : Translator σ).commit key
            outcome).flights.find? other =
        if other = key then none else translator.flights.find? other := by
      cases outcome <;> exact Keyed.get?_erase ..
    rw [unchanged] at found
    split at found
    · contradiction
    · next different =>
        obtain ⟨unheld, start, startable, origin⟩ := sourced other flight found
        refine ⟨?_, start, ?_, origin⟩
        · -- what was stored is held for its own key only
          refine Bool.eq_false_iff.mpr fun held => ?_
          have merged := Traffic.merged_of_commit different (Traffic.merged_of_holds held)
          exact Traffic.not_merged_of_free unheld merged
        · cases outcome <;> exact startable
  · rw [unloaded]
    exact sourced

end Sourced

theorem sourced_kept : Kept (σ := σ) Sourced where
  enter sourced := sourced.enter
  land sourced := sourced.land
  landAll sourced := sourced.landAll
  unload sourced := sourced.unload
  setLocale sourced locale := sourced.beside (Locale.normalize locale) _ _
  aside sourced formatter world := sourced.beside _ formatter world

theorem after_sourced (first : Translator σ) (requests : List (Request σ)) :
    Sourced ((Traffic.quiet first).translator.after requests) :=
  sourced_kept.after (quiet_sourced first) requests

end Translator

end Phrasebook
