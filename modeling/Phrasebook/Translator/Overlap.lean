import Phrasebook.Translator.Loading

namespace Phrasebook.Translator

/-! Calls that overlap in time.

All calls are started in order, and each goes on until its load is in the air.  Then all loads end
together, the calls go on in order until they have to wait again, and so forth.  A call never has
more loads left than it had when it was started, so all of them end.
-/

inductive Call where
  | loadLocale (locale : String)
  | changeLocale (locale : String)
  | loadChain
  | loadNamespace (name : String)

inductive Rest where
  | answer
  | setLocale (locale : String)
  /-- Load more locales; the one that was loaded, those that are left, and those that failed. -/
  | loadMore (locale : String) (locales failed : List String)

def Rest.loadsLeft : Rest → Nat
  | .answer => 0
  | .setLocale _ => 0
  | .loadMore _ locales _ => locales.length

structure Waiting (σ : Type) where
  key : LoadKey
  flight : Flight σ
  rest : Rest

/-- An answer names the locales that could not be loaded, where there may be several. -/
abbrev Answer := Except Error (List String)

inductive Stage (σ : Type) where
  | answered (answer : Answer)
  | waiting (call : Waiting σ)

def Stage.loadsLeft : Stage σ → Nat
  | .answered _ => 0
  | .waiting call => call.rest.loadsLeft + 1

/-- Enter for the load of a key.  Where nothing has to be waited for, go on with its result. -/
def board (translator : Translator σ) (now : Int64) (key : LoadKey) (rest : Rest)
    (next : Except Error Unit → Translator σ → Stage σ × Translator σ) :
    Stage σ × Translator σ :=
  match translator.enter now key with
  | (.answered result, translator) => next result translator
  | (.boarded flight, translator) =>
      match flight.progress with
      | .settled outcome =>
          let (result, translator) := translator.settle key flight.number outcome
          next result translator
      | .awaiting _ => (.waiting ⟨key, flight, rest⟩, translator)

def failedAfter (locale : String) (failed : List String) : Except Error Unit → List String
  | .ok () => failed
  | .error _ => failed ++ [locale]

/-- Load locales until one has to be waited for. -/
def loadMore (now : Int64) :
    List String → List String → Translator σ → Stage σ × Translator σ
  | [], failed, translator => (.answered (.ok failed), translator)
  | locale :: locales, failed, translator =>
      translator.board now (localeKey locale) (.loadMore locale locales failed) fun result =>
        loadMore now locales (failedAfter locale failed result)

def resume (now : Int64) (rest : Rest) (result : Except Error Unit) (translator : Translator σ) :
    Stage σ × Translator σ :=
  match rest, result with
  | .answer, result => (.answered (result.map fun _ => []), translator)
  | .setLocale locale, .ok () => (.answered (.ok []), translator.setLocale locale)
  | .setLocale _, .error error => (.answered (.error error), translator)
  | .loadMore locale locales failed, result =>
      loadMore now locales (failedAfter locale failed result) translator

def begin (translator : Translator σ) (now : Int64) : Call → Stage σ × Translator σ
  | .loadLocale locale => translator.board now (localeKey locale) .answer (resume now .answer)
  | .changeLocale locale =>
      let locale := Locale.normalize locale
      if translator.needsLoad locale then
        translator.board now (localeKey locale) (.setLocale locale)
          (resume now (.setLocale locale))
      else
        (.answered (.ok []), translator.setLocale locale)
  | .loadChain =>
      if translator.source.isNone then (.answered (.error missingChainSource), translator)
      else loadMore now translator.chain [] translator
  | .loadNamespace name =>
      translator.board now (translator.fragmentKey name) .answer (resume now .answer)

def beginAll (now : Int64) : List Call → Translator σ → List (Stage σ) × Translator σ
  | [], translator => ([], translator)
  | call :: calls, translator =>
      let (stage, translator) := translator.begin now call
      let (stages, translator) := beginAll now calls translator
      (stage :: stages, translator)

def landAll (translator : Translator σ) (now : Int64) : Translator σ :=
  let (pending, world) := Flights.landAll now translator.flights.pending translator.world
  { translator with flights := { translator.flights with pending }, world }

def Waiting.refreshed (call : Waiting σ) (flights : Flights LoadKey σ) : Waiting σ :=
  { call with flight := flights.latest call.key call.flight }

def Stage.refreshed (flights : Flights LoadKey σ) : Stage σ → Stage σ
  | .answered answer => .answered answer
  | .waiting call => .waiting (call.refreshed flights)

def wake (now : Int64) (call : Waiting σ) (translator : Translator σ) :
    Stage σ × Translator σ :=
  let (outcome, world) := call.flight.progress.finish now translator.world
  let (result, translator) :=
    { translator with world }.settle call.key call.flight.number outcome
  resume now call.rest result translator

def wakeAll (now : Int64) : List (Stage σ) → Translator σ → List (Stage σ) × Translator σ
  | [], translator => ([], translator)
  | .answered answer :: stages, translator =>
      let (stages, translator) := wakeAll now stages translator
      (.answered answer :: stages, translator)
  | .waiting call :: stages, translator =>
      let (stage, translator) := wake now call translator
      let (stages, translator) := wakeAll now stages translator
      (stage :: stages, translator)

/-- From the end of all loads in the air to the next time that all calls wait. -/
def round (now : Int64) (stages : List (Stage σ)) (translator : Translator σ) :
    List (Stage σ) × Translator σ :=
  let translator := translator.landAll now
  wakeAll now (stages.map (Stage.refreshed translator.flights)) translator

/-- The loads that are left to be started or to end. -/
def loadsLeft : List (Stage σ) → Nat
  | [] => 0
  | stage :: stages => stage.loadsLeft + loadsLeft stages

def answers? : List (Stage σ) → Option (List Answer)
  | [] => some []
  | .answered answer :: stages => (answers? stages).map (answer :: ·)
  | .waiting _ :: _ => none

theorem board_loadsLeft {translator : Translator σ} {now : Int64} {key : LoadKey} {rest : Rest}
    {next : Except Error Unit → Translator σ → Stage σ × Translator σ} {bound : Nat}
    (waits : rest.loadsLeft + 1 ≤ bound)
    (goesOn : ∀ result translator, (next result translator).1.loadsLeft ≤ bound) :
    (translator.board now key rest next).1.loadsLeft ≤ bound := by
  unfold board
  split
  · exact goesOn ..
  · split
    · exact goesOn ..
    · exact waits

theorem loadMore_loadsLeft (now : Int64) (locales failed : List String)
    (translator : Translator σ) :
    (loadMore now locales failed translator).1.loadsLeft ≤ locales.length := by
  induction locales generalizing failed translator with
  | nil => exact Nat.le_refl 0
  | cons locale locales ih =>
      refine board_loadsLeft (Nat.le_refl _) fun result next => ?_
      exact Nat.le_succ_of_le (ih ..)

theorem resume_loadsLeft (now : Int64) (rest : Rest) (result : Except Error Unit)
    (translator : Translator σ) :
    (resume now rest result translator).1.loadsLeft ≤ rest.loadsLeft := by
  unfold resume
  split
  · exact Nat.le_refl 0
  · exact Nat.le_refl 0
  · exact Nat.le_refl 0
  · exact loadMore_loadsLeft ..

theorem wake_loadsLeft (now : Int64) (call : Waiting σ) (translator : Translator σ) :
    (wake now call translator).1.loadsLeft ≤ call.rest.loadsLeft :=
  resume_loadsLeft ..

theorem refreshed_loadsLeft (flights : Flights LoadKey σ) (stage : Stage σ) :
    (stage.refreshed flights).loadsLeft = stage.loadsLeft := by
  cases stage with
  | answered answer => rfl
  | waiting call => rfl

theorem wakeAll_loadsLeft (now : Int64) (stages : List (Stage σ)) (translator : Translator σ) :
    loadsLeft (wakeAll now stages translator).1 ≤ loadsLeft stages := by
  induction stages generalizing translator with
  | nil => exact Nat.le_refl 0
  | cons stage stages ih =>
      cases stage with
      | answered answer =>
          simpa [wakeAll, loadsLeft] using ih translator
      | waiting call =>
          have first := wake_loadsLeft now call translator
          have others := ih (wake now call translator).2
          simp only [wakeAll, loadsLeft, Stage.loadsLeft] at *
          exact Nat.add_le_add (Nat.le_succ_of_le first) others

theorem wakeAll_loadsLeft_lt (now : Int64) {stages : List (Stage σ)}
    (waits : answers? stages = none) (translator : Translator σ) :
    loadsLeft (wakeAll now stages translator).1 < loadsLeft stages := by
  induction stages generalizing translator with
  | nil => simp [answers?] at waits
  | cons stage stages ih =>
      cases stage with
      | answered answer =>
          simp only [answers?, Option.map_eq_none_iff] at waits
          simpa [wakeAll, loadsLeft] using ih waits translator
      | waiting call =>
          have first := wake_loadsLeft now call translator
          have others := wakeAll_loadsLeft now stages (wake now call translator).2
          simp only [wakeAll, loadsLeft, Stage.loadsLeft] at *
          exact Nat.add_lt_add_of_lt_of_le (Nat.lt_succ_of_le first) others

theorem answers?_refreshed (flights : Flights LoadKey σ) (stages : List (Stage σ)) :
    answers? (stages.map (Stage.refreshed flights)) = answers? stages := by
  induction stages with
  | nil => rfl
  | cons stage stages ih => cases stage <;> simp [Stage.refreshed, answers?, ih]

theorem map_refreshed_loadsLeft (flights : Flights LoadKey σ) (stages : List (Stage σ)) :
    loadsLeft (stages.map (Stage.refreshed flights)) = loadsLeft stages := by
  induction stages with
  | nil => rfl
  | cons stage stages ih => simp only [List.map_cons, loadsLeft, refreshed_loadsLeft, ih]

theorem round_loadsLeft (now : Int64) {stages : List (Stage σ)} (waits : answers? stages = none)
    (translator : Translator σ) :
    loadsLeft (round now stages translator).1 < loadsLeft stages := by
  rw [← map_refreshed_loadsLeft (translator.landAll now).flights stages]
  exact wakeAll_loadsLeft_lt now (by rwa [answers?_refreshed]) _

def rounds (now : Int64) (stages : List (Stage σ)) (translator : Translator σ) :
    List Answer × Translator σ :=
  match _ : answers? stages with
  | some answers => (answers, translator)
  | none =>
      let next := round now stages translator
      rounds now next.1 next.2
termination_by loadsLeft stages
decreasing_by exact round_loadsLeft now (by assumption) translator

def overlap (translator : Translator σ) (now : Int64) (calls : List Call) :
    List Answer × Translator σ :=
  let (stages, translator) := beginAll now calls translator
  rounds now stages translator

end Phrasebook.Translator
