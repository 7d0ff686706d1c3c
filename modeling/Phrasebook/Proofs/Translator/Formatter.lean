import Phrasebook.Proofs.Traffic.Basic
import Phrasebook.Translator.Overlap

namespace Phrasebook

namespace Translator

variable {σ : Type} {α : Type}

def withFormatter (translator : Translator σ) (formatter : TemplateFormatter) : Translator σ :=
  { translator with formatter }

/-- A result with another formatter in the translator. -/
def exchanged (formatter : TemplateFormatter) (result : α × Translator σ) : α × Translator σ :=
  (result.1, result.2.withFormatter formatter)

variable (translator : Translator σ) (formatter : TemplateFormatter) (now : Int64)
  (key : LoadKey)

@[simp] theorem withFormatter_flights :
    (translator.withFormatter formatter).flights = translator.flights := rfl

@[simp] theorem withFormatter_source :
    (translator.withFormatter formatter).source = translator.source := rfl

@[simp] theorem withFormatter_chain :
    (translator.withFormatter formatter).chain = translator.chain := by
  simp only [chain, withFormatter]

@[simp] theorem withFormatter_resolve (name : String) :
    (translator.withFormatter formatter).resolve name = translator.resolve name := by
  simp only [resolve, chain, withFormatter]

@[simp] theorem withFormatter_fragmentKey (name : String) :
    (translator.withFormatter formatter).fragmentKey name = translator.fragmentKey name := rfl

@[simp] theorem withFormatter_starter :
    (translator.withFormatter formatter).starter key = translator.starter key := rfl

@[simp] theorem withFormatter_holds :
    (translator.withFormatter formatter).holds key = translator.holds key := by
  cases key <;> rfl

@[simp] theorem withFormatter_needsLoad (locale : String) :
    (translator.withFormatter formatter).needsLoad locale = translator.needsLoad locale := rfl

theorem setLocale_withFormatter (locale : String) :
    (translator.withFormatter formatter).setLocale locale =
      (translator.setLocale locale).withFormatter formatter := by
  simp only [setLocale, withFormatter]

theorem enter_withFormatter :
    (translator.withFormatter formatter).enter now key =
      exchanged formatter (translator.enter now key) := by
  unfold enter
  simp only [withFormatter_starter, withFormatter_holds, withFormatter_flights]
  cases translator.starter key with
  | error error => rfl
  | ok start =>
      cases translator.flights.find? key with
      | some flight => rfl
      | none => cases translator.holds key <;> rfl

theorem unload_withFormatter (number : Nat) (outcome : LoadOutcome) :
    (translator.withFormatter formatter).unload key number outcome =
      exchanged formatter (translator.unload key number outcome) := by
  unfold unload
  rw [withFormatter_flights]
  generalize translator.flights.settle key number = settled
  obtain ⟨own, flights⟩ := settled
  cases own with
  | true => cases outcome <;> rfl
  | false => rfl

theorem report_withFormatter (result : Except Error Unit) :
    (translator.withFormatter formatter).report key result =
      (translator.report key result).withFormatter formatter := by
  cases result <;> rfl

theorem settle_withFormatter (number : Nat) (outcome : LoadOutcome) :
    (translator.withFormatter formatter).settle key number outcome =
      exchanged formatter (translator.settle key number outcome) := by
  unfold settle
  rw [unload_withFormatter]
  generalize translator.unload key number outcome = unloaded
  obtain ⟨own, unloaded⟩ := unloaded
  cases own with
  | true => simp only [exchanged, report_withFormatter]
  | false => rfl

theorem perform_withFormatter :
    (translator.withFormatter formatter).perform now key =
      exchanged formatter (translator.perform now key) := by
  unfold perform
  rw [enter_withFormatter]
  generalize translator.enter now key = entered
  obtain ⟨entry, entered⟩ := entered
  cases entry with
  | answered result => rfl
  | boarded flight => exact settle_withFormatter { entered with world := _ } ..

theorem changeLocale_withFormatter (locale : String) :
    (translator.withFormatter formatter).changeLocale now locale =
      exchanged formatter (translator.changeLocale now locale) := by
  unfold changeLocale loadLocale
  generalize Locale.normalize locale = name
  simp only [withFormatter_needsLoad, perform_withFormatter, setLocale_withFormatter]
  cases translator.needsLoad name with
  | false => simp only [exchanged, Bool.false_eq_true, if_false]
  | true =>
      generalize translator.perform now (localeKey name) = performed
      obtain ⟨result, performed⟩ := performed
      cases result with
      | ok _ => simp only [exchanged, setLocale_withFormatter, if_true]
      | error error => rfl

theorem loadAll_withFormatter (locales : List String) :
    loadAll now locales (translator.withFormatter formatter) =
      exchanged formatter (loadAll now locales translator) := by
  induction locales generalizing translator with
  | nil => rfl
  | cons locale locales ih =>
      unfold loadAll loadLocale
      rw [perform_withFormatter]
      generalize translator.perform now (localeKey locale) = performed
      obtain ⟨result, performed⟩ := performed
      cases result with
      | ok _ => exact ih performed
      | error error =>
          simp only [exchanged, ih performed]

theorem loadChain_withFormatter :
    (translator.withFormatter formatter).loadChain now =
      exchanged formatter (translator.loadChain now) := by
  unfold loadChain
  rw [withFormatter_source, withFormatter_chain, loadAll_withFormatter]
  cases translator.source.isNone <;> rfl

theorem board_withFormatter (rest : Rest)
    (next : Except Error Unit → Translator σ → Stage σ × Translator σ)
    (exchanges : ∀ result after,
      next result (after.withFormatter formatter) = exchanged formatter (next result after)) :
    (translator.withFormatter formatter).board now key rest next =
      exchanged formatter (translator.board now key rest next) := by
  unfold board
  rw [enter_withFormatter]
  generalize translator.enter now key = entered
  obtain ⟨entry, entered⟩ := entered
  cases entry with
  | answered result => exact exchanges result entered
  | boarded flight =>
      obtain ⟨number, progress⟩ := flight
      cases progress with
      | awaiting finish => rfl
      | settled outcome =>
          simp only [exchanged, settle_withFormatter]
          exact exchanges ..

theorem loadMore_withFormatter (locales failed : List String) :
    loadMore now locales failed (translator.withFormatter formatter) =
      exchanged formatter (loadMore now locales failed translator) := by
  induction locales generalizing translator failed with
  | nil => rfl
  | cons locale locales ih =>
      exact board_withFormatter _ _ _ _ _ _ fun result after => ih after _

theorem resume_withFormatter (rest : Rest) (result : Except Error Unit) :
    resume now rest result (translator.withFormatter formatter) =
      exchanged formatter (resume now rest result translator) := by
  cases rest with
  | answer => rfl
  | setLocale locale =>
      cases result with
      | ok _ => simp only [resume, setLocale_withFormatter, exchanged]
      | error error => rfl
  | loadMore locale locales failed => exact loadMore_withFormatter ..

theorem begin_withFormatter (call : Call) :
    (translator.withFormatter formatter).begin now call =
      exchanged formatter (translator.begin now call) := by
  cases call with
  | loadLocale locale =>
      exact board_withFormatter _ _ _ _ _ _ fun result after => resume_withFormatter ..
  | changeLocale locale =>
      simp only [begin]
      generalize Locale.normalize locale = name
      rw [withFormatter_needsLoad]
      cases translator.needsLoad name with
      | false => simp only [exchanged, setLocale_withFormatter, Bool.false_eq_true, if_false]
      | true => exact board_withFormatter _ _ _ _ _ _ fun result after => resume_withFormatter ..
  | loadChain =>
      simp only [begin]
      by_cases none : translator.source.isNone = true
      · have noneThere : (translator.withFormatter formatter).source.isNone = true := none
        rw [if_pos none, if_pos noneThere]
        rfl
      · have someThere : ¬ (translator.withFormatter formatter).source.isNone = true := none
        rw [if_neg none, if_neg someThere, withFormatter_chain]
        exact loadMore_withFormatter ..
  | loadNamespace name =>
      exact board_withFormatter _ _ _ _ _ _ fun result after => resume_withFormatter ..

theorem beginAll_withFormatter (calls : List Call) :
    beginAll now calls (translator.withFormatter formatter) =
      exchanged formatter (beginAll now calls translator) := by
  induction calls generalizing translator with
  | nil => rfl
  | cons call calls ih =>
      simp only [beginAll, begin_withFormatter, exchanged, ih]

theorem wake_withFormatter (call : Waiting σ) :
    wake now call (translator.withFormatter formatter) =
      exchanged formatter (wake now call translator) := by
  have settles : ∀ world outcome,
      ({ translator.withFormatter formatter with world } : Translator σ).settle call.key
          call.flight.number outcome =
        exchanged formatter
          (({ translator with world } : Translator σ).settle call.key call.flight.number
            outcome) := fun world outcome =>
    settle_withFormatter { translator with world } formatter _ _ _
  simp only [wake]
  rw [settles]
  exact resume_withFormatter ..

theorem wakeAll_withFormatter (stages : List (Stage σ)) :
    wakeAll now stages (translator.withFormatter formatter) =
      exchanged formatter (wakeAll now stages translator) := by
  induction stages generalizing translator with
  | nil => rfl
  | cons stage stages ih =>
      cases stage with
      | answered answer => simp only [wakeAll, exchanged, ih]
      | waiting call => simp only [wakeAll, wake_withFormatter, exchanged, ih]

theorem round_withFormatter (stages : List (Stage σ)) :
    round now stages (translator.withFormatter formatter) =
      exchanged formatter (round now stages translator) :=
  wakeAll_withFormatter (translator.landAll now) ..

theorem rounds_of_some {stages : List (Stage σ)} {answers : List Answer}
    (allAnswered : answers? stages = some answers) :
    rounds now stages translator = (answers, translator) := by
  rw [rounds]
  split
  · next found =>
      rw [allAnswered] at found
      cases found
      rfl
  · next waits =>
      rw [allAnswered] at waits
      contradiction

theorem rounds_of_none {stages : List (Stage σ)} (waits : answers? stages = none) :
    rounds now stages translator =
      rounds now (round now stages translator).1 (round now stages translator).2 := by
  rw [rounds]
  split
  · next found =>
      rw [waits] at found
      contradiction
  · rfl

theorem rounds_withFormatter (stages : List (Stage σ)) :
    rounds now stages (translator.withFormatter formatter) =
      exchanged formatter (rounds now stages translator) := by
  -- along the rounds themselves, as they may be many
  induction stages, translator using rounds.induct now with
  | case1 stages translator answers allAnswered =>
      rw [rounds_of_some _ _ allAnswered, rounds_of_some _ _ allAnswered]
      rfl
  | case2 stages translator waits next ih =>
      rw [rounds_of_none _ _ waits, rounds_of_none _ _ waits, round_withFormatter]
      exact ih

theorem overlap_withFormatter (calls : List Call) :
    (translator.withFormatter formatter).overlap now calls =
      exchanged formatter (translator.overlap now calls) := by
  simp only [overlap, beginAll_withFormatter, exchanged, rounds_withFormatter]

end Translator

namespace Traffic

variable {σ : Type}

def withFormatter (traffic : Traffic σ) (formatter : TemplateFormatter) : Traffic σ :=
  { traffic with translator := traffic.translator.withFormatter formatter }

theorem step_withFormatter (traffic : Traffic σ) (formatter : TemplateFormatter) (move : Move) :
    (traffic.withFormatter formatter).step move =
      (traffic.step move).withFormatter formatter := by
  obtain ⟨translator, callers, log⟩ := traffic
  cases move with
  | enter now key =>
      simp only [step, enter, withFormatter, Translator.enter_withFormatter]
      generalize translator.enter now key = entered
      obtain ⟨entry, entered⟩ := entered
      cases entry <;> rfl
  | land now key =>
      simp only [step, land, withFormatter, Translator.withFormatter_flights]
      cases translator.flights.find? key with
      | none => rfl
      | some flight =>
          obtain ⟨number, progress⟩ := flight
          cases progress <;> rfl
  | unload caller =>
      simp only [step, unload, withFormatter]
      split
      · simp only [Translator.unload_withFormatter]
        rfl
      · rfl
  | leave caller =>
      simp only [step, leave, withFormatter]
      split
      · next own _ =>
          cases own with
          | true => simp only [Translator.report_withFormatter, if_true]
          | false => rfl
      · rfl
  | giveUp caller =>
      simp only [step, giveUp, withFormatter]
      split <;> rfl
  | setLocale locale =>
      simp only [step, withFormatter, Translator.setLocale_withFormatter]

theorem run_withFormatter (traffic : Traffic σ) (formatter : TemplateFormatter)
    (moves : List Move) :
    (traffic.withFormatter formatter).run moves = (traffic.run moves).withFormatter formatter := by
  induction moves generalizing traffic with
  | nil => rfl
  | cons move moves ih =>
      show ((traffic.withFormatter formatter).step move).run moves = _
      rw [step_withFormatter, ih]
      rfl

end Traffic

end Phrasebook
