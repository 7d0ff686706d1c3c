import Phrasebook.Proofs.Translator.UnderWay

namespace Phrasebook.Translator

variable {σ : Type} {translator middle after : Translator σ} {key other : LoadKey}

/-- A load that is started and ended. -/
def asked (start : Int64 → σ → Progress σ × σ) (now : Int64) (world : σ) : LoadOutcome × σ :=
  let (progress, world) := start now world
  progress.finish now world

def attempt (translator : Translator σ) (now : Int64) (key : LoadKey)
    (start : Int64 → σ → Progress σ × σ) : LoadOutcome × σ :=
  match translator.flights.find? key with
  | some flight => flight.progress.finish now translator.world
  | none => asked start now translator.world

/-- What is left by a call whose load has ended. -/
def concluded (translator : Translator σ) (key : LoadKey) (flights : Flights LoadKey σ)
    (ended : LoadOutcome × σ) : Translator σ :=
  (({ translator with flights, world := ended.2 } : Translator σ).commit key ended.1).report key
    (ended.1.map fun _ => ())

theorem asked_answers (start : Int64 → σ → Progress σ × σ) (now : Int64) (world : σ) :
    Answers start (asked start now world).1 :=
  ⟨(start now world).1, now, (start now world).2, .started now world, rfl⟩

theorem Sourced.attempt_answers (sourced : Sourced translator) (now : Int64)
    {start : Int64 → σ → Progress σ × σ} (startable : translator.starter key = .ok start) :
    Answers start (translator.attempt now key start).1 := by
  unfold attempt
  cases underWay : translator.flights.find? key with
  | none => exact asked_answers start now translator.world
  | some flight =>
      obtain ⟨_, starter, startableToo, origin⟩ := sourced key flight underWay
      rw [startable] at startableToo
      cases startableToo
      exact ⟨flight.progress, now, translator.world, origin, rfl⟩

theorem settle_of_find? {number : Nat} {progress : Progress σ}
    (underWay : translator.flights.find? key = some ⟨number, progress⟩) (outcome : LoadOutcome)
    (world : σ) :
    ({ translator with world } : Translator σ).settle key number outcome =
      (outcome.map fun _ => (),
        translator.concluded key
          { translator.flights with pending := Keyed.erase key translator.flights.pending }
          (outcome, world)) := by
  simp only [settle, unload, Flights.settle, underWay, if_true, concluded]

/-- A call for a key of which nothing is held has the result of its attempt, and the load of the
key is no longer under way after it. -/
theorem perform_of_unheld (now : Int64) {start : Int64 → σ → Progress σ × σ}
    (startable : translator.starter key = .ok start) (unheld : translator.holds key = false) :
    ∃ flights,
      flights.find? key = none ∧
      translator.perform now key =
        ((translator.attempt now key start).1.map fun _ => (),
          translator.concluded key flights (translator.attempt now key start)) := by
  unfold perform attempt
  cases underWay : translator.flights.find? key with
  | some flight =>
      have entered : translator.enter now key = (.boarded flight, translator) := by
        simp only [enter, startable, underWay]
      refine ⟨_, ?_, by simp only [entered]; exact settle_of_find? underWay _ _⟩
      exact (Keyed.get?_erase ..).trans (if_pos rfl)
  | none =>
      have entered : translator.enter now key =
          (.boarded ⟨translator.flights.started, (start now translator.world).1⟩,
            { translator with
              flights := (translator.flights.depart key (start now translator.world).1).2
              world := (start now translator.world).2 }) := by
        simp [enter, startable, underWay, unheld, Flights.depart]
      have departed := (translator.flights.find?_depart key key
        (start now translator.world).1).trans (if_pos rfl)
      refine ⟨{ (translator.flights.depart key (start now translator.world).1).2 with
        pending := Keyed.erase key
          (translator.flights.depart key (start now translator.world).1).2.pending },
        (Keyed.get?_erase ..).trans (if_pos rfl), ?_⟩
      simp only [entered, settle, unload, Flights.settle, departed, if_true, concluded, asked]

theorem Sourced.perform_cases (sourced : Sourced translator) (now : Int64) (key : LoadKey) :
    (∃ error, translator.starter key = .error error ∧
      translator.perform now key = (.error error, translator)) ∨
    (∃ start, translator.starter key = .ok start ∧
      translator.perform now key = (.ok (), translator)) ∨
    (∃ start flights, translator.starter key = .ok start ∧ translator.holds key = false ∧
      flights.find? key = none ∧
      translator.perform now key =
        ((translator.attempt now key start).1.map fun _ => (),
          translator.concluded key flights (translator.attempt now key start))) := by
  cases startable : translator.starter key with
  | error error =>
      exact .inl ⟨error, rfl, by simp only [Translator.perform, Translator.enter, startable]⟩
  | ok start =>
      refine .inr ?_
      cases held : translator.holds key with
      | true =>
          have none : translator.flights.find? key = none := by
            cases underWay : translator.flights.find? key with
            | none => rfl
            | some flight => simp [(sourced key flight underWay).1] at held
          exact .inl ⟨start, rfl, by
            simp [Translator.perform, Translator.enter, startable, none, held]⟩
      | false =>
          obtain ⟨flights, free, performed⟩ := perform_of_unheld now startable held
          exact .inr ⟨start, flights, rfl, rfl, free, performed⟩

def Present (store : MessageStore) : LoadKey → Prop
  | .locale name => store.hasLocale name = true
  | .fragment name => store.hasNamespace name.1 name.2 = true

theorem present_of_holds (held : translator.holds key = true) : Present translator.store key := by
  cases key with
  | locale name => simp [holds] at held
  | fragment name => exact held

theorem present_of_stored {dictionary : Dictionary} {store : MessageStore} (different : other ≠ key)
    (present : Present (other.stored dictionary store) key) : Present store key := by
  cases key with
  | locale name =>
      cases other with
      | locale locale =>
          rcases MessageStore.hasLocale_setLocale.mp present with rfl | loaded
          · exact absurd rfl different
          · exact loaded
      | fragment fragment => exact present
  | fragment name =>
      cases other with
      | locale locale => exact MessageStore.hasNamespace_of_setLocale present
      | fragment fragment =>
          rcases MessageStore.hasNamespace_mergeNamespace.mp present with ⟨left, right⟩ | marked
          · exact absurd (congrArg LoadKey.fragment (Prod.ext left.symm right.symm)) different
          · exact marked

/-- The key was not loaded on the way from one state to another. -/
structure Beside (key : LoadKey) (before after : Translator σ) : Prop where
  source : after.source = before.source
  namespaces : after.namespaces = before.namespaces
  flights : after.flights.find? key = before.flights.find? key
  present : Present after.store key → Present before.store key

namespace Beside

theorem refl (key : LoadKey) (translator : Translator σ) : Beside key translator translator :=
  ⟨rfl, rfl, rfl, id⟩

theorem trans (first : Beside key translator middle) (second : Beside key middle after) :
    Beside key translator after where
  source := second.source.trans first.source
  namespaces := second.namespaces.trans first.namespaces
  flights := second.flights.trans first.flights
  present := first.present ∘ second.present

theorem starter (beside : Beside key translator after) (name : LoadKey) :
    after.starter name = translator.starter name := by
  unfold Translator.starter
  rw [beside.source, beside.namespaces]

end Beside

theorem beside_elsewhere (translator : Translator σ) (locale : String)
    (formatter : TemplateFormatter) (world : σ) :
    Beside key translator { translator with locale, formatter, world } :=
  ⟨rfl, rfl, rfl, id⟩

theorem beside_setLocale (translator : Translator σ) (locale : String) :
    Beside key translator (translator.setLocale locale) :=
  beside_elsewhere translator (Locale.normalize locale) _ _

theorem beside_enter (now : Int64) (different : other ≠ key) :
    Beside key translator (translator.enter now other).2 := by
  rcases translator.enter_cases now other with
    ⟨result, entered, _⟩ | ⟨flight, entered, _⟩ | ⟨progress, world, entered, _⟩
  · rw [entered]
    exact .refl key translator
  · rw [entered]
    exact .refl key translator
  · rw [entered]
    exact ⟨rfl, rfl, (Flights.find?_depart ..).trans (if_neg (Ne.symm different)), id⟩

theorem beside_unload (number : Nat) (outcome : LoadOutcome) (different : other ≠ key) :
    Beside key translator (translator.unload other number outcome).2 := by
  rcases translator.unload_cases other number outcome with ⟨progress, _, unloaded⟩ | ⟨_, unloaded⟩
  · rw [unloaded]
    have kept := (Keyed.get?_erase other key translator.flights.pending).trans
      (if_neg (Ne.symm different))
    cases outcome with
    | error error => exact ⟨rfl, rfl, kept, id⟩
    | ok dictionary => exact ⟨rfl, rfl, kept, present_of_stored different⟩
  · rw [unloaded]
    exact .refl key translator

theorem beside_report (translator : Translator σ) (result : Except Error Unit) :
    Beside key translator (translator.report other result) := by
  cases result with
  | ok _ => exact ⟨rfl, rfl, rfl, id⟩
  | error error => exact ⟨rfl, rfl, rfl, id⟩

theorem beside_settle (number : Nat) (outcome : LoadOutcome) (different : other ≠ key) :
    Beside key translator (translator.settle other number outcome).2 := by
  have unloads : Beside key translator (translator.unload other number outcome).2 :=
    beside_unload number outcome different
  unfold settle
  generalize translator.unload other number outcome = result at unloads
  obtain ⟨own, after⟩ := result
  cases own with
  | true => exact unloads.trans (beside_report after _)
  | false => exact unloads

theorem beside_perform (now : Int64) (different : other ≠ key) :
    Beside key translator (translator.perform now other).2 := by
  have enters : Beside key translator (translator.enter now other).2 := beside_enter now different
  unfold perform
  generalize translator.enter now other = result at enters
  obtain ⟨entry, entered⟩ := result
  cases entry with
  | answered result => exact enters
  | boarded flight =>
      exact (enters.trans (beside_elsewhere entered _ _ _)).trans (beside_settle _ _ different)

theorem beside_changeLocale (now : Int64) {locale : String}
    (different : localeKey (Locale.normalize locale) ≠ key) :
    Beside key translator (translator.changeLocale now locale).2 := by
  have performs : Beside key translator
      (translator.perform now (localeKey (Locale.normalize locale))).2 :=
    beside_perform now different
  unfold changeLocale loadLocale
  simp only
  split
  · generalize translator.perform now (localeKey (Locale.normalize locale)) = result at performs
    obtain ⟨result, loaded⟩ := result
    cases result with
    | ok _ => exact performs.trans (beside_setLocale loaded _)
    | error error => exact performs
  · exact beside_setLocale translator _

theorem beside_loadAll (now : Int64) {locales : List String}
    (different : ∀ locale ∈ locales, localeKey locale ≠ key) :
    Beside key translator (loadAll now locales translator).2 := by
  induction locales generalizing translator with
  | nil => exact .refl key translator
  | cons locale locales ih =>
      have performs : Beside key translator (translator.perform now (localeKey locale)).2 :=
        beside_perform now (different locale (by simp))
      have others := fun locale member => different locale (List.mem_cons_of_mem _ member)
      unfold loadAll loadLocale
      generalize translator.perform now (localeKey locale) = result at performs
      obtain ⟨result, loaded⟩ := result
      cases result with
      | ok _ => exact performs.trans (ih others)
      | error error => exact performs.trans (ih others)

def Call.keys (translator : Translator σ) : Call → List LoadKey
  | .loadLocale locale => [localeKey locale]
  | .changeLocale locale => [localeKey (Locale.normalize locale)]
  | .loadChain => translator.chain.map localeKey
  | .loadNamespace name => [translator.fragmentKey name]

/-- A request that is no call for the key, and overlaps with no call. -/
def Request.Spares (key : LoadKey) (translator : Translator σ) : Request σ → Prop
  | .load _ call => key ∉ call.keys translator
  | .overlap _ _ => False
  | .steps _ _ _ => False
  | _ => True

def Spared (key : LoadKey) : Translator σ → List (Request σ) → Prop
  | _, [] => True
  | translator, request :: requests =>
      request.Spares key translator ∧ Spared key (translator.handle request) requests

theorem beside_handle {request : Request σ} (spares : request.Spares key translator) :
    Beside key translator (translator.handle request) := by
  cases request with
  | setLocale locale => exact beside_setLocale translator locale
  | load now call =>
      cases call with
      | loadLocale locale =>
          exact beside_perform now (Ne.symm (List.ne_of_not_mem_cons spares))
      | changeLocale locale =>
          exact beside_changeLocale now (Ne.symm (List.ne_of_not_mem_cons spares))
      | loadChain =>
          have others : ∀ locale ∈ translator.chain, localeKey locale ≠ key := by
            rintro locale member rfl
            exact spares (List.mem_map_of_mem member)
          simp only [handle, loadChain]
          split
          · exact .refl key translator
          · exact beside_loadAll now others
      | loadNamespace name =>
          exact beside_perform now (Ne.symm (List.ne_of_not_mem_cons spares))
  | overlap now calls => exact spares.elim
  | steps callers log moves => exact spares.elim
  | translate name =>
      obtain ⟨world, asked⟩ := translator.translate_beside name
      show Beside key translator (translator.translate name).2
      rw [asked]
      exact beside_elsewhere translator _ _ world
  | translateWith name params =>
      obtain ⟨formatter, world, asked⟩ := translator.translateWith_beside name params
      show Beside key translator (translator.translateWith name params).2
      rw [asked]
      exact beside_elsewhere translator _ formatter world
  | format template locale params => exact beside_elsewhere translator _ _ _
  | clearFormatter => exact beside_elsewhere translator _ _ _

theorem beside_after {requests : List (Request σ)} (spared : Spared key translator requests) :
    Beside key translator (translator.after requests) := by
  induction requests generalizing translator with
  | nil => exact .refl key translator
  | cons request requests ih => exact (beside_handle spared.1).trans (ih spared.2)

/-- A call for the key has the source asked at once, whose answer is its result. -/
def AsksAnew (translator : Translator σ) (key : LoadKey) : Prop :=
  ∀ now start, translator.starter key = .ok start → ∃ flights,
    translator.perform now key =
      ((asked start now translator.world).1.map fun _ => (),
        translator.concluded key flights (asked start now translator.world))

/-- A call for the key has failed, and nothing but the world and the loads under way has changed. -/
structure Undone (translator : Translator σ) (now : Int64) (key : LoadKey) (error : Error)
    (after : Translator σ) : Prop where
  same : after = { translator with flights := after.flights, world := after.world }
  /-- There is no source for the key, or the error is the answer of the source. -/
  cause :
    (∃ reason, translator.starter key = .error (.configuration reason) ∧
      error = .configuration reason) ∨
    (∃ start, translator.starter key = .ok start ∧
      (translator.attempt now key start).1 = .error error ∧ Answers start (.error error))
  /-- The source is asked again by the next call for the key, whatever else is called before. -/
  again : ∀ requests, Spared key after requests →
    (after.after requests).starter key = translator.starter key ∧
      AsksAnew (after.after requests) key

theorem asksAnew_of_free (free : translator.flights.find? key = none)
    (unheld : translator.holds key = false) : AsksAnew translator key := by
  intro now start startable
  obtain ⟨flights, _, performed⟩ := perform_of_unheld now startable unheld
  have started : translator.attempt now key start = asked start now translator.world := by
    simp only [attempt, free]
  rw [started] at performed
  exact ⟨flights, performed⟩

/-- What is asked anew is so after other calls too. -/
theorem asksAnew_after (free : translator.flights.find? key = none)
    (unheld : translator.holds key = false) {requests : List (Request σ)}
    (spared : Spared key translator requests) : AsksAnew (translator.after requests) key := by
  have beside := beside_after spared
  refine asksAnew_of_free (beside.flights.trans free) (Bool.eq_false_iff.mpr fun held => ?_)
  have present := beside.present (present_of_holds held)
  cases key with
  | locale name => simp [holds] at held
  | fragment name =>
      have held : translator.store.hasNamespace name.1 name.2 = true := present
      have unheld : translator.store.hasNamespace name.1 name.2 = false := unheld
      rw [held] at unheld
      contradiction

theorem starter_error {error : Error} (unstartable : translator.starter key = .error error) :
    ∃ reason, error = .configuration reason := by
  unfold starter at unstartable
  split at unstartable
  · contradiction
  · cases unstartable
    exact ⟨_, rfl⟩
  · contradiction
  · cases unstartable
    exact ⟨_, rfl⟩

theorem Sourced.undone (sourced : Sourced translator) {now : Int64} {error : Error}
    (failed : translator.perform now key = (.error error, after)) :
    Undone translator now key error after := by
  rcases sourced.perform_cases now key with
    ⟨reason, unstartable, performed⟩ | ⟨start, _, performed⟩ |
    ⟨start, flights, startable, unheld, free, performed⟩
  · rw [performed] at failed
    cases failed
    obtain ⟨text, rfl⟩ := starter_error unstartable
    refine ⟨rfl, .inl ⟨text, unstartable, rfl⟩, fun requests spared => ?_⟩
    have same := (beside_after spared).starter key
    refine ⟨same, fun later start startable => ?_⟩
    rw [same, unstartable] at startable
    contradiction
  · rw [performed] at failed
    cases failed
  · have answers := sourced.attempt_answers now startable
    generalize ended : translator.attempt now key start = result at performed answers
    obtain ⟨outcome, world⟩ := result
    rw [performed] at failed
    cases outcome with
    | ok dictionary => cases failed
    | error cause =>
        cases failed
        refine ⟨rfl, .inr ⟨start, startable, congrArg Prod.fst ended, answers⟩,
          fun requests spared => ?_⟩
        have unheldAfter : (translator.concluded key flights (.error error, world)).holds key =
            false := by
          cases key <;> exact unheld
        exact ⟨(beside_after spared).starter key, asksAnew_after free unheldAfter spared⟩

theorem changeLocale_of_needsLoad {now : Int64} {locale : String}
    (needed : translator.needsLoad (Locale.normalize locale) = true) :
    (translator.changeLocale now locale).1 =
        (translator.perform now (localeKey (Locale.normalize locale))).1 ∧
      ∀ error after, translator.changeLocale now locale = (.error error, after) →
        translator.perform now (localeKey (Locale.normalize locale)) = (.error error, after) := by
  unfold changeLocale loadLocale
  simp only [needed, if_true]
  generalize translator.perform now (localeKey (Locale.normalize locale)) = result
  obtain ⟨result, loaded⟩ := result
  cases result with
  | ok _ => exact ⟨rfl, nofun⟩
  | error error => exact ⟨rfl, fun _ _ failed => failed⟩

theorem needsLoad_of_changeLocale {now : Int64} {locale : String} {error : Error}
    (failed : translator.changeLocale now locale = (.error error, after)) :
    translator.needsLoad (Locale.normalize locale) = true := by
  cases needed : translator.needsLoad (Locale.normalize locale) with
  | true => rfl
  | false => simp [changeLocale, needed] at failed

/-- After other calls the locale needs its load as before. -/
theorem Undone.needsLoad {now : Int64} {locale : String} {error : Error}
    (undone : Undone translator now (localeKey locale) error after)
    (needed : translator.needsLoad locale = true) {requests : List (Request σ)}
    (spared : Spared (localeKey locale) after requests) :
    (after.after requests).needsLoad locale = true := by
  have beside := beside_after spared
  have source : after.source = translator.source := by rw [undone.same]
  have store : after.store = translator.store := by rw [undone.same]
  simp only [Translator.needsLoad, Bool.and_eq_true, Bool.not_eq_true', isLocaleLoaded] at needed ⊢
  refine ⟨by rw [beside.source, source]; exact needed.1, Bool.eq_false_iff.mpr fun loaded => ?_⟩
  have before : after.store.hasLocale (Locale.normalize locale) = true := beside.present loaded
  rw [store, needed.2] at before
  contradiction

/-- The attempts to load some locales one after another, and what they came to. -/
def tries (source : MessageSource σ) (now : Int64) :
    List String → Translator σ → List (String × LoadOutcome)
  | [], _ => []
  | locale :: locales, translator =>
      let start := fun now => source.load now (Locale.normalize locale)
      (locale, (translator.attempt now (localeKey locale) start).1) ::
        tries source now locales (translator.loadLocale now locale).2

def failures (tried : List (String × LoadOutcome)) : List String :=
  (tried.filter fun entry => !entry.2.isOk).map Prod.fst

/-- A store with what one attempt has brought. -/
def keeping (store : MessageStore) (entry : String × LoadOutcome) : MessageStore :=
  match entry.2 with
  | .ok dictionary => store.setLocale (Locale.normalize entry.1) dictionary
  | .error _ => store

structure ChainTried (translator : Translator σ) (now : Int64) (source : MessageSource σ) :
    Prop where
  order : (tries source now translator.chain translator).map Prod.fst = translator.chain
  answers : ∀ entry ∈ tries source now translator.chain translator,
    Answers (fun now => source.load now (Locale.normalize entry.1)) entry.2
  failed : (translator.loadChain now).1 =
    .ok (failures (tries source now translator.chain translator))
  stored : (translator.loadChain now).2 =
    { translator with
      store := (tries source now translator.chain translator).foldl keeping translator.store
      flights := (translator.loadChain now).2.flights
      world := (translator.loadChain now).2.world }

theorem tries_order (source : MessageSource σ) (now : Int64) (locales : List String)
    (translator : Translator σ) : (tries source now locales translator).map Prod.fst = locales := by
  induction locales generalizing translator with
  | nil => rfl
  | cons locale locales ih => rw [tries, List.map_cons, ih]

theorem starter_localeKey {source : MessageSource σ} (configured : translator.source = some source)
    (locale : String) : translator.starter (localeKey locale) =
      .ok fun now => source.load now (Locale.normalize locale) := by
  simp only [starter, localeKey, configured]

theorem concluded_localeKey (locale : String) (flights : Flights LoadKey σ)
    (outcome : LoadOutcome) (world : σ) : ∃ world',
    translator.concluded (localeKey locale) flights (outcome, world) =
      { translator with
        store := keeping translator.store (locale, outcome), flights, world := world' } := by
  cases outcome with
  | ok dictionary => exact ⟨_, rfl⟩
  | error error => exact ⟨_, rfl⟩

/-- One locale is loaded: what its attempt came to is the result, and is kept. -/
theorem loadLocale_attempt {source : MessageSource σ} (configured : translator.source = some source)
    (now : Int64) (locale : String) :
    let outcome := (translator.attempt now (localeKey locale) fun now =>
      source.load now (Locale.normalize locale)).1
    ∃ flights world, translator.loadLocale now locale =
      (outcome.map fun _ => (),
        { translator with
          store := keeping translator.store (locale, outcome), flights, world }) := by
  obtain ⟨flights, _, performed⟩ :=
    perform_of_unheld now (starter_localeKey configured locale) rfl
  generalize translator.attempt now (localeKey locale) _ = ended at performed ⊢
  obtain ⟨outcome, world⟩ := ended
  obtain ⟨world', concluded⟩ := translator.concluded_localeKey locale flights outcome world
  exact ⟨flights, world', by rw [loadLocale, performed, concluded]⟩

theorem Sourced.tries_answers (sourced : Sourced translator) (now : Int64)
    {source : MessageSource σ} (configured : translator.source = some source)
    (locales : List String) : ∀ entry ∈ tries source now locales translator,
      Answers (fun now => source.load now (Locale.normalize entry.1)) entry.2 := by
  induction locales generalizing translator with
  | nil => simp [tries]
  | cons locale locales ih =>
      obtain ⟨flights, world, loaded⟩ := loadLocale_attempt configured now locale
      have configuredAfter : (translator.loadLocale now locale).2.source = some source := by
        rw [loaded]
        exact configured
      have sourcedAfter : Sourced (translator.loadLocale now locale).2 :=
        sourced_kept.perform sourced now _
      intro entry member
      rcases List.mem_cons.mp member with rfl | member
      · exact sourced.attempt_answers now (starter_localeKey configured locale)
      · exact ih sourcedAfter configuredAfter entry member

theorem loadAll_tries (now : Int64) {source : MessageSource σ}
    (configured : translator.source = some source) (locales : List String) :
    ∃ flights world, loadAll now locales translator =
      (failures (tries source now locales translator),
        { translator with
          store := (tries source now locales translator).foldl keeping translator.store
          flights, world }) := by
  induction locales generalizing translator with
  | nil => exact ⟨translator.flights, translator.world, rfl⟩
  | cons locale locales ih =>
      obtain ⟨flights, world, loaded⟩ := loadLocale_attempt configured now locale
      simp only [tries, loadAll, loaded]
      generalize (translator.attempt now (localeKey locale) _).1 = outcome
      obtain ⟨flights', world', others⟩ := @ih { translator with
        store := keeping translator.store (locale, outcome), flights, world } configured
      cases outcome with
      | ok dictionary => exact ⟨flights', world', others⟩
      | error error =>
          refine ⟨flights', world', ?_⟩
          simp only [Except.map, others]
          rfl

theorem Sourced.chainTried (sourced : Sourced translator) (now : Int64)
    {source : MessageSource σ} (configured : translator.source = some source) :
    ChainTried translator now source := by
  have chained : translator.loadChain now =
      (.ok (loadAll now translator.chain translator).1,
        (loadAll now translator.chain translator).2) := by
    simp [loadChain, configured]
  obtain ⟨flights, world, loaded⟩ := loadAll_tries now configured translator.chain
  rw [loaded] at chained
  exact {
    order := tries_order source now _ translator
    answers := sourced.tries_answers now configured _
    failed := by rw [chained]
    stored := by rw [chained] }

/-- In every state that requests lead to, a load that fails changes nothing, and a chain of locales
is tried to its end. -/
theorem failed_loads_undone (first : Translator σ) (requests : List (Request σ)) (now : Int64) :
    let translator := (Traffic.quiet first).translator.after requests
    (∀ locale error after, translator.loadLocale now locale = (.error error, after) →
      Undone translator now (localeKey locale) error after) ∧
    (∀ name error after, translator.loadNamespace now name = (.error error, after) →
      Undone translator now (translator.fragmentKey name) error after) ∧
    (∀ locale error after, translator.changeLocale now locale = (.error error, after) →
      Undone translator now (localeKey (Locale.normalize locale)) error after ∧
      ∀ requests, Spared (localeKey (Locale.normalize locale)) after requests → ∀ later,
        ((after.after requests).changeLocale later locale).1 =
          ((after.after requests).perform later (localeKey (Locale.normalize locale))).1) ∧
    (translator.source = none →
      translator.loadChain now = (.error missingChainSource, translator)) ∧
    (∀ source, translator.source = some source → ChainTried translator now source) := by
  intro translator
  have sourced : Sourced translator := after_sourced first requests
  refine ⟨fun locale error after failed => sourced.undone failed,
    fun name error after failed => sourced.undone failed,
    fun locale error after failed => ?_, fun unconfigured => ?_,
    fun source configured => sourced.chainTried now configured⟩
  · have needed := needsLoad_of_changeLocale failed
    have undone := sourced.undone ((changeLocale_of_needsLoad needed).2 error after failed)
    refine ⟨undone, fun requests spared later => ?_⟩
    exact (changeLocale_of_needsLoad (undone.needsLoad needed spared)).1
  · simp [loadChain, unconfigured]

/-- The source fails once, and has the locale when it is asked again. -/
example :
    let source : MessageSource Nat :=
      { load := fun _ name asked =>
          (.awaiting fun _ asked =>
            (if asked = 1 then .error (.localeUnavailable name) else .ok .empty, asked), asked + 1)
        offers := fun _ _ => false
        available := fun _ => [] }
    let first := { Translator.create "en" "en" [] 0 with source := some source }
    let failed := first.changeLocale 0 "tr"
    let changed := failed.2.changeLocale 0 "tr"
    (failed.1.isOk, failed.2.locale, changed.1.isOk, changed.2.locale, changed.2.world) =
      (false, "en", true, "tr", 2) := by
  decide +kernel

end Phrasebook.Translator
