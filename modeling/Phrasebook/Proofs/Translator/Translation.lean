import Phrasebook.Proofs.Store.Basic
import Phrasebook.Proofs.Template.Formatter
import Phrasebook.Proofs.Translator.Formatter

namespace Phrasebook.Translator

variable {σ : Type} {translator : Translator σ} {key : String} {params : Params}

inductive Request (σ : Type) where
  | setLocale (locale : String)
  | load (now : Int64) (call : Call)
  | overlap (now : Int64) (calls : List Call)
  /-- Single steps of calls for loads, which may have come this far and go on later. -/
  | steps (callers : List (Caller σ)) (log : List (Event σ)) (moves : List Traffic.Move)
  | translate (key : String)
  | translateWith (key : String) (params : Params)
  | format (template locale : String) (params : Params)
  | clearFormatter

namespace Request

def asks : Request σ → Bool
  | .translate _ => true
  | .translateWith _ _ => true
  | .format _ _ _ => true
  | _ => false

def usesFormatter : Request σ → Bool
  | .translateWith _ _ => true
  | .format _ _ _ => true
  | .clearFormatter => true
  | _ => false

end Request

def handle (translator : Translator σ) : Request σ → Translator σ
  | .setLocale locale => translator.setLocale locale
  | .load now (.loadLocale locale) => (translator.loadLocale now locale).2
  | .load now (.changeLocale locale) => (translator.changeLocale now locale).2
  | .load now .loadChain => (translator.loadChain now).2
  | .load now (.loadNamespace name) => (translator.loadNamespace now name).2
  | .overlap now calls => (translator.overlap now calls).2
  | .steps callers log moves => (Traffic.run ⟨translator, callers, log⟩ moves).translator
  | .translate key => (translator.translate key).2
  | .translateWith key params => (translator.translateWith key params).2
  | .format template locale params =>
      translator.withFormatter (translator.formatter.format template locale params).2
  | .clearFormatter => translator.withFormatter translator.formatter.clear

def after (translator : Translator σ) (requests : List (Request σ)) : Translator σ :=
  requests.foldl handle translator

/-- The state after some requests, where the formatter keeps as many templates as are given. -/
def reach (first : Translator σ) (capacity : Nat) (requests : List (Request σ)) : Translator σ :=
  (first.withFormatter (.empty capacity)).after requests

def textOf (locale message : String) (params : Params) : Except Error String :=
  if Template.isTemplate message then CompiledTemplate.render message locale params
  else .ok (interpolate message params)

/-- What a translation with parameters gives if nothing is ever kept. -/
def answer (translator : Translator σ) (key : String) (params : Params) :
    String × Translator σ :=
  match translator.resolve key with
  | none => translator.missing key
  | some (locale, message) =>
      match textOf locale message params with
      | .ok text => (text, translator)
      | .error error =>
          (message, { translator with world := translator.hooks.failed error key translator.world })

theorem translateWith_of_sound (sound : translator.formatter.Sound) (key : String)
    (params : Params) :
    ∃ formatter, formatter.Sound ∧
      translator.translateWith key params = exchanged formatter (translator.answer key params) := by
  unfold translateWith answer textOf
  cases translator.resolve key with
  | none => exact ⟨translator.formatter, sound, rfl⟩
  | some found =>
      obtain ⟨locale, message⟩ := found
      simp only
      split
      · obtain ⟨same, soundAfter⟩ :=
          TemplateFormatter.tryFormat_of_sound sound message locale params
        unfold formatMessage
        generalize translator.formatter.tryFormat message locale params = result at same soundAfter
        obtain ⟨outcome, formatter⟩ := result
        refine ⟨formatter, soundAfter, ?_⟩
        rw [← same]
        cases outcome <;> rfl
      · exact ⟨translator.formatter, sound, rfl⟩

theorem answer_withFormatter (formatter : TemplateFormatter) :
    (translator.withFormatter formatter).answer key params =
      exchanged formatter (translator.answer key params) := by
  unfold answer
  rw [withFormatter_resolve]
  cases translator.resolve key with
  | none => rfl
  | some found =>
      obtain ⟨locale, message⟩ := found
      simp only
      cases textOf locale message params <;> rfl

theorem translate_withFormatter (formatter : TemplateFormatter) :
    (translator.withFormatter formatter).translate key =
      exchanged formatter (translator.translate key) := by
  unfold translate
  rw [withFormatter_resolve]
  cases translator.resolve key with
  | none => rfl
  | some found => rfl

/-- The translators differ in their formatters at most, and both have only kept what is right. -/
structure Alike (left right : Translator σ) : Prop where
  same : right = left.withFormatter right.formatter
  left : left.formatter.Sound
  right : right.formatter.Sound

theorem Alike.exchange {left right : Translator σ} (alike : Alike left right)
    (formatter : TemplateFormatter) :
    right.withFormatter formatter = left.withFormatter formatter := by
  rw [alike.same]
  rfl

theorem handle_withFormatter (translator : Translator σ) (formatter : TemplateFormatter)
    {request : Request σ} (plain : request.usesFormatter = false) :
    (translator.withFormatter formatter).handle request =
      (translator.handle request).withFormatter formatter := by
  cases request with
  | setLocale locale => simp only [handle, setLocale_withFormatter]
  | load now call =>
      cases call with
      | loadLocale locale => simp only [handle, loadLocale, perform_withFormatter, exchanged]
      | changeLocale locale => simp only [handle, changeLocale_withFormatter, exchanged]
      | loadChain => simp only [handle, loadChain_withFormatter, exchanged]
      | loadNamespace name =>
          simp only [handle, loadNamespace, withFormatter_fragmentKey, perform_withFormatter,
            exchanged]
  | overlap now calls => simp only [handle, overlap_withFormatter, exchanged]
  | steps callers log moves =>
      exact congrArg Traffic.translator
        (Traffic.run_withFormatter ⟨translator, callers, log⟩ formatter moves)
  | translate key => simp only [handle, translate_withFormatter, exchanged]
  | translateWith key params => contradiction
  | format template locale params => contradiction
  | clearFormatter => contradiction

theorem Alike.translateWith {left right : Translator σ} (alike : Alike left right) (key : String)
    (params : Params) :
    (right.translateWith key params).1 = (left.translateWith key params).1 ∧
      Alike (left.translateWith key params).2 (right.translateWith key params).2 := by
  obtain ⟨leftFormatter, leftSound, leftSame⟩ := translateWith_of_sound alike.left key params
  obtain ⟨rightFormatter, rightSound, rightSame⟩ := translateWith_of_sound alike.right key params
  rw [leftSame, rightSame, alike.same, answer_withFormatter]
  generalize left.answer key params = result
  exact ⟨rfl, rfl, leftSound, rightSound⟩

theorem Alike.translate {left right : Translator σ} (alike : Alike left right) (key : String) :
    (right.translate key).1 = (left.translate key).1 := by
  rw [alike.same, translate_withFormatter, exchanged]

theorem Alike.handle_plain {left right : Translator σ} (alike : Alike left right)
    {request : Request σ} (plain : request.usesFormatter = false) :
    Alike (left.handle request) (right.handle request) := by
  -- with `left.formatter` in it, `left` is what it was
  have leftSame : left.handle request =
      (left.handle request).withFormatter left.formatter :=
    left.handle_withFormatter left.formatter plain
  have rightSame : right.handle request =
      (left.handle request).withFormatter right.formatter := by
    rw [← handle_withFormatter _ _ plain, ← alike.same]
  refine ⟨?_, ?_, ?_⟩
  · rw [rightSame]
    rfl
  · rw [leftSame]
    exact alike.left
  · rw [rightSame]
    exact alike.right

theorem Alike.handle {left right : Translator σ} (alike : Alike left right) (request : Request σ) :
    Alike (left.handle request) (right.handle request) := by
  cases request with
  | translateWith key params => exact (alike.translateWith key params).2
  | format template locale params =>
      exact ⟨alike.exchange _, TemplateFormatter.format_sound alike.left _ _ _,
        TemplateFormatter.format_sound alike.right _ _ _⟩
  | clearFormatter =>
      exact ⟨alike.exchange _, TemplateFormatter.clear_sound _, TemplateFormatter.clear_sound _⟩
  | setLocale locale => exact alike.handle_plain rfl
  | load now call => exact alike.handle_plain rfl
  | overlap now calls => exact alike.handle_plain rfl
  | steps callers log moves => exact alike.handle_plain rfl
  | translate key => exact alike.handle_plain rfl

theorem Alike.after {left right : Translator σ} (alike : Alike left right)
    (requests : List (Request σ)) : Alike (left.after requests) (right.after requests) := by
  induction requests generalizing left right with
  | nil => exact alike
  | cons request requests ih => exact ih (alike.handle request)

theorem answer_text (translator : Translator σ) (key : String) (params : Params) :
    (translator.answer key params).1 =
      match translator.resolve key with
      | none => key
      | some (locale, message) =>
          match textOf locale message params with
          | .ok text => text
          | .error _ => message := by
  unfold answer
  cases translator.resolve key with
  | none => rfl
  | some found =>
      obtain ⟨locale, message⟩ := found
      simp only
      cases textOf locale message params <;> rfl

theorem translate_text (translator : Translator σ) (key : String) :
    (translator.translate key).1 =
      match translator.resolve key with
      | none => key
      | some (_, message) => message := by
  unfold translate
  cases translator.resolve key <;> rfl

def SameMessages (left right : Translator σ) : Prop :=
  right.locale = left.locale ∧ right.fallback = left.fallback ∧ right.store = left.store

theorem SameMessages.resolve {left right : Translator σ} (same : SameMessages left right)
    (key : String) : right.resolve key = left.resolve key := by
  obtain ⟨sameLocale, sameFallback, sameStore⟩ := same
  simp only [Translator.resolve, chain, sameLocale, sameFallback, sameStore]

theorem handle_sameMessages (translator : Translator σ) {request : Request σ}
    (asks : request.asks = true) : SameMessages translator (translator.handle request) := by
  cases request with
  | translate key =>
      show SameMessages translator (translator.translate key).2
      unfold translate
      cases translator.resolve key with
      | none => exact ⟨rfl, rfl, rfl⟩
      | some found => exact ⟨rfl, rfl, rfl⟩
  | translateWith key params =>
      show SameMessages translator (translator.translateWith key params).2
      unfold translateWith formatMessage
      cases translator.resolve key with
      | none => exact ⟨rfl, rfl, rfl⟩
      | some found =>
          obtain ⟨locale, message⟩ := found
          simp only
          split
          · split
            · exact ⟨rfl, rfl, rfl⟩
            · exact ⟨rfl, rfl, rfl⟩
          · exact ⟨rfl, rfl, rfl⟩
  | format template locale params => exact ⟨rfl, rfl, rfl⟩
  | setLocale locale => contradiction
  | load now call => contradiction
  | overlap now calls => contradiction
  | steps callers log moves => contradiction
  | clearFormatter => contradiction

theorem after_sameMessages (translator : Translator σ) {requests : List (Request σ)}
    (ask : ∀ request ∈ requests, request.asks = true) :
    SameMessages translator (translator.after requests) := by
  induction requests generalizing translator with
  | nil => exact ⟨rfl, rfl, rfl⟩
  | cons request requests ih =>
      obtain ⟨locale, fallback, store⟩ :=
        translator.handle_sameMessages (ask request (by simp))
      obtain ⟨locale', fallback', store'⟩ := ih (translator.handle request)
        fun other member => ask other (List.mem_cons_of_mem _ member)
      exact ⟨locale'.trans locale, fallback'.trans fallback, store'.trans store⟩

def FailsWith (locale message : String) (params : Params) (reason : String) : Prop :=
  (∃ fault, CompiledTemplate.compile message locale = .error fault ∧ fault.message = reason) ∨
  (∃ compiled fault, CompiledTemplate.compile message locale = .ok compiled ∧
    compiled.evaluate params = .error fault ∧ fault.message = reason)

structure Specified (translator : Translator σ) (key : String) (params : Params) : Prop where
  /-- No locale of the chain has a message: the key itself, and one call of the hook for it. -/
  missing :
    (∀ locale ∈ Locale.fallbackChain translator.locale translator.fallback,
      translator.store.find? locale key = none) →
      translator.translate key = (key, { translator with
        world := translator.hooks.missingKey key translator.locale translator.world }) ∧
      translator.translateWith key params = (key, { translator with
        world := translator.hooks.missingKey key translator.locale translator.world })
  /-- The message of the first locale that has one, which is also what its plural rules are for. -/
  found : ∀ before locale rest message,
    Locale.fallbackChain translator.locale translator.fallback = before ++ locale :: rest →
    (∀ earlier ∈ before, translator.store.find? earlier key = none) →
    translator.store.find? locale key = some message →
      translator.translate key = (message, translator) ∧
      (Template.isTemplate message = false →
        translator.translateWith key params = (interpolate message params, translator)) ∧
      (Template.isTemplate message = true → ∃ formatter,
        (∀ compiled text, CompiledTemplate.compile message locale = .ok compiled →
          compiled.evaluate params = .ok text →
          translator.translateWith key params = (text, { translator with formatter })) ∧
        (∀ reason, FailsWith locale message params reason →
          translator.translateWith key params =
            (message, { translator with
              formatter
              world := translator.hooks.failed (.templateFormat message reason) key
                translator.world })))

theorem render_of_fails {locale message reason : String}
    (fails : FailsWith locale message params reason) :
    CompiledTemplate.render message locale params = .error (.templateFormat message reason) := by
  unfold CompiledTemplate.render
  rcases fails with ⟨fault, notCompiled, rfl⟩ | ⟨compiled, fault, isCompiled, fails, rfl⟩
  · rw [notCompiled]
  · simp only [isCompiled, fails]

theorem formatMessage_of_sound (sound : translator.formatter.Sound) (key locale message : String)
    (params : Params) :
    ∃ formatter, translator.formatMessage key locale message params =
      match CompiledTemplate.render message locale params with
      | .ok text => (text, { translator with formatter })
      | .error error => (message, { translator with
          formatter, world := translator.hooks.failed error key translator.world }) := by
  have same := (TemplateFormatter.tryFormat_of_sound sound message locale params).1
  unfold formatMessage
  generalize translator.formatter.tryFormat message locale params = result at same
  obtain ⟨outcome, formatter⟩ := result
  refine ⟨formatter, ?_⟩
  rw [← same]
  cases outcome <;> rfl

theorem specified_of_sound (sound : translator.formatter.Sound) (key : String)
    (params : Params) : Specified translator key params where
  missing := by
    intro none
    have unresolved : translator.resolve key = .none := by
      rw [resolve, chain, MessageStore.resolve_eq_none_iff]
      exact none
    constructor
    · simp only [translate, unresolved, missing]
    · simp only [translateWith, unresolved, missing]
  found := by
    intro before locale rest message chain none found
    have resolved : translator.resolve key = some (locale, message) := by
      rw [resolve, Translator.chain, MessageStore.resolve_eq_some_iff]
      exact ⟨before, rest, chain, found, none⟩
    refine ⟨by simp only [translate, resolved], fun plain => ?_, fun isTemplate => ?_⟩
    · simp [translateWith, resolved, plain]
    · obtain ⟨formatter, formatted⟩ :=
        formatMessage_of_sound sound key locale message params
      have translated : translator.translateWith key params =
          translator.formatMessage key locale message params := by
        simp [translateWith, resolved, isTemplate]
      rw [translated, formatted]
      refine ⟨formatter, fun compiled text isCompiled evaluated => ?_, fun reason fails => ?_⟩
      · simp only [CompiledTemplate.render, isCompiled, evaluated]
      · simp only [render_of_fails fails]

theorem reach_alike (first : Translator σ) (capacity other : Nat) (requests : List (Request σ)) :
    Alike (first.reach capacity requests) (first.reach other requests) :=
  Alike.after ⟨rfl, TemplateFormatter.empty_sound capacity, TemplateFormatter.empty_sound other⟩ _

theorem after_steady (sound : translator.formatter.Sound) {asked : List (Request σ)}
    (ask : ∀ request ∈ asked, request.asks = true) (key : String) (params : Params) :
    ((translator.after asked).translate key).1 = (translator.translate key).1 ∧
      ((translator.after asked).translateWith key params).1 =
        (translator.translateWith key params).1 := by
  have same := translator.after_sameMessages ask
  have soundAfter : (translator.after asked).formatter.Sound :=
    (Alike.after ⟨rfl, sound, sound⟩ asked).left
  obtain ⟨before, _, translated⟩ := translateWith_of_sound sound key params
  obtain ⟨later, _, translatedAfter⟩ := translateWith_of_sound soundAfter key params
  constructor
  · rw [translate_text, translate_text, same.resolve]
  · rw [translated, translatedAfter]
    simp only [exchanged, answer_text, same.resolve]

/-- Translations are as specified in every state, with any capacity of the formatter.  Earlier
requests for texts and the capacity do not change them. -/
theorem reach_specified (first : Translator σ) (capacity : Nat) (requests : List (Request σ))
    (key : String) (params : Params) :
    Specified (first.reach capacity requests) key params ∧
      (∀ asked : List (Request σ), (∀ request ∈ asked, request.asks = true) →
        (((first.reach capacity requests).after asked).translate key).1 =
          ((first.reach capacity requests).translate key).1 ∧
        (((first.reach capacity requests).after asked).translateWith key params).1 =
          ((first.reach capacity requests).translateWith key params).1) ∧
      (∀ other : Nat,
        ((first.reach other requests).translate key).1 =
          ((first.reach capacity requests).translate key).1 ∧
        ((first.reach other requests).translateWith key params).1 =
          ((first.reach capacity requests).translateWith key params).1) := by
  have sound : (first.reach capacity requests).formatter.Sound :=
    (first.reach_alike capacity capacity requests).left
  refine ⟨specified_of_sound sound key params, fun asked ask => ?_, fun other => ?_⟩
  · exact after_steady sound ask key params
  · have alike := first.reach_alike capacity other requests
    exact ⟨alike.translate key, (alike.translateWith key params).1⟩

end Phrasebook.Translator
