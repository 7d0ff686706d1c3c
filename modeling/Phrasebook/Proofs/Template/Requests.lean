import Phrasebook.Proofs.Template.Formatter

namespace Phrasebook

namespace TemplateFormatter

inductive Request where
  | tryFormat (template locale : String) (params : Params)
  | format (template locale : String) (params : Params)
  | isCached (template locale : String)
  | clear

/-- The formatter after a request. -/
def serve (formatter : TemplateFormatter) : Request → TemplateFormatter
  | .tryFormat template locale params => (formatter.tryFormat template locale params).2
  | .format template locale params => (formatter.format template locale params).2
  | .isCached _ _ => formatter
  | .clear => formatter.clear

def serveAll (formatter : TemplateFormatter) (requests : List Request) : TemplateFormatter :=
  requests.foldl serve formatter

/-- The next request is answered as if there were no cache, which holds nothing but compiled
templates and no more of them than it may. -/
structure Transparent (capacity : Nat) (formatter : TemplateFormatter) : Prop where
  tryFormat : ∀ template locale params,
    (formatter.tryFormat template locale params).1 =
      CompiledTemplate.render template locale params
  format : ∀ template locale params,
    (formatter.format template locale params).1 =
      match CompiledTemplate.render template locale params with
      | .ok text => text
      | .error _ => template
  entries : formatter.Sound
  bounded : formatter.cached ≤ max capacity 1
  refused : ∀ template locale params fault,
    CompiledTemplate.compile template locale = .error fault →
      (formatter.tryFormat template locale params).2 = formatter ∧
        (formatter.format template locale params).2 = formatter
  kept : ∀ template locale params compiled,
    CompiledTemplate.compile template locale = .ok compiled →
      (formatter.tryFormat template locale params).2.isCached template locale = true ∧
        (formatter.format template locale params).2.isCached template locale = true

variable {formatter : TemplateFormatter} {template locale : String} {params : Params}
  {capacity : Nat}

theorem format_eq (formatter : TemplateFormatter) (template locale : String) (params : Params) :
    formatter.format template locale params =
      (match (formatter.tryFormat template locale params).1 with
        | .ok text => text
        | .error _ => template,
      (formatter.tryFormat template locale params).2) := by
  unfold format
  split <;> simp [*]

theorem tryFormat_snd (formatter : TemplateFormatter) (template locale : String)
    (params : Params) :
    (formatter.tryFormat template locale params).2 = (formatter.compiled template locale).2 := by
  unfold tryFormat
  generalize formatter.compiled template locale = result
  obtain ⟨outcome, after⟩ := result
  cases outcome with
  | error fault => rfl
  | ok compiled => 
      dsimp only
      cases compiled.evaluate params <;> rfl

/-- All that compiling does to a sound formatter. -/
theorem compiled_cases (sound : formatter.Sound) (template locale : String) :
    (∃ fresh, CompiledTemplate.compile template locale = .ok fresh ∧
      formatter.compiled template locale =
        (.ok fresh, ⟨formatter.cache.set (locale, template) fresh⟩)) ∨
    (∃ fault, CompiledTemplate.compile template locale = .error fault ∧
      formatter.compiled template locale = (.error fault, formatter)) := by
  unfold compiled
  rcases formatter.cache.get_cases (locale, template) with ⟨value, member, got⟩ | got
  · exact .inl ⟨value, sound _ _ _ member, by rw [got]⟩
  · rw [got]
    cases isCompiled : CompiledTemplate.compile template locale with
    | ok fresh => exact .inl ⟨fresh, rfl, rfl⟩
    | error fault => exact .inr ⟨fault, rfl, rfl⟩

theorem tryFormat_refused (sound : formatter.Sound) {fault : TemplateFault}
    (refused : CompiledTemplate.compile template locale = .error fault) (params : Params) :
    (formatter.tryFormat template locale params).2 = formatter := by
  rw [tryFormat_snd]
  rcases compiled_cases sound template locale with ⟨fresh, isCompiled, _⟩ | ⟨_, _, same⟩
  · rw [refused] at isCompiled
    contradiction
  · rw [same]

theorem tryFormat_kept (sound : formatter.Sound) {compiled : CompiledTemplate}
    (isCompiled : CompiledTemplate.compile template locale = .ok compiled) (params : Params) :
    (formatter.tryFormat template locale params).2.isCached template locale = true := by
  rw [tryFormat_snd]
  rcases compiled_cases sound template locale with ⟨fresh, _, same⟩ | ⟨fault, refused, _⟩
  · rw [same]
    exact formatter.cache.has_set (locale, template) fresh
  · rw [refused] at isCompiled
    contradiction

/-- What every request keeps. -/
structure Steady (capacity : Nat) (formatter : TemplateFormatter) : Prop where
  sound : formatter.Sound
  capacity : formatter.cache.capacity = max capacity 1

theorem Steady.tryFormat (steady : Steady capacity formatter) (template locale : String)
    (params : Params) : Steady capacity (formatter.tryFormat template locale params).2 := by
  refine ⟨(tryFormat_of_sound steady.sound template locale params).2, ?_⟩
  rw [tryFormat_snd]
  rcases compiled_cases steady.sound template locale with ⟨fresh, _, same⟩ | ⟨fault, _, same⟩
  · rw [same]
    exact steady.capacity
  · rw [same]
    exact steady.capacity

theorem Steady.serve (steady : Steady capacity formatter) (request : Request) :
    Steady capacity (formatter.serve request) := by
  cases request with
  | tryFormat template locale params => exact steady.tryFormat template locale params
  | format template locale params =>
      rw [TemplateFormatter.serve, format_eq]
      exact steady.tryFormat template locale params
  | isCached template locale => exact steady
  | clear => exact ⟨clear_sound formatter, steady.capacity⟩

theorem Steady.serveAll (steady : Steady capacity formatter) (requests : List Request) :
    Steady capacity (formatter.serveAll requests) := by
  induction requests generalizing formatter with
  | nil => exact steady
  | cons request requests ih => exact ih (steady.serve request)

theorem Steady.transparent (steady : Steady capacity formatter) :
    Transparent capacity formatter := by
  have sound := steady.sound
  have answers : ∀ template locale params, (formatter.tryFormat template locale params).1 =
      CompiledTemplate.render template locale params :=
    fun template locale params => (tryFormat_of_sound sound template locale params).1
  constructor
  case tryFormat => exact answers
  case format =>
    intro template locale params
    rw [format_eq, answers]
  case entries => exact sound
  case bounded =>
    rw [← steady.capacity]
    exact formatter.cache.bounded
  case refused =>
    intro template locale params fault refused
    rw [format_eq]
    have same := tryFormat_refused sound refused params
    exact ⟨same, same⟩
  case kept =>
    intro template locale params compiled isCompiled
    rw [format_eq]
    have kept := tryFormat_kept sound isCompiled params
    exact ⟨kept, kept⟩

/-- After any requests to a new formatter, its cache is of no consequence for the next one. -/
theorem serveAll_transparent (capacity : Nat) (requests : List Request) :
    Transparent capacity ((empty capacity).serveAll requests) := by
  have steady : Steady capacity (empty capacity) := ⟨empty_sound capacity, rfl⟩
  exact (steady.serveAll requests).transparent

end TemplateFormatter

end Phrasebook
