import Phrasebook.Proofs.BoundedCache
import Phrasebook.Template.Formatter

namespace Phrasebook

/-- The text of a template that is compiled for this alone. -/
def CompiledTemplate.render (template locale : String) (params : Params) : Except Error String :=
  match compile template locale with
  | .error fault => .error (.templateFormat template fault.message)
  | .ok compiled =>
      match compiled.evaluate params with
      | .error fault => .error (.templateFormat template fault.message)
      | .ok text => .ok text

namespace TemplateFormatter

variable {formatter : TemplateFormatter}

/-- Every template in the cache is compiled from its text for its locale. -/
def Sound (formatter : TemplateFormatter) : Prop :=
  ∀ locale template compiled, ((locale, template), compiled) ∈ formatter.cache.entries →
    CompiledTemplate.compile template locale = .ok compiled

theorem empty_sound (capacity : Nat) : (empty capacity).Sound := by
  intro locale template compiled member
  simp [empty, BoundedCache.empty] at member

theorem clear_sound (formatter : TemplateFormatter) : formatter.clear.Sound := by
  intro locale template compiled member
  simp [clear, BoundedCache.clear] at member

theorem Sound.set (sound : formatter.Sound) {locale template : String}
    {compiled : CompiledTemplate}
    (isCompiled : CompiledTemplate.compile template locale = .ok compiled) :
    Sound ⟨formatter.cache.set (locale, template) compiled⟩ := by
  intro otherLocale otherTemplate other member
  rcases BoundedCache.mem_set member with same | ⟨member, _⟩
  · cases same
    exact isCompiled
  · exact sound _ _ _ member

theorem compiled_of_sound (sound : formatter.Sound) (template locale : String) :
    (formatter.compiled template locale).1 = CompiledTemplate.compile template locale ∧
      (formatter.compiled template locale).2.Sound := by
  unfold compiled
  rcases formatter.cache.get_cases (locale, template) with ⟨value, member, got⟩ | got
  · have isCompiled := sound _ _ _ member
    simp only [got]
    exact ⟨isCompiled.symm, sound.set isCompiled⟩
  · simp only [got]
    cases isCompiled : CompiledTemplate.compile template locale with
    | ok fresh => exact ⟨rfl, sound.set isCompiled⟩
    | error fault => exact ⟨rfl, sound⟩

theorem tryFormat_of_sound (sound : formatter.Sound) (template locale : String)
    (params : Params) :
    (formatter.tryFormat template locale params).1 =
        CompiledTemplate.render template locale params ∧
      (formatter.tryFormat template locale params).2.Sound := by
  obtain ⟨same, soundAfter⟩ := compiled_of_sound sound template locale
  unfold tryFormat CompiledTemplate.render
  generalize formatter.compiled template locale = result at same soundAfter
  obtain ⟨outcome, after⟩ := result
  rw [← same]
  cases outcome with
  | error fault => exact ⟨rfl, soundAfter⟩
  | ok compiled =>
      simp only
      cases compiled.evaluate params with
      | error fault => exact ⟨rfl, soundAfter⟩
      | ok text => exact ⟨rfl, soundAfter⟩

theorem format_sound (sound : formatter.Sound) (template locale : String) (params : Params) :
    (formatter.format template locale params).2.Sound := by
  have soundAfter := (tryFormat_of_sound sound template locale params).2
  unfold format
  generalize formatter.tryFormat template locale params = result at soundAfter
  obtain ⟨outcome, after⟩ := result
  cases outcome with
  | error error => exact soundAfter
  | ok text => exact soundAfter

end TemplateFormatter

end Phrasebook
