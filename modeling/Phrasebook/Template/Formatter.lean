import Phrasebook.BoundedCache
import Phrasebook.Error
import Phrasebook.Template.Rendering

namespace Phrasebook

structure TemplateFormatter where
  cache : BoundedCache (String × String) CompiledTemplate

namespace TemplateFormatter

def defaultCapacity : Nat := 256

def empty (capacity : Nat) : TemplateFormatter :=
  ⟨.empty capacity⟩

/-- The compiled template, from the cache if it is there.  A template that does not compile is not
kept. -/
def compiled (formatter : TemplateFormatter) (template locale : String) :
    Except TemplateFault CompiledTemplate × TemplateFormatter :=
  match formatter.cache.get (locale, template) with
  | (some found, cache) => (.ok found, ⟨cache⟩)
  | (none, cache) =>
      match CompiledTemplate.compile template locale with
      | .ok fresh => (.ok fresh, ⟨cache.set (locale, template) fresh⟩)
      | .error fault => (.error fault, ⟨cache⟩)

def tryFormat (formatter : TemplateFormatter) (template locale : String) (params : Params) :
    Except Error String × TemplateFormatter :=
  match formatter.compiled template locale with
  | (.error fault, formatter) => (.error (.templateFormat template fault.message), formatter)
  | (.ok compiled, formatter) =>
      match compiled.evaluate params with
      | .ok text => (.ok text, formatter)
      | .error fault => (.error (.templateFormat template fault.message), formatter)

/-- The text of a template, or the template itself. -/
def format (formatter : TemplateFormatter) (template locale : String) (params : Params) :
    String × TemplateFormatter :=
  match formatter.tryFormat template locale params with
  | (.ok text, formatter) => (text, formatter)
  | (.error _, formatter) => (template, formatter)

def cached (formatter : TemplateFormatter) : Nat :=
  formatter.cache.size

def isCached (formatter : TemplateFormatter) (template locale : String) : Bool :=
  formatter.cache.has (locale, template)

def clear (formatter : TemplateFormatter) : TemplateFormatter :=
  ⟨formatter.cache.clear⟩

end TemplateFormatter

end Phrasebook
