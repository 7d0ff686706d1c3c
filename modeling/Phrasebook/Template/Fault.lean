namespace Phrasebook

/-- What makes a template malformed.  Offsets count characters from the start. -/
inductive TemplateFault where
  | expected (wanted : Char) (offset : Nat) (found : Char)
  | expectedAtEnd (wanted : Char)
  | unmatchedBrace (offset : Nat)
  | nestedTooDeeply
  | emptyName (offset : Nat)
  | malformedArgument (name : String)
  | missingKind (name : String)
  | unknownKind (kind : String)
  | unterminatedStyle
  | invalidOffset (token : String)
  | unterminatedOptions
  | missingSelector
  | exactInSelect (token : String)
  | invalidExact (token : String)
  | unknownCategory (token : String)
  | duplicateOption (token : String)
  | missingOther
deriving DecidableEq

namespace TemplateFault

def message : TemplateFault → String
  | .expected wanted offset found => s!"expected '{wanted}' at offset {offset}, found '{found}'"
  | .expectedAtEnd wanted => s!"expected '{wanted}', found end of template"
  | .unmatchedBrace offset => s!"unmatched '\x7d' at offset {offset}"
  | .nestedTooDeeply => "arguments nested too deeply"
  | .emptyName offset => s!"empty argument name at offset {offset}"
  | .malformedArgument name => s!"malformed argument '{name}'"
  | .missingKind name => s!"missing argument type for '{name}'"
  | .unknownKind kind => s!"unknown argument type '{kind}'"
  | .unterminatedStyle => "unterminated argument style"
  | .invalidOffset token => s!"invalid plural offset '{token}'"
  | .unterminatedOptions => "unterminated options"
  | .missingSelector => "missing option selector"
  | .exactInSelect token => s!"explicit match '{token}' in select"
  | .invalidExact token => s!"invalid explicit match '{token}'"
  | .unknownCategory token => s!"unknown plural category '{token}'"
  | .duplicateOption token => s!"duplicate option '{token}'"
  | .missingOther => "missing 'other' option"

end TemplateFault

inductive RenderFault where
  | unbound (name : String)
  | notANumber (name : String)
  | pluralNotANumber (name : String)
  | noOption (name : String)
deriving DecidableEq

namespace RenderFault

def message : RenderFault → String
  | .unbound name => s!"no value for argument '{name}'"
  | .notANumber name => s!"argument '{name}' is not a number"
  | .pluralNotANumber name => s!"plural argument '{name}' is not a number"
  | .noOption name => s!"no option for '{name}'"

end RenderFault

end Phrasebook
