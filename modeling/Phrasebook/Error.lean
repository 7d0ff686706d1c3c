namespace Phrasebook

inductive ErrorCategory where
  | network
  | parsing
  | storage
  | config
  | other
deriving DecidableEq

namespace ErrorCategory

def label : ErrorCategory → String
  | .network => "network"
  | .parsing => "parsing"
  | .storage => "storage"
  | .config => "config"
  | .other => "other"

end ErrorCategory

inductive Error where
  | localeUnavailable (locale : String)
  /-- A source could not be reached, or sent something unusable. -/
  | source (locale : String) (status : Option Nat) (reason : String)
  | templateFormat (template reason : String)
  /-- Something needed was not configured, or is configured wrongly. -/
  | configuration (reason : String)
  | storage (operation reason : String)
  | invalidMessages (reason : String)
deriving DecidableEq

namespace Error

def message : Error → String
  | .localeUnavailable locale => s!"Locale unavailable: {locale}"
  | .source locale _ reason => s!"Source error for '{locale}': {reason}"
  | .templateFormat _ reason => s!"Template format error: {reason}"
  | .configuration reason => s!"Configuration error: {reason}"
  | .storage operation reason => s!"Storage error during '{operation}': {reason}"
  | .invalidMessages reason => s!"Invalid messages: {reason}"

def category : Error → ErrorCategory
  | .localeUnavailable _ => .other
  | .source .. => .network
  | .templateFormat .. => .parsing
  | .configuration _ => .config
  | .storage .. => .storage
  | .invalidMessages _ => .parsing

/-- Trying again, or serving older data, can help. -/
def isRecoverable : Error → Bool
  | .source _ none _ => true
  | .source _ (some status) _ => 500 ≤ status || status == 429
  | .storage .. => true
  | _ => false

end Error

theorem ok_bind {ε α β : Type} (value : α) (next : α → Except ε β) :
    ((.ok value : Except ε α) >>= next) = next value :=
  rfl

theorem bind_eq_ok {ε α β : Type} {result : Except ε α} {next : α → Except ε β} {value : β}
    (bound : (result >>= next) = .ok value) :
    ∃ found, result = .ok found ∧ next found = .ok value := by
  cases result with
  | error fault => contradiction
  | ok found => exact ⟨found, rfl, bound⟩

end Phrasebook
