import Phrasebook.Json.Printer
import Phrasebook.Text.Basic

namespace Phrasebook

namespace Json

/-- A value as it is shown in a message: nothing for null, a string without quotes, and the JSON
text of an array or an object. -/
def displayText : Json → String
  | .null => ""
  | .string text => text
  | .double number => String.ofList number.displayText
  | other => other.render

def number? : Json → Option Binary64
  | .integer value => some (.ofInt value)
  | .double number => some number
  | .string text => Binary64.read? (Text.trim text).toList
  | _ => none

end Json

structure Params where
  entries : List (String × Json)

namespace Params

def empty : Params := ⟨[]⟩

def get? (params : Params) (name : String) : Option Json :=
  Keyed.get? name params.entries

def insert (params : Params) (name : String) (value : Json) : Params :=
  ⟨Keyed.put name value params.entries⟩

def ofList (entries : List (String × Json)) : Params :=
  entries.foldl (fun params entry => params.insert entry.1 entry.2) empty

def number? (params : Params) (name : String) : Option Binary64 :=
  (params.get? name).bind Json.number?

end Params

end Phrasebook
