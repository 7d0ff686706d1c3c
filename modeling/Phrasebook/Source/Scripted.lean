import Phrasebook.Source.Basic

namespace Phrasebook

abbrev Script := List (String × List LoadOutcome)

namespace Script

/-- A load takes the next outcome of its name, and the last one again and again.  Names that are not
listed are unavailable. -/
def take (script : Script) (name : String) : LoadOutcome × Script :=
  match Keyed.get? name script with
  | some (outcome :: []) => (outcome, script)
  | some (outcome :: rest) => (outcome, Keyed.put name rest script)
  | _ => (.error (.localeUnavailable name), script)

def load : Loader String Script :=
  fun _ name script =>
    let (outcome, script) := script.take name
    (.awaiting fun _ state => (outcome, state), script)

def source : MessageSource Script where
  load := load
  offers locale script := locale ∈ Keyed.keys script
  available script := Text.sorted (Keyed.keys script)

end Script

end Phrasebook
