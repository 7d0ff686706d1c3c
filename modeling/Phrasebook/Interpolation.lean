import Phrasebook.Params
import Phrasebook.Text.WordCharacter

namespace Phrasebook

/-- The name of the placeholder that the text starts with after its brace, and what follows it. -/
def placeholder? (cs : List Char) : Option (List Char × List Char) :=
  match cs.takeWhile Text.isWord, cs.dropWhile Text.isWord with
  | c :: name, '\x7d' :: rest => some (c :: name, rest)
  | _, _ => none

/-- The text that stands for a placeholder: the placeholder itself if its name has no value. -/
def substitute (params : Params) (name : List Char) : List Char :=
  match params.get? (String.ofList name) with
  | some value => value.displayText.toList
  | none => '\x7b' :: (name ++ ['\x7d'])

def interpolateChars (params : Params) : Nat → List Char → List Char
  | 0, cs => cs
  | _ + 1, [] => []
  | fuel + 1, c :: cs =>
      if c = '\x7b' then
        match placeholder? cs with
        | some (name, rest) => substitute params name ++ interpolateChars params fuel rest
        | none => c :: interpolateChars params fuel cs
      else
        c :: interpolateChars params fuel cs

/-- All placeholders are replaced at once: a value that is put in is never looked at again. -/
def interpolate (message : String) (params : Params) : String :=
  String.ofList (interpolateChars params message.toList.length message.toList)

end Phrasebook
