import Phrasebook.Text.Basic
import Phrasebook.Text.WordCharacter

namespace Phrasebook.Template

def optionKinds : List (List Char) :=
  ["plural".toList, "select".toList, "selectordinal".toList]

def comma? (cs : List Char) : Option (List Char) :=
  match Text.dropBlanks cs with
  | ',' :: rest => some rest
  | _ => none

def announcesOptions (cs : List Char) : Bool :=
  optionKinds.any fun kind => kind.isPrefixOf cs && (comma? (cs.drop kind.length)).isSome

def opensOptions (cs : List Char) : Bool :=
  let start := Text.dropBlanks cs
  match start.takeWhile Text.isWord, comma? (start.dropWhile Text.isWord) with
  | _ :: _, some rest => announcesOptions (Text.dropBlanks rest)
  | _, _ => false

def hasOptions : List Char → Bool
  | [] => false
  | c :: cs => (c == '\x7b' && opensOptions cs) || hasOptions cs

/-- Whether somewhere in a message a brace, a name of word characters, a comma, a word that
announces options and another comma follow each other, with blanks between them. -/
def isTemplate (message : String) : Bool :=
  hasOptions message.toList

end Phrasebook.Template
