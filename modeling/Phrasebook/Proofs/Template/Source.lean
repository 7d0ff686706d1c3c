import Phrasebook.Template.Parser

namespace Phrasebook

def PluralKind.keyword : PluralKind → String
  | .cardinal => "plural"
  | .ordinal => "selectordinal"

namespace Template

def doubled (text : List Char) : List Char :=
  text.flatMap fun c => if c = '\'' then ['\'', '\''] else [c]

def textSource (context : Context) : List Char → List Char
  | [] => []
  | c :: cs =>
      if opensQuote context c then '\'' :: (doubled (c :: cs) ++ ['\''])
      else doubled [c] ++ textSource context cs

def offsetSource (offset : Binary64) : List Char :=
  if offset.equals .zero then [] else ' ' :: (offsetMark ++ offset.text)

def optionSource (selector : String) (body : List Char) : List Char :=
  ' ' :: (selector.toList ++ ' ' :: '\x7b' :: (body ++ ['\x7d']))

/-- An argument with a kind, up to what follows the name of the kind. -/
def kindSource (name kind : String) (rest : List Char) : List Char :=
  '\x7b' :: (name.toList ++ ',' :: ' ' :: (kind.toList ++ rest))

mutual

def nodeSource (context : Context) : Node → List Char
  | .text text => textSource context text.toList
  | .argument name => '\x7b' :: (name.toList ++ ['\x7d'])
  | .number name => kindSource name "number" ['\x7d']
  | .pound => ['#']
  | .plural name kind offset options =>
      kindSource name kind.keyword
        (',' :: (offsetSource offset ++ pluralSource options ++ ['\x7d']))
  | .select name options => kindSource name "select" (',' :: (selectSource options ++ ['\x7d']))

def messageSource (context : Context) : List Node → List Char
  | [] => []
  | node :: nodes => nodeSource context node ++ messageSource context nodes

def pluralSource : List (Selector × List Node) → List Char
  | [] => []
  | (selector, body) :: options =>
      optionSource selector.text (messageSource .pluralOption body) ++ pluralSource options

def selectSource : List (String × List Node) → List Char
  | [] => []
  | (key, body) :: options =>
      optionSource key (messageSource .selectOption body) ++ selectSource options

end

def source (template : List Node) : String :=
  String.ofList (messageSource .top template)

end Template

end Phrasebook
