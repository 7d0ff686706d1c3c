import Phrasebook.Text.Basic
import Phrasebook.Text.CaseMap

namespace Phrasebook.Locale

def isSeparator (c : Char) : Bool :=
  c = '-' || c = '_'

def cut (cs : List Char) : List Char × Option (List Char) :=
  (cs.takeWhile (!isSeparator ·),
    match cs.dropWhile (!isSeparator ·) with
    | [] => none
    | _ :: rest => some rest)

/-- The base language and the region.  An empty region counts as none. -/
def split (locale : String) : String × Option String :=
  match cut locale.toList with
  | (base, some (c :: rest)) => (String.ofList base, some (String.ofList (c :: rest)))
  | (base, _) => (String.ofList base, none)

def addOnce (codes : List String) (code : String) : List String :=
  if code ∈ codes then codes else codes ++ [code]

/-- The locales in which a message is looked up, most specific first: the locale itself if it has
a region, its base language, and the fallback. -/
def fallbackChain (locale fallback : String) : List String :=
  let (base, region) := split locale
  let specific := if region.isSome then [locale] else []
  addOnce (addOnce specific base) fallback

/-- A region of two bytes in upper case; any other as it is. -/
def normalizeRegion (region : String) : String :=
  if region.utf8ByteSize = 2 then Text.toUpper region else region

/-- The form `language-REGION`.  What follows the region keeps its spelling. -/
def normalize (locale : String) : String :=
  let (base, region) := split (Text.trim locale)
  let language := Text.toLower base
  match region with
  | none => language
  | some region =>
      match cut region.toList with
      | (first, none) => s!"{language}-{normalizeRegion (String.ofList first)}"
      | (first, some rest) =>
          let variant := String.ofList rest
          s!"{language}-{normalizeRegion (String.ofList first)}-{variant}"

def baseLanguage (locale : String) : String :=
  Text.toLower (split locale).1

end Phrasebook.Locale
