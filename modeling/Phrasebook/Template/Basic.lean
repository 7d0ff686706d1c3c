import Phrasebook.Plural

namespace Phrasebook

inductive Selector where
  | exact (number : Binary64)
  | category (name : PluralCategory)
deriving DecidableEq

namespace Selector

/-- Two selectors that match the same numbers. -/
def same : Selector → Selector → Bool
  | .exact left, .exact right => left.equals right
  | .category left, .category right => left == right
  | _, _ => false

def text : Selector → String
  | .exact number => String.ofList ('=' :: number.text)
  | .category name => name.keyword

end Selector

/-- Plural arguments choose by count or by rank. -/
inductive PluralKind where
  | cardinal
  | ordinal
deriving DecidableEq

inductive Node where
  | text (text : String)
  | argument (name : String)
  /-- The value of an argument that must be a number. -/
  | number (name : String)
  /-- The number that the enclosing option was chosen by. -/
  | pound
  | plural (name : String) (kind : PluralKind) (offset : Binary64)
      (options : List (Selector × List Node))
  | select (name : String) (options : List (String × List Node))

end Phrasebook
