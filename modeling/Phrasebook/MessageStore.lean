import Phrasebook.Dictionary

namespace Phrasebook

/-! The dictionaries of all locales.

A locale is loaded once its own dictionary was set.  Fragments of namespaces may be merged into it
before that: they give it a dictionary without making it loaded, and are carried over into the
first dictionary that is set.  Later dictionaries drop them.
-/

structure MessageStore where
  dictionaries : List (String × Dictionary)
  /-- The locales whose own dictionary was set. -/
  loaded : List String
  /-- The namespaces that were merged into the dictionary of each locale. -/
  namespaces : List (String × List String)

namespace MessageStore

def empty : MessageStore := ⟨[], [], []⟩

def seeded (dictionaries : List (String × Dictionary)) : MessageStore where
  dictionaries := dictionaries.foldl (fun entries entry => Keyed.put entry.1 entry.2 entries) []
  loaded := Keyed.keys dictionaries
  namespaces := []

def dictionary? (store : MessageStore) (locale : String) : Option Dictionary :=
  Keyed.get? locale store.dictionaries

def hasLocale (store : MessageStore) (locale : String) : Bool :=
  locale ∈ store.loaded

def markers (store : MessageStore) (locale : String) : List String :=
  (Keyed.get? locale store.namespaces).getD []

def hasNamespace (store : MessageStore) (locale name : String) : Bool :=
  name ∈ store.markers locale

/-- `dictionary` with those fragments of `previous` that stand under the given names merged into
it. -/
def carryOver (previous : Dictionary) (names : List String) (dictionary : Dictionary) :
    Dictionary :=
  names.foldl
    (fun dictionary name =>
      match previous.fragment? name with
      | some fragment => dictionary.mergeNamespace name fragment
      | none => dictionary)
    dictionary

def setLocale (store : MessageStore) (locale : String) (dictionary : Dictionary) :
    MessageStore :=
  match store.hasLocale locale, store.dictionary? locale with
  | false, some previous =>
      let dictionary := carryOver previous (store.markers locale) dictionary
      { store with
        dictionaries := Keyed.put locale dictionary store.dictionaries
        loaded := store.loaded ++ [locale] }
  | loaded, _ =>
      { dictionaries := Keyed.put locale dictionary store.dictionaries
        loaded := if loaded then store.loaded else store.loaded ++ [locale]
        namespaces := Keyed.erase locale store.namespaces }

/-- Merge a fragment into the dictionary of a locale, which is made if there is none. -/
def mergeNamespace (store : MessageStore) (locale name : String) (fragment : Dictionary) :
    MessageStore :=
  let dictionary := (store.dictionary? locale).getD .empty
  let names := store.markers locale
  { store with
    dictionaries := Keyed.put locale (dictionary.mergeNamespace name fragment) store.dictionaries
    namespaces :=
      Keyed.put locale (if name ∈ names then names else names ++ [name]) store.namespaces }

def find? (store : MessageStore) (locale key : String) : Option String :=
  (store.dictionary? locale).bind (·.find? key)

/-- The first locale of a chain that has a message for the key, and the message. -/
def resolve (store : MessageStore) (chain : List String) (key : String) :
    Option (String × String) :=
  chain.findSome? fun locale => (store.find? locale key).map (locale, ·)

def locales (store : MessageStore) : List String :=
  (Keyed.keys store.dictionaries).mergeSort (fun left right => decide (left ≤ right))

def snapshot (store : MessageStore) : List (String × Dictionary) :=
  store.dictionaries

end MessageStore

end Phrasebook
