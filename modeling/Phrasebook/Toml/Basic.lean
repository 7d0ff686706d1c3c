import Phrasebook.Keyed
import Phrasebook.Number.Binary64
import Phrasebook.Toml.DateTime

namespace Phrasebook

/-- How a table came to be, which decides what may be added to it later. -/
inductive TableKind where
  | closed
  | header
  /-- Named on the way to a header only. -/
  | implicit
  | dotted
deriving DecidableEq

inductive Toml where
  | string (value : String)
  | integer (value : Int)
  | float (value : Binary64)
  | boolean (value : Bool)
  | dateTime (value : DateTime)
  /-- An array in brackets, or one of tables to which headers add. -/
  | array (isOpen : Bool) (items : List Toml)
  | table (kind : TableKind) (entries : List (String × Toml))

namespace Toml

abbrev Entries := List (String × Toml)

instance : Inhabited Toml := ⟨.table .header []⟩

def passingKind (byDots : Bool) : TableKind :=
  if byDots then .dotted else .implicit

/-- Change what is found at the end of a path of keys, making the tables that are missing.  In an
array of tables the way goes on in the last of them.  Dotted keys do not lead through a table that
has a header of its own. -/
def descend (byDots : Bool) (change : TableKind → Entries → Option Entries) :
    List String → TableKind → Entries → Option Entries
  | [], kind, entries => change kind entries
  | key :: path, _, entries =>
      match Keyed.get? key entries with
      | none => do
          let inner ← descend byDots change path (passingKind byDots) []
          some (Keyed.put key (.table (passingKind byDots) inner) entries)
      | some (.table .closed _) => none
      | some (.table kind inner) =>
          if byDots && kind = .header then
            none
          else do
            let inner ← descend byDots change path kind inner
            some (Keyed.put key (.table kind inner) entries)
      | some (.array true items) =>
          match items.getLast? with
          | some (.table kind inner) => do
              let inner ← descend byDots change path kind inner
              some (Keyed.put key (.array true (items.dropLast ++ [.table kind inner])) entries)
          | _ => none
      | some _ => none

/-- Add a value under a dotted key to a table.  A key cannot be given twice, and only dotted keys
can add to a table that they have made. -/
def addValue (path : List String) (key : String) (value : Toml) :
    TableKind → Entries → Option Entries :=
  descend true
    (fun kind entries =>
      if decide (kind = .dotted) = path.isEmpty || (Keyed.get? key entries).isSome then none
      else some (Keyed.put key value entries))
    path

def openTable (key : String) (entries : Entries) : Option Entries :=
  match Keyed.get? key entries with
  | none => some (Keyed.put key (.table .header []) entries)
  | some (.table .implicit inner) => some (Keyed.put key (.table .header inner) entries)
  | some _ => none

def openItem (key : String) (entries : Entries) : Option Entries :=
  match Keyed.get? key entries with
  | none => some (Keyed.put key (.array true [.table .header []]) entries)
  | some (.array true items) =>
      some (Keyed.put key (.array true (items ++ [.table .header []])) entries)
  | some _ => none

end Toml

end Phrasebook
