import Phrasebook.FileTree
import Phrasebook.Locale
import Phrasebook.Source.Basic

namespace Phrasebook

/-- The file `locale.json` holds the dictionary of a locale, and the file `locale/name.json` the
fragment of a namespace. -/
structure MessageDirectory where
  locales : List (String × Dictionary)
  fragments : List (FragmentName × Dictionary)

namespace MessageDirectory

def empty : MessageDirectory := ⟨[], []⟩

def jsonStem? (name : String) : Option String :=
  match FileTree.stemAndExtension name with
  | (stem, some "json") => some stem
  | _ => none

def addFragments (tree : FileTree) (path locale : String) :
    List String → MessageDirectory → Except Error MessageDirectory
  | [], directory => .ok directory
  | name :: names, directory =>
      match jsonStem? name with
      | none => addFragments tree path locale names directory
      | some stem => do
          let fragment ← Dictionary.ofFile tree (FileTree.join path name)
          addFragments tree path locale names
            { directory with fragments := Keyed.put (locale, stem) fragment directory.fragments }

/-- The locale whose fragments a directory with this name holds.  It is named by the stem alone. -/
def localeOf (name : String) : String :=
  Locale.normalize (FileTree.stemAndExtension name).1

/-- Add what is found under a name: the fragments of a directory, or the dictionary of a file.  Each
directory gives its names in an order of its own. -/
def addEntryInOrder (order : String → List String → List String) (tree : FileTree)
    (path name : String) (directory : MessageDirectory) : Except Error MessageDirectory :=
  let entryPath := FileTree.join path name
  if tree.isDirectory entryPath then
    match tree.list entryPath with
    | .ok names => addFragments tree entryPath (localeOf name) (order entryPath names) directory
    | .error _ => .ok directory
  else
    match jsonStem? name with
    | some stem => do
        let dictionary ← Dictionary.ofFile tree entryPath
        .ok { directory with locales := directory.locales ++ [(stem, dictionary)] }
    | none => .ok directory

def addEntriesInOrder (order : String → List String → List String) (tree : FileTree)
    (path : String) : List String → MessageDirectory → Except Error MessageDirectory
  | [], directory => .ok directory
  | name :: names, directory => do
      let directory ← addEntryInOrder order tree path name directory
      addEntriesInOrder order tree path names directory

def readInOrder (order : String → List String → List String) (tree : FileTree) (path : String) :
    Except Error MessageDirectory :=
  match tree.list path with
  | .ok names => addEntriesInOrder order tree path (order path names) empty
  | .error fault =>
      let reason := fault.message
      .error (.configuration s!"Failed to read messages dir {path}: {reason}")

def namespaces (directory : MessageDirectory) : NamespaceSource σ :=
  .static FragmentName.label directory.fragments

end MessageDirectory

end Phrasebook
