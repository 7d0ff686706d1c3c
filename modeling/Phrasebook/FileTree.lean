import Phrasebook.Dictionary
import Phrasebook.Text.Basic

namespace Phrasebook

inductive FileFault where
  | notFound
  | isDirectory
  | notDirectory
  | alreadyExists
  | invalidText
deriving DecidableEq

namespace FileFault

def message : FileFault → String
  | .notFound => "No such file or directory (os error 2)"
  | .isDirectory => "Is a directory (os error 21)"
  | .notDirectory => "Not a directory (os error 20)"
  | .alreadyExists => "File exists (os error 17)"
  | .invalidText => "stream did not contain valid UTF-8"

end FileFault

/-- There are no links: an entry has one path, and nothing stands for an entry elsewhere. -/
inductive FileEntry where
  | file (content : ByteArray)
  | directory

/-- The names of the directories from the root to an entry, and its own name. -/
abbrev FilePath := List String

structure FileTree where
  /-- The text before paths that start at the root of the tree. -/
  root : String
  /-- The directory in which all other paths start. -/
  base : FilePath
  /-- What there is at each path but the root, which is always a directory. -/
  entries : List (FilePath × FileEntry)

namespace FileTree

/-- The path of a name in a directory.  A name that is a whole path by itself stays as it is. -/
def join (directory name : String) : String :=
  if name.startsWith "/" then name
  else if directory = "" || directory.endsWith "/" then directory ++ name
  else directory ++ "/" ++ name

def baseName (path : FilePath) : String :=
  path.getLast?.getD ""

/-- The directory that holds another one.  What is above the root of the tree is named by two dots,
unless the tree has all files there are. -/
def parent (tree : FileTree) (path : FilePath) : FilePath :=
  if path.all (· = "..") && tree.root ≠ "" then path ++ [".."] else path.dropLast

/-- What there is at a path.  Above the root there are directories. -/
def entry? (tree : FileTree) (path : FilePath) : Option FileEntry :=
  if path.all (· = "..") then some .directory else Keyed.get? path tree.entries

def put (tree : FileTree) (path : FilePath) (entry : FileEntry) : FileTree :=
  { tree with entries := Keyed.put path entry tree.entries }

def erase (tree : FileTree) (path : FilePath) : FileTree :=
  { tree with entries := Keyed.erase path tree.entries }

/-- The components of a text.  A separator at the end counts as one more, which asks for a
directory. -/
def components (text : List Char) : List String :=
  let names := ((Text.segments '/' text).filter (!·.isEmpty)).map String.ofList
  if text.getLast? == some '/' then names ++ ["."] else names

/-- Where a path starts, and the components that are to be followed from there.  Of what lies
outside of the tree, only the outermost directory is there for certain. -/
def start (tree : FileTree) (path : String) : Except FileFault (FilePath × List String) :=
  let root := tree.root.toList
  let text := path.toList
  if path = "" then
    .error .notFound
  else if text = root then
    .ok ([], [])
  else if (root ++ ['/']).isPrefixOf text then
    .ok ([], components (text.drop root.length))
  else if text.head? == some '/' then
    .error (if (components text).all (· ∈ [".", ".."]) then .isDirectory else .notFound)
  else
    .ok (tree.base, components text)

def follow (tree : FileTree) (place : FilePath) :
    List String → Except FileFault (FilePath × Option FileEntry)
  | [] => .ok (place, tree.entry? place)
  | name :: names =>
      match tree.entry? place with
      | some .directory =>
          if name = "." then tree.follow place names
          else if name = ".." then tree.follow (tree.parent place) names
          else tree.follow (place ++ [name]) names
      | some (.file _) => .error .notDirectory
      | none => .error .notFound

/-- The place of a path, and what there is.  All directories on the way must exist. -/
def locate (tree : FileTree) (path : String) : Except FileFault (FilePath × Option FileEntry) :=
  match tree.start path with
  | .ok (place, names) => tree.follow place names
  | .error fault => .error fault

def readBytes (tree : FileTree) (path : String) : Except FileFault ByteArray :=
  match tree.locate path with
  | .ok (_, some (.file content)) => .ok content
  | .ok (_, some .directory) => .error .isDirectory
  | .ok (_, none) => .error .notFound
  | .error fault => .error fault

def readText (tree : FileTree) (path : String) : Except FileFault String :=
  match tree.readBytes path with
  | .ok content =>
      match String.fromUTF8? content with
      | some text => .ok text
      | none => .error .invalidText
  | .error fault => .error fault

def write (tree : FileTree) (path : String) (content : ByteArray) :
    Except FileFault Unit × FileTree :=
  match tree.locate path with
  | .ok (_, some .directory) => (.error .isDirectory, tree)
  | .ok (place, _) => (.ok (), tree.put place (.file content))
  | .error fault => (.error fault, tree)

def makeDirectories (tree : FileTree) (place : FilePath) :
    List String → Except FileFault Unit × FileTree
  | [] => (.ok (), tree)
  | name :: names =>
      let next :=
        if name = "." then place else if name = ".." then tree.parent place else place ++ [name]
      match tree.entry? next with
      | some .directory => tree.makeDirectories next names
      | none => (tree.put next .directory).makeDirectories next names
      | some (.file _) =>
          (.error (if names.isEmpty then .alreadyExists else .notDirectory), tree)

/-- Make a directory and all that are missing above it.  Nothing is to be made for an empty path. -/
def createDirectories (tree : FileTree) (path : String) : Except FileFault Unit × FileTree :=
  if path = "" then
    (.ok (), tree)
  else
    match tree.start path with
    | .ok (place, names) => tree.makeDirectories place (names.filter (· ≠ "."))
    | .error fault => (.error fault, tree)

/-- Give a file another path.  A file that is there is replaced, a directory is not. -/
def rename (tree : FileTree) (source target : String) : Except FileFault Unit × FileTree :=
  match tree.locate source, tree.locate target with
  | .ok (place, some (.file content)), .ok (goal, found) =>
      match found with
      | some .directory => (.error .isDirectory, tree)
      | _ => (.ok (), (tree.erase place).put goal (.file content))
  | .ok (_, some .directory), .ok _ => (.error .isDirectory, tree)
  | .ok (_, none), _ => (.error .notFound, tree)
  | .error fault, _ => (.error fault, tree)
  | _, .error fault => (.error fault, tree)

def removeFile (tree : FileTree) (path : String) : Except FileFault Unit × FileTree :=
  match tree.locate path with
  | .ok (place, some (.file _)) => (.ok (), tree.erase place)
  | .ok (_, some .directory) => (.error .isDirectory, tree)
  | .ok (_, none) => (.error .notFound, tree)
  | .error fault => (.error fault, tree)

def namesIn (tree : FileTree) (place : FilePath) : List String :=
  (tree.entries.filter fun entry => decide (entry.1 ≠ [] ∧ entry.1.dropLast = place)).map
    fun entry => baseName entry.1

def list (tree : FileTree) (path : String) : Except FileFault (List String) :=
  match tree.locate path with
  | .ok (place, some .directory) => .ok (Text.sorted (tree.namesIn place))
  | .ok (_, some (.file _)) => .error .notDirectory
  | .ok (_, none) => .error .notFound
  | .error fault => .error fault

def isDirectory (tree : FileTree) (path : String) : Bool :=
  match tree.locate path with
  | .ok (_, some .directory) => true
  | _ => false

def files (tree : FileTree) : List FilePath :=
  tree.entries.filterMap fun entry =>
    match entry.2 with
    | .file _ => if entry.1.head? == some ".." then none else some entry.1
    | .directory => none

def content? (tree : FileTree) (place : FilePath) : Option ByteArray :=
  match tree.entry? place with
  | some (.file content) => some content
  | _ => none

/-- The files that `after` has, and that were not there with the same content. -/
def written (before after : FileTree) : List (FilePath × ByteArray) :=
  after.entries.filterMap fun entry =>
    match entry.2 with
    | .file content =>
        if (before.content? entry.1).any (·.data = content.data) then none
        else some (entry.1, content)
    | .directory => none

def removed (before after : FileTree) : List FilePath :=
  (before.entries.map Prod.fst).filter fun place =>
    (before.content? place).isSome && (after.content? place).isNone

/-- The stem and the extension of a file name.  A dot in front does not start an extension. -/
def stemAndExtension (name : String) : String × Option String :=
  let backward := name.toList.reverse
  let suffix := backward.takeWhile (· ≠ '.')
  match backward.dropWhile (· ≠ '.') with
  | _ :: c :: stem =>
      (String.ofList (c :: stem).reverse, some (String.ofList suffix.reverse))
  | _ => (name, none)

end FileTree

namespace Dictionary

def ofFile (tree : FileTree) (path : String) : Except Error Dictionary :=
  match tree.readText path with
  | .ok text => read text
  | .error fault => .error (.storage s!"read {path}" fault.message)

end Dictionary

end Phrasebook
