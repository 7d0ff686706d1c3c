import Phrasebook.Cache.Storage
import Phrasebook.FileTree
import Phrasebook.Text.Sha256

namespace Phrasebook

/-! Cache records as files of one directory.

The file of a key is named by the key's hash.  A record is written to a temporary file first, and
takes its place by a change of name, so that nobody reads a record that is only partly written.
-/

namespace FileStorage

def recordName (key : String) : String :=
  Sha256.hexDigest key ++ ".json"

def recordPath (directory key : String) : String :=
  FileTree.join directory (recordName key)

def temporaryPath (directory key : String) : String :=
  FileTree.join directory (recordName key ++ ".tmp")

def isLowerHex (c : Char) : Bool :=
  ('0' ≤ c && c ≤ '9') || ('a' ≤ c && c ≤ 'f')

/-- Files of such names are records, or were to become records. -/
def isRecordName (name : String) : Bool :=
  let hash := name.toList.take 64
  let rest := String.ofList (name.toList.drop 64)
  hash.length = 64 && hash.all isLowerHex && (rest = ".json" || rest = ".json.tmp")

def fault (verb path : String) (fault : FileFault) : Error :=
  .storage s!"{verb} {path}" fault.message

def outcome (verb path : String) : Except FileFault α × FileTree → Except Error α × FileTree
  | (.ok value, tree) => (.ok value, tree)
  | (.error reason, tree) => (.error (fault verb path reason), tree)

def get (directory key : String) (tree : FileTree) :
    Except Error (Option CacheRecord) × FileTree :=
  let path := recordPath directory key
  match tree.readText path with
  | .ok text => (.ok (CacheRecord.decode text), tree)
  | .error .notFound => (.ok none, tree)
  | .error reason => (.error (fault "read" path reason), tree)

/-- What is done, in this order, to store a record. -/
inductive WriteStep where
  | makeDirectory
  | writeTemporary
  | publish
deriving DecidableEq

def WriteStep.run (directory key text : String) (tree : FileTree) :
    WriteStep → Except Error Unit × FileTree
  | .makeDirectory => outcome "create" directory (tree.createDirectories directory)
  | .writeTemporary =>
      let path := temporaryPath directory key
      outcome "write" path (tree.write path text.toUTF8)
  | .publish =>
      let path := recordPath directory key
      outcome "rename" path (tree.rename (temporaryPath directory key) path)

def runSteps (directory key text : String) :
    List WriteStep → FileTree → Except Error Unit × FileTree
  | [], tree => (.ok (), tree)
  | step :: steps, tree =>
      match step.run directory key text tree with
      | (.ok (), tree) => runSteps directory key text steps tree
      | failed => failed

def set (directory key : String) (record : CacheRecord) (tree : FileTree) :
    Except Error Unit × FileTree :=
  runSteps directory key record.encode [.makeDirectory, .writeTemporary, .publish] tree

/-- Remove a file that may be missing. -/
def remove (directory key : String) (tree : FileTree) : Except Error Unit × FileTree :=
  let path := recordPath directory key
  match tree.removeFile path with
  | (.error .notFound, tree) => (.ok (), tree)
  | result => outcome "remove" path result

def removeAll (directory : String) : List String → FileTree → Except Error Unit × FileTree
  | [], tree => (.ok (), tree)
  | name :: names, tree =>
      let path := FileTree.join directory name
      match outcome "remove" path (tree.removeFile path) with
      | (.ok (), tree) => removeAll directory names tree
      | failed => failed

/-- Remove all records of a directory, which lists its names in some order. -/
def clearInOrder (order : List String → List String) (directory : String) (tree : FileTree) :
    Except Error Unit × FileTree :=
  match tree.list directory with
  | .ok names => removeAll directory ((order names).filter isRecordName) tree
  | .error .notFound => (.ok (), tree)
  | .error reason => (.error (fault "list" directory reason), tree)

def clear : String → FileTree → Except Error Unit × FileTree :=
  clearInOrder id

end FileStorage

namespace Storage

def files (directory : String) : Storage FileTree where
  get := FileStorage.get directory
  set := FileStorage.set directory
  remove := FileStorage.remove directory
  clear := FileStorage.clear directory

end Storage

end Phrasebook
