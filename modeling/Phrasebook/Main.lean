import Phrasebook.CommandLine.Commands
import Std.Time.DateTime.Timestamp

namespace Phrasebook.Program

/-! The program: what a command may look at is read first, and what it has changed is written when
it has run.  There is no network, so that a remote source can only serve what its cache holds. -/

open CommandLine

def offline : Network Unit Unit where
  endpoint := .unreachable
  redis _ := .error "no network"

/-- Put what is found at a path into the tree, with the directories inside it up to a depth. -/
def load : Nat → String → FileTree → IO FileTree
  | depth, path, tree => do
      let file := (← IO.currentDir) / path
      if ← file.isDir then
        let tree := (tree.createDirectories path).2
        match depth with
        | 0 => return tree
        | depth + 1 =>
            (← file.readDir).foldlM
              (fun tree entry => load depth (FileTree.join path entry.fileName) tree) tree
      else if ← file.pathExists then
        let directory := (file.parent.map toString).getD "/"
        let content ← IO.FS.readBinFile file
        return ((tree.createDirectories directory).2.write path content).2
      else
        return tree

def loadAll (depth : Nat) (paths : List String) (tree : FileTree) : IO FileTree :=
  paths.foldlM (fun tree path => load depth path tree) tree

def emptyTree : IO FileTree := do
  let here := toString (← IO.currentDir)
  let tree : FileTree := ⟨"", FileTree.components here.toList, []⟩
  return (tree.createDirectories here).2

def readEnvironment : IO Config.Environment := do
  let given ← Config.variableNames.mapM fun name => return (name, ← IO.getEnv name)
  return given.filterMap fun (name, value) => value.map (name, ·)

def currentTime : IO Int64 := do
  let now ← Std.Time.Timestamp.now
  return .ofInt now.toMillisecondsSinceUnixEpoch.val

def pathOf (place : FilePath) : String :=
  "/" ++ "/".intercalate place

/-- Write a file beside its place first, so that nobody finds it half written. -/
def writeFile (place : FilePath) (content : ByteArray) : IO Unit := do
  let path := pathOf place
  IO.FS.createDirAll (pathOf place.dropLast)
  IO.FS.writeBinFile (path ++ ".part") content
  IO.FS.rename (path ++ ".part") path

def apply (before after : FileTree) : IO Unit := do
  for place in before.removed after do
    IO.FS.removeFile (pathOf place)
  for (place, content) in before.written after do
    writeFile place content

def loadFor (environment : Config.Environment) (words : List String) : IO FileTree := do
  let tree ← emptyTree
  match parse words with
  | .error _ => return tree
  | .ok invocation =>
      let tree ← loadAll 0 invocation.options.config.toList tree
      loadAll 2 (neededPaths environment tree invocation) tree

end Phrasebook.Program

open Phrasebook Phrasebook.Program in
def main (words : List String) : IO UInt32 := do
  let environment ← readEnvironment
  let tree ← loadFor environment words
  let (report, world) :=
    CommandLine.run offline (← currentTime) environment words (.create () tree ())
  IO.print report.output
  IO.eprint report.errors
  apply tree world.files
  return report.exitCode.toUInt32
