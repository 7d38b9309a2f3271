import SchemaMigration.CommandLine.Session
import Std.Time.Format

/-!
# The program

Reads the files that a command may look at, runs the command on them, prints what it prints and
writes the files that it has changed.
-/

namespace SchemaMigration.Program
open CommandLine

/-- The tree with an entry that cannot be read. -/
def closed (tree : FileTree) (path : String) (entry : FileEntry) (e : IO.Error) : FileTree :=
  let tree := tree.place path entry
  match tree.find path with
  | .error _ => tree
  | .ok place =>
    let read (location : Location) : Option FileError :=
      if location = place.location then some (.refused (toString e))
      else tree.faults.read location
    { tree with faults := { tree.faults with read } }

/-- Adds what the disk has at a path, and inside it, to a tree. -/
partial def readPlace (tree : FileTree) (path : String) : IO FileTree := do
  let place := (← IO.currentDir) / path
  if ← place.isDir then
    let mut tree := tree.place path .directory
    let entries ← try place.readDir catch e => return closed tree path .directory e
    for entry in entries do
      tree ← readPlace tree (Path.join path entry.fileName)
    return tree
  else if ← place.pathExists then
    let bytes ← try IO.FS.readBinFile place catch e => return closed tree path (.file (.text "")) e
    return tree.place path (.file (.ofBytes bytes))
  else
    return tree

/-- A tree that has only the working directory. -/
def emptyTree : IO FileTree := do
  let path := (← IO.currentDir).toString
  let tree : FileTree := { entries := [], working := [] }
  let working := (Text.split path '/').filter fun part => part != ""
  return { tree.place path .directory with working }

/-- The path of the database that the configuration in a tree names. -/
def databasePlaces (i : Invocation) (tree : FileTree) : List String :=
  match loadConfig i tree with
  | .ok config =>
    (config.databaseFor i.target).toOption.toList.map fun settings =>
      Path.join i.projectDirectory settings.path
  | .error _ => []

/-- The tree of what a command may look at: the project, the files and directories that the
arguments name, and the database. -/
def readTree (i : Invocation) : IO FileTree := do
  let named := i.projectDirectory :: (i.config.toList ++ i.migrations.toList)
  let tree ← named.foldlM readPlace (← emptyTree)
  (databasePlaces i tree).foldlM readPlace tree

/-- Writes one changed entry to the disk. -/
def writeEntry : Location × FileEntry → IO Unit
  | (location, entry) => do
    let path := "/" ++ Text.joinWith "/" location
    match entry with
    | .directory => IO.FS.createDirAll path
    | .file content => IO.FS.writeBinFile path content.bytes

/-- The present moment. -/
def now : IO Timestamp := do
  let t ← Std.Time.PlainDateTime.now
  return {
    year := t.year.toInt
    month := t.month.val.toNat
    day := t.day.val.toNat
    hour := t.hour.val.toNat
    minute := t.minute.val.toNat
    second := t.second.val.toNat }

/-- Runs the command of an invocation. -/
def execute (i : Invocation) : IO UInt32 := do
  let tree ← readTree i
  let (result, session) := run i (← now) { tree }
  (session.tree.changes tree).forM writeEntry
  IO.print session.output
  IO.eprint session.errors
  match result with
  | .ok () => return 0
  | .error messages =>
    IO.eprintln (failureText messages)
    return 1

end SchemaMigration.Program

open SchemaMigration in
/-- Reads the arguments and runs the command that they name. -/
def main (arguments : List String) : IO UInt32 := do
  match CommandLine.read arguments with
  | .ok invocation => Program.execute invocation
  | .error e =>
    IO.eprintln e.name
    return if e = .displayHelp ∨ e = .displayVersion then 0 else 2
