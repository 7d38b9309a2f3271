import SchemaMigration.Descriptor
import SchemaMigration.File.Tree

/-!
# Migrations directories

Each file with one of the known extensions in the migrations directory is one migration, whose key
is the file name without the extension.  A directory is loaded as a whole or not at all.
-/

namespace SchemaMigration.Descriptor

/-- The extensions of migration files. -/
def extensions : List String := ["json", "js", "yml", "yaml"]

/-- Whether the name in a path is that of a migration file. -/
def hasFileName (path : String) : Bool :=
  !((Path.fileName? path).any fun name => name.toList.head? == some '.') &&
    (Path.extension? path).any fun e => extensions.contains e

/-- Whether a path leads to a migration file. -/
def isFile (tree : FileTree) (path : String) : Bool := tree.isFile path && hasFileName path

/-- The migration in the file that a path leads to. -/
def ofFile (tree : FileTree) (path : String) : Except ProjectError Descriptor :=
  match (Path.stem? path).bind MigrationKey.ofText? with
  | none => .error (.badDescriptor path .noKey)
  | some key =>
    match tree.readText path with
    | .error cause => .error (.file path cause)
    | .ok text => ofText key path text

/-- The paths of the entries of a directory. -/
def entryPaths (tree : FileTree) (directory : String) : Except ProjectError (List String) :=
  if !tree.isDirectory directory then .error (.directoryNotFound directory)
  else
    match tree.names directory with
    | .error cause => .error (.file directory cause)
    | .ok names => .ok (names.map (Path.join directory))

/-- The records of the entries that are no migration files. -/
def skipLog (tree : FileTree) (paths : List String) : List LogRecord :=
  (paths.filter fun path => !isFile tree path).map fun path =>
    ⟨.debug, "Skipping non-migration entry " ++ path⟩

/-- The record of a directory that has been loaded. -/
def loadedRecord (directory : String) (loaded : List Descriptor) : LogRecord :=
  ⟨.debug, "Loaded " ++ Numeral.ofNat loaded.length ++ " migrations from " ++ directory⟩

/-- Loads the migrations of a directory in order, with the records of doing so. -/
def load (tree : FileTree) (directory : String) :
    Except ProjectError (List Descriptor) × List LogRecord :=
  match entryPaths tree directory with
  | .error e => (.error e, [])
  | .ok paths =>
    match (paths.filter (isFile tree)).mapM (ofFile tree) >>= sort with
    | .error e => (.error e, skipLog tree paths)
    | .ok sorted => (.ok sorted, skipLog tree paths ++ [loadedRecord directory sorted])

end SchemaMigration.Descriptor
