import SchemaMigration.Descriptor.Directory
import SchemaMigration.Json.Printer
import SchemaMigration.Text.Blank
import SchemaMigration.Timestamp

/-!
# New migrations

A new migration is an empty file whose name starts with the moment at which it is made, so that
later migrations come later in the order of keys.  It is made when nothing stands in its way; if
writing it fails then, what has been written stays (`makeFile`).
-/

namespace SchemaMigration.Descriptor

/-- Whether a text may be the name of a migration. -/
def isValidName (name : String) : Bool :=
  let cs := name.toList
  !cs.isEmpty && cs.head? != some '.' &&
    !cs.any fun c => c == '/' || c == '\\' || Text.isBlank c

/-- The file name of a migration that is made at a moment. -/
def newFileName (name : String) (now : Timestamp) : Except ProjectError String :=
  if isValidName name then .ok (now.text ++ "_" ++ name ++ ".json")
  else .error (.badSetting (.badMigrationName name))

/-- The content of a new migration. -/
def emptyText : String := (Json.object [("up", .array [])]).pretty ++ "\n"

/-- Makes a migration in a directory and gives its path; no file is overwritten. -/
def makeFile (tree : FileTree) (directory name : String) (now : Timestamp) :
    Except ProjectError String × FileTree :=
  if !tree.isDirectory directory then (.error (.directoryNotFound directory), tree)
  else
    match newFileName name now with
    | .error e => (.error e, tree)
    | .ok fileName =>
      let path := Path.join directory fileName
      if tree.pathExists path then (.error (.descriptorExists path), tree)
      else
        match tree.write path (.text emptyText) with
        | (.ok _, tree) => (.ok path, tree)
        | (.error cause, tree) => (.error (.file path cause), tree)

/-- The path of a migration that is made, and the tree with it. -/
def createFile (tree : FileTree) (directory name : String) (now : Timestamp) :
    Except ProjectError (String × FileTree) :=
  match makeFile tree directory name now with
  | (.ok path, tree) => .ok (path, tree)
  | (.error e, _) => .error e

end SchemaMigration.Descriptor
