import SchemaMigration.Database.Driver
import SchemaMigration.Database.Memory
import SchemaMigration.Json.Reader

/-!
# Databases in files

A database whose state is kept in a file.  The state is written when the database is opened and
after each statement, and the SQL of a failing call stands at the end of its error.
-/

namespace SchemaMigration

/-- A database that has been opened. -/
structure StoredDatabase where
  /-- the file that keeps the state; a database in memory has none -/
  path : Option String
  memory : MemoryDatabase
  deriving Repr

namespace StoredDatabase

/-- The name of the kind of databases. -/
def typeName : String := "duckdb"

/-- The file tree with the state written to its file. -/
def save (db : StoredDatabase) (tree : FileTree) : Except FileError Unit × FileTree :=
  match db.path with
  | none => (.ok (), tree)
  | some path => tree.write path (.text db.memory.text)

/-- What is wrong with a file that keeps no state. -/
def notDatabase : String := "not a database file"

/-- What is wrong with a file that cannot be written. -/
def cannotOpen : String := "cannot open database file"

/-- The state that a file keeps; where no file is, the state is empty. -/
def stateIn (tree : FileTree) (path : String) : Except String MemoryDatabase :=
  if !tree.pathExists path then .ok {}
  else
    let memory? (text : String) : Option MemoryDatabase :=
      (Json.ofText? text).bind MemoryDatabase.ofJson?
    match (tree.readText path).toOption.bind memory? with
    | some memory => .ok memory
    | none => .error notDatabase

/-- Opens the database in a file. -/
def openFile (tree : FileTree) (path : String) : Except String (StoredDatabase × FileTree) :=
  match stateIn tree path with
  | .error text => .error text
  | .ok memory =>
    let db : StoredDatabase := ⟨some path, memory⟩
    match db.save tree with
    | (.ok _, tree) => .ok (db, tree)
    | (.error _, _) => .error cannotOpen

/-- The error of the driver for a failure; the kind that a rule names does not count. -/
def errorOf : MemoryFailure → DriverError
  | .rule rule => ⟨.other, rule.message⟩
  | .noInteger text => ⟨.conversionFailure, text⟩
  | .refused text => ⟨.other, text⟩

/-- What is said when there is no row to fetch. -/
def noRow : DriverError := ⟨.noRows, "Query returned no rows"⟩

/-- What comes of fetching a row. -/
def fetched : Except MemoryFailure (Option (Option Int)) → Except DriverError (Option Int)
  | .error e => .error (errorOf e)
  | .ok none => .error noRow
  | .ok (some value) => .ok value

/-- The driver of databases in files, whose states come with the file tree that holds them. -/
def driver : Driver (StoredDatabase × FileTree) where
  poisoned? _ := none
  execute sql state :=
    match state.1.memory.execute sql with
    | .error e => (.error (errorOf e), state)
    | .ok memory =>
      let db := { state.1 with memory }
      match db.save state.2 with
      | (.ok _, tree) => (.ok 1, db, tree)
      | (.error _, tree) => (.error ⟨.other, cannotOpen⟩, db, tree)
  queryRow sql state := (fetched (state.1.memory.fetch sql), state)

/-- Databases in files, together with the file tree that holds them. -/
def database : Database (StoredDatabase × FileTree) := driver.database

/-- The ways to databases in files. -/
def connector : Connector (StoredDatabase × FileTree) where
  driver
  openInMemory tree := .ok (⟨none, {}⟩, tree)
  openFile
  tree := Prod.snd

/-- Opens the database at a path. -/
def «open» (tree : FileTree) (path : String) :
    Except DatabaseError (StoredDatabase × FileTree) :=
  connector.open tree path

end StoredDatabase
end SchemaMigration
