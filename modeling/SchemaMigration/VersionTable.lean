import SchemaMigration.Database
import SchemaMigration.LogRecord
import SchemaMigration.MigrationKey
import SchemaMigration.ProjectError
import SchemaMigration.Text.Numeral

/-!
# The version table

The version of a database is the value in a table of one row and one column.  The name of the table
stands in the statements as it is, so it has to be an identifier.
-/

namespace SchemaMigration

/-! ### Errors of a migration run -/

/-- Why a migration run fails. -/
inductive EngineError where
  /-- the migrations cannot be loaded -/
  | project (cause : ProjectError)
  /-- the version table cannot be used -/
  | versionTable (table : String) (cause : DatabaseError)
  /-- the version table holds no version -/
  | corruptVersion (table found : String)
  /-- a statement of a migration fails -/
  | statementFailed (version : Nat) (key direction statement : String) (cause : DatabaseError)
  deriving Repr

namespace EngineError

/-- The wording of the error. -/
def message : EngineError → String
  | .project cause => "[M001] " ++ cause.message
  | .versionTable table cause => "[M002] Version store '" ++ table ++ "' failed: " ++ cause.message
  | .corruptVersion table found =>
    "[M003] Version store '" ++ table ++ "' is corrupt: " ++ found
  | .statementFailed version key direction statement cause =>
    "[M004] Migration " ++ Numeral.ofNat version ++ " (" ++ key ++ ") failed while migrating " ++
      direction ++ ": " ++ cause.message ++ "\n  statement: " ++ statement

/-- The wordings of the error and of what it comes from, the outermost first. -/
def chain (e : EngineError) : List String :=
  e.message :: match e with
    | .project cause => cause.chain
    | .versionTable _ cause => [cause.message]
    | .corruptVersion .. => []
    | .statementFailed _ _ _ _ cause => [cause.message]

end EngineError

/-! ### The table -/

/-- The table that holds the version of a database. -/
structure VersionTable where
  name : String
  deriving DecidableEq, Repr

namespace VersionTable

/-- The query that counts the tables of this name. -/
def existsSql (t : VersionTable) : String :=
  "SELECT COUNT(*) FROM INFORMATION_SCHEMA.TABLES WHERE TABLE_NAME = '" ++ t.name ++ "'"

/-- The statement that makes the table. -/
def createSql (t : VersionTable) : String := "CREATE TABLE " ++ t.name ++ " (Version INT)"

/-- The statement that puts the first version into the table. -/
def initSql (t : VersionTable) : String := "INSERT INTO " ++ t.name ++ " (Version) VALUES (0)"

/-- The query for the version. -/
def readSql (t : VersionTable) : String := "SELECT Version FROM " ++ t.name

/-- The statement that records a version. -/
def updateSql (t : VersionTable) (version : Nat) : String :=
  "UPDATE " ++ t.name ++ " SET Version = " ++ Numeral.ofNat version

/-- The error of a run for an error of the database; an answer that is no integer means that the
table is corrupt. -/
def engineError (t : VersionTable) (e : DatabaseError) : EngineError :=
  match e.kind with
  | .unexpectedResult => .corruptVersion t.name e.detail
  | _ => .versionTable t.name e

/-! ### Using the table -/

variable {σ : Type} (d : Database σ) (t : VersionTable)

/-- Runs a statement on the table. -/
def send (sql : String) (state : σ) : Except EngineError Unit × σ :=
  match d.execute sql state with
  | (.ok _, state) => (.ok (), state)
  | (.error e, state) => (.error (t.engineError e), state)

/-- Asks a query about the table. -/
def ask (sql : String) (state : σ) : Except EngineError (Option Int) × σ :=
  match d.query sql state with
  | (.ok value, state) => (.ok value, state)
  | (.error e, state) => (.error (t.engineError e), state)

/-- Whether the table exists. -/
def isThere (state : σ) : Except EngineError Bool × σ :=
  match t.ask d t.existsSql state with
  | (.ok count, state) => (.ok (decide (0 < count.getD 0)), state)
  | (.error e, state) => (.error e, state)

/-- Makes the table and puts the first version into it. -/
def create (state : σ) : Except EngineError Unit × σ :=
  match t.send d t.createSql state with
  | (.ok _, state) => t.send d t.initSql state
  | (.error e, state) => (.error e, state)

/-- The record of making the table. -/
def createRecord : LogRecord := ⟨.info, "Creating version table " ++ t.name⟩

/-- Makes the table unless it exists, and tells whether it has been made. -/
def ensure (state : σ) : Except EngineError Bool × List LogRecord × σ :=
  match t.isThere d state with
  | (.error e, state) => (.error e, [], state)
  | (.ok true, state) => (.ok false, [], state)
  | (.ok false, state) =>
    match t.create d state with
    | (.ok _, state) => (.ok true, [t.createRecord], state)
    | (.error e, state) => (.error e, [t.createRecord], state)

/-- The version that a value in the table stands for. -/
def version (value : Option Int) : Except EngineError Nat :=
  match value with
  | none => .error (.corruptVersion t.name "no version row")
  | some v => if v < 0 then .error (.corruptVersion t.name (Numeral.ofInt v)) else .ok v.toNat

/-- Reads the version. -/
def read (state : σ) : Except EngineError Nat × σ :=
  match t.ask d t.readSql state with
  | (.ok value, state) => (t.version value, state)
  | (.error e, state) => (.error e, state)

/-- Records a version. -/
def write (version : Nat) (state : σ) : Except EngineError Unit × σ :=
  t.send d (t.updateSql version) state

end VersionTable
end SchemaMigration
