import SchemaMigration.Database
import SchemaMigration.File.Tree

/-!
# Drivers

A driver runs statements and fetches rows on one connection, which stands behind a lock.
`Driver.database` makes a database of it: it takes the lock, tells the errors of the driver apart
(`Driver.scalar`) and puts the SQL behind them.  `Connector.open` opens a connection by the path of
its database.
-/

namespace SchemaMigration

/-! ### Errors -/

/-- The kinds of the errors of a driver, as far as they are told apart. -/
inductive DriverErrorKind where
  /-- the query gives no row -/
  | noRows
  /-- the value has a type that is not asked for -/
  | invalidColumnType
  /-- the value is not converted to the type that is asked for -/
  | conversionFailure
  /-- the value is an integer that does not fit -/
  | integralOutOfRange
  /-- the value is an integer without a sign that does not fit -/
  | unsignedOutOfRange
  | other
  deriving DecidableEq, Repr

/-- An error of a driver. -/
structure DriverError where
  kind : DriverErrorKind
  text : String
  deriving DecidableEq, Repr

/-- The text of the error with the SQL of the call. -/
def DriverError.textFor (sql : String) (e : DriverError) : String := e.text ++ ": " ++ sql

/-! ### Calls -/

/-- A driver with a connection whose states are of type `σ`. -/
structure Driver (σ : Type) where
  /-- what is said about the lock, if it is poisoned -/
  poisoned? : σ → Option String
  /-- runs a statement and gives the number of rows that it affected -/
  execute : (sql : String) → σ → Except DriverError Nat × σ
  /-- gives the first value of the first row as an integer, if it is not null -/
  queryRow : (sql : String) → σ → Except DriverError (Option Int) × σ

namespace Driver

variable {σ : Type}

/-- What comes of a statement. -/
def affected (sql : String) : Except DriverError Nat → Except DatabaseError Nat
  | .ok n => .ok n
  | .error e => .error ⟨.execution, e.textFor sql⟩

/-- What comes of a query for one integer.  No row means no value; and a value that is not such an
integer is no failure of the query but a result that is not expected. -/
def scalar (sql : String) : Except DriverError (Option Int) → Except DatabaseError (Option Int)
  | .ok value => .ok value
  | .error e =>
    match e.kind with
    | .noRows => .ok none
    | .invalidColumnType
    | .conversionFailure
    | .integralOutOfRange
    | .unsignedOutOfRange => .error ⟨.unexpectedResult, e.textFor sql⟩
    | .other => .error ⟨.execution, e.textFor sql⟩

/-- A call on the connection, unless its lock is poisoned. -/
def locked {α : Type} (d : Driver σ) (call : σ → Except DatabaseError α × σ) (state : σ) :
    Except DatabaseError α × σ :=
  match d.poisoned? state with
  | some text => (.error ⟨.poisonedLock, text⟩, state)
  | none => call state

/-- The database behind a driver. -/
def database (d : Driver σ) : Database σ where
  execute sql := d.locked fun state =>
    let (result, state) := d.execute sql state
    (affected sql result, state)
  query sql := d.locked fun state =>
    let (result, state) := d.queryRow sql state
    (scalar sql result, state)

end Driver

/-! ### Connections -/

/-- Databases that are opened by their paths.  They may keep their states in files, so that their
states have a file tree. -/
structure Backend (σ : Type) where
  database : Database σ
  «open» : (tree : FileTree) → (path : String) → Except DatabaseError σ
  tree : σ → FileTree

/-- The ways in which a driver is connected; an error is the text of it. -/
structure Connector (σ : Type) where
  driver : Driver σ
  openInMemory : (tree : FileTree) → Except String σ
  openFile : (tree : FileTree) → (path : String) → Except String σ
  tree : σ → FileTree

namespace Connector

variable {σ : Type}

/-- The path that stands for a database in memory. -/
def memoryPath : String := ":memory:"

/-- Opens the database at a path. -/
def «open» (c : Connector σ) (tree : FileTree) (path : String) : Except DatabaseError σ :=
  if path = memoryPath then (c.openInMemory tree).mapError fun text => ⟨.connection, text⟩
  else (c.openFile tree path).mapError fun text => ⟨.connection, text ++ ": " ++ path⟩

/-- The databases that a driver connects to. -/
def backend (c : Connector σ) : Backend σ where
  database := c.driver.database
  «open» := c.open
  tree := c.tree

end Connector
end SchemaMigration
