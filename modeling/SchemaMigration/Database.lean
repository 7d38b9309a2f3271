/-!
# Databases

A database executes statements and answers queries for one integer.  `Database` is the interface
over which migrations run; its state is a value, so that a run is a function of it.
-/

namespace SchemaMigration

/-- The kinds of database errors. -/
inductive DatabaseErrorKind where
  | connection
  | execution
  | unexpectedResult
  | poisonedLock
  deriving DecidableEq, Repr

/-- An error of a database. -/
structure DatabaseError where
  kind : DatabaseErrorKind
  detail : String
  deriving DecidableEq, Repr

/-- The wording of the error. -/
def DatabaseError.message (e : DatabaseError) : String :=
  (match e.kind with
    | .connection => "[D001] Database connection failed: "
    | .execution => "[D002] SQL execution failed: "
    | .unexpectedResult => "[D003] Unexpected scalar result: "
    | .poisonedLock => "[D004] Database mutex poisoned: ") ++ e.detail

/-- A database with states of type `σ`. -/
structure Database (σ : Type) where
  /-- runs a statement and gives the number of rows that it affected -/
  execute : (sql : String) → σ → Except DatabaseError Nat × σ
  /-- gives the first value of the first row; there may be no row, or no value in it -/
  query : (sql : String) → σ → Except DatabaseError (Option Int) × σ

/-- A call that has reached a database. -/
inductive DatabaseCall where
  | execute (sql : String)
  | query (sql : String)
  deriving DecidableEq, Repr

namespace Database

variable {σ : Type}

/-- A database that keeps a record of all calls, the failed ones too. -/
def recorded (d : Database σ) : Database (σ × List DatabaseCall) where
  execute sql state :=
    let (result, next) := d.execute sql state.1
    (result, next, state.2 ++ [.execute sql])
  query sql state :=
    let (result, next) := d.query sql state.1
    (result, next, state.2 ++ [.query sql])

end Database
end SchemaMigration
