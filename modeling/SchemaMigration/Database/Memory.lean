import SchemaMigration.Database
import SchemaMigration.Json.Printer
import SchemaMigration.Text.Search

/-!
# A database in memory

A small database that knows the statements and queries of a version table and takes all other
statements as they are.  Its rules let chosen calls fail.
-/

namespace SchemaMigration

/-- A rule by which calls fail. -/
structure FailRule where
  /-- a call fails when this text stands in its SQL -/
  pattern : String := ""
  /-- `execute`, `query` or `any` -/
  call : String := "any"
  /-- the name of the kind of the error -/
  kind : String := "ExecutionError"
  message : String := "fake failure"
  deriving DecidableEq, Repr

/-- The state of a database in memory. -/
structure MemoryDatabase where
  /-- the rows of the tables -/
  tables : List (String × List Json) := []
  rules : List FailRule := []
  /-- the statements that have been run, in order -/
  executed : List String := []
  deriving Repr

/-- Why a call on a database in memory fails. -/
inductive MemoryFailure where
  | rule (rule : FailRule)
  /-- the value that is asked for is no integer in range -/
  | noInteger (detail : String)
  | refused (detail : String)
  deriving Repr

namespace MemoryDatabase

/-! ### Tables -/

/-- The rows of a table. -/
def rows? (db : MemoryDatabase) (table : String) : Option (List Json) := db.tables.lookup table

/-- The database with other rows in a table, which is made if it is missing. -/
def setRows (db : MemoryDatabase) (table : String) (rows : List Json) : MemoryDatabase :=
  if (db.rows? table).isSome then
    { db with tables := db.tables.map fun t => if t.1 == table then (t.1, rows) else t }
  else { db with tables := db.tables ++ [(table, rows)] }

/-- The database without a table. -/
def dropTable (db : MemoryDatabase) (table : String) : MemoryDatabase :=
  { db with tables := db.tables.filter fun t => t.1 != table }

/-! ### Statements -/

/-- What stands between a start and an end of a text. -/
def between? (start finish text : String) : Option String :=
  let s := text.toList
  let (a, b) := (start.toList, finish.toList)
  if a.isPrefixOf s && b.isSuffixOf s && decide (a.length + b.length ≤ s.length) then
    some (String.ofList ((s.drop a.length).take (s.length - a.length - b.length)))
  else none

/-- The text before and the text after the first occurrence of a pattern. -/
def cutAt (p : List Char) : List Char → Option (List Char × List Char)
  | [] => none
  | c :: cs =>
    if p.isPrefixOf (c :: cs) then some ([], (c :: cs).drop p.length)
    else (cutAt p cs).map fun (before, after) => (c :: before, after)

/-- A statement that a database in memory knows. -/
inductive Known where
  | create (table : String)
  | insertZero (table : String)
  | update (table : String) (version : Int)

/-- The integer that a text spells, if it has at most 64 bits. -/
def integer? (s : List Char) : Option Int :=
  (Numeral.readSigned? s).filter fun n =>
    decide (-0x8000000000000000 ≤ n ∧ n < 0x8000000000000000)

/-- The update that a statement stands for. -/
def update? (sql : String) : Option Known := do
  let rest ← between? "UPDATE " "" sql
  let (table, value) ← cutAt " SET Version = ".toList rest.toList
  let version ← integer? value
  pure (.update (String.ofList table) version)

/-- The statement about a version table that a text spells. -/
def known? (sql : String) : Option Known :=
  match between? "CREATE TABLE " " (Version INT)" sql with
  | some table => some (.create table)
  | none =>
    match between? "INSERT INTO " " (Version) VALUES (0)" sql with
    | some table => some (.insertZero table)
    | none => update? sql

/-- What a known statement does to the tables. -/
def apply (db : MemoryDatabase) : Known → Except MemoryFailure MemoryDatabase
  | .create table =>
    match db.rows? table with
    | some _ => .error (.refused ("table already exists: " ++ table))
    | none => .ok (db.setRows table [])
  | .insertZero table =>
    match db.rows? table with
    | some rows => .ok (db.setRows table (rows ++ [.int 0]))
    | none => .error (.refused ("no such table: " ++ table))
  | .update table version =>
    match db.rows? table with
    | some rows => .ok (db.setRows table (rows.map fun _ => .int version))
    | none => .error (.refused ("no such table: " ++ table))

/-- The first rule that lets a call fail. -/
def failing? (db : MemoryDatabase) (call sql : String) : Option FailRule :=
  db.rules.find? fun r => (r.call == "any" || r.call == call) && Text.contains sql r.pattern

/-- Runs a statement. -/
def execute (db : MemoryDatabase) (sql : String) : Except MemoryFailure MemoryDatabase := do
  match db.failing? "execute" sql with
  | some rule => .error (.rule rule)
  | none =>
    let db ← match known? sql with
      | some known => db.apply known
      | none => .ok db
    pure { db with executed := db.executed ++ [sql] }

/-! ### Queries -/

/-- The integer in a row. -/
def scalar (row : Json) : Except MemoryFailure (Option Int) :=
  match row with
  | .null => .ok none
  | .number (.int n) =>
    if n < 0x8000000000000000 then .ok (some n)
    else .error (.noInteger ("out of range: " ++ Numeral.ofInt n))
  | value => .error (.noInteger ("not an integer: " ++ value.sorted.compact))

/-- The start of the query that counts the tables with a name. -/
def countTablesStart : String :=
  "SELECT COUNT(*) FROM INFORMATION_SCHEMA.TABLES WHERE TABLE_NAME = '"

/-- Fetches the first row that a query gives, if there is one. -/
def fetch (db : MemoryDatabase) (sql : String) : Except MemoryFailure (Option (Option Int)) :=
  match db.failing? "query" sql with
  | some rule => .error (.rule rule)
  | none =>
    match between? countTablesStart "'" sql with
    | some table => .ok (some (some (if (db.rows? table).isSome then 1 else 0)))
    | none =>
      match between? "SELECT Version FROM " "" sql with
      | some table =>
        match db.rows? table with
        | none => .error (.refused ("no such table: " ++ table))
        | some [] => .ok none
        | some (row :: _) => (scalar row).map some
      | none => .error (.refused ("unsupported query: " ++ sql))

/-- Answers a query. -/
def query (db : MemoryDatabase) (sql : String) : Except MemoryFailure (Option Int) :=
  (db.fetch sql).map Option.join

/-! ### As a database -/

/-- The kind of database error that a rule names. -/
def kindOf (name : String) : DatabaseErrorKind :=
  if name == "ConnectionError" then .connection
  else if name == "UnexpectedResult" then .unexpectedResult
  else if name == "MutexPoisoned" then .poisonedLock
  else .execution

/-- The database error of a failure; rules choose its kind. -/
def errorOf : MemoryFailure → DatabaseError
  | .rule rule => ⟨kindOf rule.kind, rule.message⟩
  | .noInteger detail => ⟨.unexpectedResult, detail⟩
  | .refused detail => ⟨.execution, detail⟩

/-- The database in memory on its own. -/
def database : Database MemoryDatabase where
  execute sql db :=
    match db.execute sql with
    | .ok next => (.ok 1, next)
    | .error e => (.error (errorOf e), db)
  query sql db := ((db.query sql).mapError errorOf, db)

/-! ### JSON form -/

/-- A rule as a JSON value. -/
def ruleToJson (r : FailRule) : Json :=
  .object [("on", .string r.pattern), ("call", .string r.call), ("kind", .string r.kind),
    ("message", .string r.message)]

/-- The tables as a JSON value. -/
def tablesToJson (db : MemoryDatabase) : Json :=
  .object (db.tables.map fun t => (t.1, .array t.2))

/-- The state as a JSON value. -/
def toJson (db : MemoryDatabase) : Json :=
  .object [("tables", db.tablesToJson), ("fail", .array (db.rules.map ruleToJson)),
    ("executed", .strings db.executed)]

/-- The text that a state is kept as. -/
def text (db : MemoryDatabase) : String := db.toJson.sorted.compact

/-- The text of a member; a member that is missing or is no string has the text `absent`. -/
def memberText (name absent : String) (v : Json) : String :=
  ((v.member? name).bind Json.string?).getD absent

/-- The items of a member; a member that is missing or is no array has none. -/
def memberItems (name : String) (v : Json) : List Json :=
  ((v.member? name).bind Json.items?).getD []

/-- Reads a rule. -/
def ruleOfJson (v : Json) : FailRule where
  pattern := memberText "on" "" v
  call := memberText "call" "any" v
  kind := memberText "kind" "ExecutionError" v
  message := memberText "message" "fake failure" v

/-- Reads the tables, each of which has to be an array of rows. -/
def tablesOfJson? : Json → Option (List (String × List Json))
  | .null => some []
  | .object members => members.mapM fun (name, rows) => rows.items?.map fun items => (name, items)
  | _ => none

/-- Reads a state. -/
def ofJson? (v : Json) : Option MemoryDatabase :=
  match v with
  | .object _ => do
    let tables ← tablesOfJson? ((v.member? "tables").getD .null)
    pure
      { tables, rules := (memberItems "fail" v).map ruleOfJson
        executed := (memberItems "executed" v).filterMap Json.string? }
  | _ => none

end MemoryDatabase
end SchemaMigration
