import SchemaMigration.Plan
import SchemaMigration.VersionTable

/-!
# Running migrations

A migrator moves a database from version to version.  The version is recorded after every step, so
that the steps that are completed stay recorded when a later one fails.
-/

namespace SchemaMigration

/-- A list of migrations bound to a database. -/
structure Migrator where
  table : VersionTable
  /-- the migrations in order -/
  descriptors : List Descriptor
  /-- the version of the database -/
  version : Nat
  /-- whether the version table is known to exist -/
  ready : Bool
  deriving DecidableEq, Repr

/-- What a migration has done. -/
structure Report where
  start : Nat
  goal : Nat
  /-- the direction, unless nothing had to move -/
  direction : Option Direction
  /-- the keys of the migrations that were applied or reverted, in order -/
  keys : List MigrationKey
  deriving DecidableEq, Repr

/-- Whether the version is the same as before. -/
def Report.isNoop (r : Report) : Bool := r.start == r.goal

namespace Migrator

/-! ### Binding -/

section
variable {σ : Type} (d : Database σ)

/-- The version in the table, or none if there is no table; with `bootstrap` a missing table is
made first. -/
def storedVersion (table : VersionTable) (bootstrap : Bool) (state : σ) :
    Except EngineError (Option Nat) × List LogRecord × σ :=
  let (there, log, state) : Except EngineError Bool × List LogRecord × σ :=
    if bootstrap then
      match table.ensure d state with
      | (.ok _, log, state) => (.ok true, log, state)
      | (.error e, log, state) => (.error e, log, state)
    else
      match table.isThere d state with
      | (there, state) => (there, [], state)
  match there with
  | .error e => (.error e, log, state)
  | .ok false => (.ok none, log, state)
  | .ok true =>
    match table.read d state with
    | (.ok version, state) => (.ok (some version), log, state)
    | (.error e, state) => (.error e, log, state)

/-- The record of a version past the last migration. -/
def beyondLog (version : Nat) (descriptors : List Descriptor) : List LogRecord :=
  if descriptors.length < version then
    [⟨.warn, "Stored version " ++ Numeral.ofNat version ++ " is beyond the " ++
      Numeral.ofNat descriptors.length ++ " migrations found"⟩]
  else []

/-- Binds migrations, which have to be in order, to a database.  Without `bootstrap` a missing
version table counts as version zero, and nothing is written. -/
def bind (descriptors : List Descriptor) (table : VersionTable) (bootstrap : Bool) (state : σ) :
    Except EngineError Migrator × List LogRecord × σ :=
  match storedVersion d table bootstrap state with
  | (.error e, log, state) => (.error e, log, state)
  | (.ok stored, log, state) =>
    let version := stored.getD 0
    (.ok { table, descriptors, version, ready := stored.isSome },
      log ++ beyondLog version descriptors, state)

/-- Binds the outcome of loading migrations to a database. -/
def bindLoaded (loaded : Except ProjectError (List Descriptor) × List LogRecord)
    (table : VersionTable) (bootstrap : Bool) (state : σ) :
    Except EngineError Migrator × List LogRecord × σ :=
  match loaded with
  | (.error e, log) => (.error (.project e), log, state)
  | (.ok descriptors, log) =>
    let (result, more, state) := bind d descriptors table bootstrap state
    (result, log ++ more, state)

end

/-! ### Planning -/

/-- The highest version. -/
def latest (m : Migrator) : Nat := m.descriptors.length

/-- The version nearest to a wanted one. -/
def clamp (m : Migrator) (target : Int) : Nat := min target.toNat m.latest

/-- The steps to a wanted version. -/
def plan (m : Migrator) (target : Int) : Plan := Plan.build m.descriptors m.version (m.clamp target)

/-- The records of planning. -/
def planLog (m : Migrator) (target : Int) : List LogRecord :=
  Plan.buildLog m.descriptors m.version (m.clamp target)

/-! ### Migrating -/

section
variable {σ : Type} (d : Database σ)

/-- A state of a run: the migrator, the records so far, what has been done so far, and the state of
the database. -/
structure Run (σ : Type) where
  migrator : Migrator
  log : List LogRecord
  report : Report
  database : σ

/-- The run with more records. -/
def Run.note (r : Run σ) (records : List LogRecord) : Run σ :=
  { r with log := r.log ++ records }

/-- The run when a migration has been applied or reverted. -/
def Run.complete (r : Run σ) (key : MigrationKey) : Run σ :=
  { r with report := { r.report with keys := r.report.keys ++ [key] } }

/-- The error of a statement that the database refuses. -/
def statementError (step : Step) (key : MigrationKey) (sql : String) (cause : DatabaseError) :
    EngineError :=
  .statementFailed step.version key.text step.direction.name sql cause

/-- Runs the statements of a step; diagnostics are only reported. -/
def runStatements (step : Step) (key : MigrationKey) :
    List Statement → Run σ → Except EngineError Unit × Run σ
  | [], r => (.ok (), r)
  | .diagnostic text :: rest, r =>
    runStatements step key rest (r.note [⟨.warn, key.text ++ ": " ++ text⟩])
  | .sql sql :: rest, r =>
    let r := r.note [⟨.debug, sql⟩]
    match d.execute sql r.database with
    | (.error e, state) => (.error (statementError step key sql e), { r with database := state })
    | (.ok _, state) => runStatements step key rest { r with database := state }

/-- Records the version after a step, in the database and then in the migrator and the report. -/
def recordVersion (version : Nat) (r : Run σ) : Except EngineError Unit × Run σ :=
  match r.migrator.table.write d version r.database with
  | (.error e, state) => (.error e, { r with database := state })
  | (.ok _, state) =>
    (.ok (), { r with
      migrator := { r.migrator with version }
      report := { r.report with goal := version }
      database := state })

/-- The record of a step. -/
def stepRecord (step : Step) : LogRecord :=
  match step.key with
  | some key =>
    ⟨.info, "Migrating " ++ step.direction.name ++ " " ++ Numeral.ofNat step.version ++ " (" ++
      key.text ++ ")"⟩
  | none =>
    ⟨.warn, "No migration found for version " ++ Numeral.ofNat step.version ++
      "; recording version " ++ Numeral.ofNat step.versionAfter⟩

/-- Runs one step.  A step without a key only records its version. -/
def runStep (step : Step) (r : Run σ) : Except EngineError Unit × Run σ :=
  let r := r.note [stepRecord step]
  match step.key with
  | none => recordVersion d step.versionAfter r
  | some key =>
    match runStatements d step key step.statements r with
    | (.error e, r) => (.error e, r)
    | (.ok _, r) =>
      match recordVersion d step.versionAfter r with
      | (.error e, r) => (.error e, r)
      | (.ok _, r) => (.ok (), r.complete key)

/-- Runs steps in order, up to the first that fails. -/
def runSteps : List Step → Run σ → Except EngineError Unit × Run σ
  | [], r => (.ok (), r)
  | step :: rest, r =>
    match runStep d step r with
    | (.error e, r) => (.error e, r)
    | (.ok _, r) => runSteps rest r

/-- Makes the version table, unless it is known to exist. -/
def prepare (r : Run σ) : Except EngineError Unit × Run σ :=
  if r.migrator.ready then (.ok (), r)
  else
    match r.migrator.table.ensure d r.database with
    | (.error e, log, state) => (.error e, { r.note log with database := state })
    | (.ok _, log, state) =>
      (.ok (), { r.note log with
        migrator := { r.migrator with ready := true }, database := state })

/-- What has been done before the first step of a plan. -/
def startReport (plan : Plan) : Report where
  start := plan.start
  goal := plan.start
  direction := plan.steps.head?.map Step.direction
  keys := []

/-- The record of a run that is complete. -/
def finishRecord (report : Report) : LogRecord :=
  if report.direction.isNone then
    ⟨.info, "Already at version " ++ Numeral.ofNat report.start⟩
  else
    ⟨.info, "Migrated from " ++ Numeral.ofNat report.start ++ " to " ++
      Numeral.ofNat report.goal⟩

/-- The run before its first step. -/
def startRun (m : Migrator) (target : Int) (state : σ) : Run σ where
  migrator := m
  log := m.planLog target
  report := startReport (m.plan target)
  database := state

/-- Moves the database to the version nearest to `target`.  The migrator in the run keeps the
version that is reached, also when a step fails. -/
def migrate (m : Migrator) (target : Int) (state : σ) : Except EngineError Report × Run σ :=
  let plan := m.plan target
  let r := startRun m target state
  if plan.isEmpty then (.ok r.report, r.note [finishRecord r.report])
  else
    match prepare d r with
    | (.error e, r) => (.error e, r)
    | (.ok _, r) =>
      match runSteps d plan.steps r with
      | (.error e, r) => (.error e, r)
      | (.ok _, r) => (.ok r.report, r.note [finishRecord r.report])

/-- Moves the database to the highest version. -/
def migrateToLatest (m : Migrator) (state : σ) : Except EngineError Report × Run σ :=
  migrate d m m.latest state

end
end Migrator
end SchemaMigration
