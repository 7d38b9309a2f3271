import SchemaMigration.Descriptor

/-!
# Migration plans

A plan is the list of steps that a migration from one version to another takes.  Version `v` means
that the first `v` migrations are applied; each step moves the version by one.
-/

namespace SchemaMigration

/-- The direction in which a step moves the version. -/
inductive Direction where
  | up
  | down
  deriving DecidableEq, Repr

/-- The name of a direction. -/
def Direction.name : Direction → String
  | .up => "up"
  | .down => "down"

/-- One migration that is applied or reverted. -/
structure Step where
  direction : Direction
  /-- the position of the migration, counted from one -/
  version : Nat
  /-- the key of the migration; there is none at a position past the last migration -/
  key : Option MigrationKey
  /-- the version that is recorded after the step -/
  versionAfter : Nat
  statements : List Statement
  deriving DecidableEq, Repr

/-- The steps from one version to another. -/
structure Plan where
  start : Nat
  goal : Nat
  steps : List Step
  deriving DecidableEq, Repr

namespace Plan

/-- The migration at a position that is counted from one. -/
def migrationAt? (descriptors : List Descriptor) (version : Nat) : Option Descriptor :=
  if version = 0 then none else descriptors[version - 1]?

/-- The step that applies the migration at a position. -/
def upStep (descriptors : List Descriptor) (version : Nat) : Step :=
  let migration := migrationAt? descriptors version
  { direction := .up
    version
    key := migration.map Descriptor.key
    versionAfter := version
    statements := (migration.map Descriptor.upStatements).getD [] }

/-- The step that reverts the migration at a position, and the records of what it loses. -/
def revertStep (descriptors : List Descriptor) (version : Nat) : Step × List LogRecord :=
  let migration := migrationAt? descriptors version
  ({ direction := .down
     version
     key := migration.map Descriptor.key
     versionAfter := version - 1
     statements := (migration.map Descriptor.downStatements).getD [] },
    (migration.map Descriptor.downLog).getD [])

/-- The step that reverts the migration at a position. -/
def downStep (descriptors : List Descriptor) (version : Nat) : Step :=
  (revertStep descriptors version).1

/-- The positions after `start` up to `goal`. -/
def positions (start goal : Nat) : List Nat := List.range' (start + 1) (goal - start)

/-- The plan from one version to another, with the records of making it: upwards the migrations in
order, downwards in the opposite order. -/
def buildLogged (descriptors : List Descriptor) (start goal : Nat) : Plan × List LogRecord :=
  let steps : List (Step × List LogRecord) :=
    if start < goal then (positions start goal).map fun version => (upStep descriptors version, [])
    else (positions goal start).reverse.map (revertStep descriptors)
  ({ start, goal, steps := steps.map Prod.fst }, steps.flatMap Prod.snd)

/-- The plan from one version to another. -/
def build (descriptors : List Descriptor) (start goal : Nat) : Plan :=
  (buildLogged descriptors start goal).1

/-- The records of making the plan from one version to another. -/
def buildLog (descriptors : List Descriptor) (start goal : Nat) : List LogRecord :=
  (buildLogged descriptors start goal).2

/-- Whether the plan has no steps. -/
def isEmpty (p : Plan) : Bool := p.steps.isEmpty

/-- The statements of a plan in order. -/
def statements (p : Plan) : List Statement := p.steps.flatMap Step.statements

end Plan
end SchemaMigration
