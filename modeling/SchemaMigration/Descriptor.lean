import SchemaMigration.File.Path
import SchemaMigration.LogRecord
import SchemaMigration.MigrationKey
import SchemaMigration.Operation.Inverse
import SchemaMigration.Operation.Reader
import SchemaMigration.ProjectError
import SchemaMigration.Yaml.Composition

/-!
# Migrations

A descriptor is one migration: the operations that apply it, and the operations that revert it,
unless these are to be inferred.  `Descriptor.sort` puts descriptors in the order in which they are
applied and refuses two with one key.
-/

namespace SchemaMigration

/-- One migration. -/
structure Descriptor where
  key : MigrationKey
  /-- the file it comes from -/
  path : String
  /-- the operations that apply it, in order -/
  up : List Operation
  /-- the operations that revert it; `none` means that they are inferred -/
  down : Option (List Operation)
  deriving DecidableEq, Repr

namespace Descriptor

/-! ### Reading -/

/-- The member of a descriptor under a name, which is null when it is missing. -/
def part (name : String) (entries : List (Document × Document)) : Document :=
  (Document.lookup? name entries).getD .null

/-- Reads the operations that revert a migration, if it declares them. -/
def downOf (down : Document) : Except OperationError (Option (List Operation)) :=
  if down.untagged.isNull then .ok none else (Operation.listOfDocument down).map some

/-- Reads a descriptor from a document. -/
def ofDocument (key : MigrationKey) (path : String) (d : Document) :
    Except ProjectError Descriptor :=
  match d with
  | .mapping entries =>
    let up := part "up" entries
    let down := part "down" entries
    if up.untagged.isNull && down.untagged.isNull then .error (.badDescriptor path .noMembers)
    else do
      let up ← (Operation.listOfDocument up).mapError (.badOperation path)
      let down ← (downOf down).mapError (.badOperation path)
      pure { key, path, up, down }
  | _ => .error (.badDescriptor path .wrongShape)

/-- Reads a descriptor from a text; `path` names the file in errors. -/
def ofText (key : MigrationKey) (path text : String) : Except ProjectError Descriptor :=
  match Document.ofText? text with
  | some d => ofDocument key path d
  | none => .error (.badDescriptor path .unreadable)

/-! ### Statements -/

/-- Whether the descriptor declares how it is reverted. -/
def hasExplicitDown (d : Descriptor) : Bool := d.down.isSome

/-- The statements that apply the migration. -/
def upStatements (d : Descriptor) : List Statement := Operation.compileAll d.up

/-- What reverts the migration; nothing is lost where the way down is declared. -/
def revert (d : Descriptor) : Operation.Reverted :=
  match d.down with
  | some down => ⟨Operation.compileAll down, []⟩
  | none => Operation.revertAll d.up

/-- The statements that revert the migration. -/
def downStatements (d : Descriptor) : List Statement := d.revert.statements

/-- The records of what is lost when the migration is reverted. -/
def downLog (d : Descriptor) : List LogRecord :=
  d.revert.warnings.map fun w => ⟨.warn, w.message⟩

/-! ### Order -/

/-- Whether a descriptor comes before another or at the same place: by key, then by path. -/
def le (a b : Descriptor) : Bool :=
  ((a.key.compare b.key).then (Path.compare a.path b.path)).isLE

/-- The first two neighbours with one key. -/
def firstDuplicate? : List Descriptor → Option (Descriptor × Descriptor)
  | a :: b :: rest => if a.key = b.key then some (a, b) else firstDuplicate? (b :: rest)
  | _ => none

/-- The descriptors in order; two with one key are refused. -/
def sort (descriptors : List Descriptor) : Except ProjectError (List Descriptor) :=
  let sorted := descriptors.mergeSort le
  match firstDuplicate? sorted with
  | some (a, b) => .error (.duplicateKey a.key.text a.path b.path)
  | none => .ok sorted

end Descriptor
end SchemaMigration
