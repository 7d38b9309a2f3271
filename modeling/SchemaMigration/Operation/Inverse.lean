import SchemaMigration.Operation.Compile

/-!
# Inverse operations

A migration that declares no way down is reverted by the inverses of its additive operations, in
reverse order (`revertAll`).  Nothing destructive is guessed: an operation without an inverse gives
a diagnostic.  What is lost on the way is told where it is lost, so that the statements and the
warnings come of one function (`Reverted`).
-/

namespace SchemaMigration

/-- Why an inferred way down does not fully revert an operation. -/
inductive Warning where
  /-- operations of this kind have no inverse -/
  | noInverse (kind : OperationKind)
  /-- only the first of several added columns is dropped -/
  | partialInverse (table kept : String) (columns : Nat)
  deriving DecidableEq, Repr

/-- The wording of a warning. -/
def Warning.message : Warning → String
  | .noInverse kind => "Cannot infer a down for '" ++ kind.key ++ "'; declare one explicitly"
  | .partialInverse table kept columns =>
    "Inferred down for add_column on '" ++ table ++ "' drops only '" ++ kept ++
      "'; declare an explicit down to drop all " ++ Numeral.ofNat columns ++ " columns"

/-- Whether operations of a kind have an inverse. -/
def OperationKind.isInvertible : OperationKind → Bool
  | .createTable => true
  | .addColumn => true
  | .addIndex => true
  | .addForeignKey => true
  | _ => false

namespace Operation

/-- The inverse of an operation, and what it does not take back; of several added columns it removes
the first. -/
def infer : Operation → Option Operation × List Warning
  | .createTable t => (some (.dropTable t.name), [])
  | .addColumn c =>
    match c.columns.head? with
    | none => (none, [])
    | some first =>
      (some (.removeColumn ⟨c.table, first.name⟩),
        if 1 < c.columns.length then [.partialInverse c.table first.name c.columns.length] else [])
  | .addIndex i => (some (.removeIndex i), [])
  | .addForeignKey k => (some (.dropConstraint ⟨k.source.table, k.name⟩), [])
  | _ => (none, [])

/-- The inverse of an operation. -/
def inverse? (op : Operation) : Option Operation := op.infer.1

/-- The statements that revert operations, and what they do not take back. -/
structure Reverted where
  statements : List Statement
  warnings : List Warning
  deriving DecidableEq, Repr

/-- The statements that revert one operation.  Where it cannot be reverted a diagnostic stands. -/
def revert (op : Operation) : Reverted :=
  match op.infer with
  | (some inverse, warnings) => ⟨inverse.compile, warnings⟩
  | (none, warnings) => ⟨[.noOp], warnings ++ [.noInverse op.kind]⟩

/-- What reverts one thing after the other. -/
def Reverted.join (rs : List Reverted) : Reverted :=
  ⟨rs.flatMap Reverted.statements, rs.flatMap Reverted.warnings⟩

/-- The statements that revert a list of operations, the last operation first.  Where nothing is to
be reverted a diagnostic stands. -/
def revertAll (up : List Operation) : Reverted :=
  if up.isEmpty then ⟨[.noOp], []⟩ else .join (up.reverse.map revert)

/-- The statements that revert a list of operations. -/
def inverseStatements (up : List Operation) : List Statement := (revertAll up).statements

/-- What is lost when a list of operations is reverted, in the order of the inverses. -/
def inverseWarnings (up : List Operation) : List Warning := (revertAll up).warnings

end Operation
end SchemaMigration
