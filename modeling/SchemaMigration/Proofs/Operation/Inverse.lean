import SchemaMigration.Operation.Inverse

/-!
# The statements and the warnings of inverses

What reverts a list of operations is put together from what reverts each of them, the last operation
first: the statements (`inverseStatements_eq_flatMap`) and in the same order the warnings
(`inverseWarnings_eq_flatMap`).
-/

namespace SchemaMigration.Operation

variable {up : List Operation}

theorem inverse?_addColumn (c : ColumnList) :
    (addColumn c).inverse? =
      c.columns.head?.map fun first => removeColumn ⟨c.table, first.name⟩ := by
  obtain ⟨table, columns⟩ := c
  cases columns <;> rfl

/-- An operation is reverted by its inverse, or by a diagnostic. -/
theorem statements_revert (op : Operation) :
    op.revert.statements = (op.inverse?.map compile).getD [.noOp] := by
  unfold revert inverse?
  rcases op.infer with ⟨_ | inverse, warnings⟩ <;> rfl

theorem inverseStatements_eq_flatMap (h : up ≠ []) :
    inverseStatements up = up.reverse.flatMap fun op => op.revert.statements := by
  rw [inverseStatements, revertAll, if_neg (by simpa using h)]
  exact List.flatMap_map ..

/-- Where nothing is to be reverted, nothing is lost. -/
theorem inverseWarnings_eq_flatMap (up : List Operation) :
    inverseWarnings up = up.reverse.flatMap fun op => op.revert.warnings := by
  by_cases h : up = []
  · rw [h]
    rfl
  · rw [inverseWarnings, revertAll, if_neg (by simpa using h)]
    exact List.flatMap_map ..

end SchemaMigration.Operation
