import SchemaMigration.Proofs.Operation.Address
import SchemaMigration.Proofs.Operation.RoundTrip

/-!
# Inferred ways down

What an operation adds, by the names that the operation has for it, is its `Addition`; the statement
that drops it can be written down from these names alone (`Addition.dropSql`).  Each operation of a
list has one statement in the inferred way down, which drops its addition or is the diagnostic
(`inverseStatements_eq`), so the statements are as many as the operations, in the opposite order,
and drop nothing that is not named in the list (`inferred_down_shape`).
-/

namespace SchemaMigration
open Identifier (quote quoteQualified)

/-- A table, or a member of it, by name. -/
structure Addition where
  /-- the name of the table as the operation gives it, with dots or without -/
  table : String
  /-- the member by its kind and its name; without one it is the table itself -/
  member : Option (MemberKind × String)
  deriving DecidableEq, Repr

namespace Addition

/-- The statement that drops a table or a member. -/
def dropSql : Addition → String
  | ⟨table, none⟩ => "DROP TABLE " ++ quoteQualified table
  | ⟨table, some (.column, name)⟩ => "ALTER TABLE " ++ quote table ++ " DROP COLUMN " ++ quote name
  | ⟨table, some (.constraint, name)⟩ =>
    "ALTER TABLE " ++ quote table ++ " DROP CONSTRAINT " ++ quote name
  | ⟨table, some (.index, name)⟩ => "DROP INDEX " ++ quoteQualified table ++ "." ++ quote name

/-- The address has the name of the table, with dots between its parts, and the member. -/
def HasAddress (a : Addition) (address : Address) : Prop :=
  Text.joinWith "." (address.table.map String.ofList) = a.table ∧
    address.member.map (Prod.map id String.ofList) = a.member

theorem hasAddress_qualified (table : String) (member : Option (MemberKind × String)) :
    HasAddress ⟨table, member⟩
      ⟨Text.splitOn '.' table.toList, member.map (Prod.map id String.toList)⟩ := by
  refine ⟨Text.joinWith_split table '.', ?_⟩
  cases member <;> simp [Prod.map]

theorem hasAddress_whole (table : String) (member : Option (MemberKind × String)) :
    HasAddress ⟨table, member⟩ ⟨[table.toList], member.map (Prod.map id String.toList)⟩ := by
  refine ⟨String.ofList_toList, ?_⟩
  cases member <;> simp [Prod.map]

/-- What a statement drops, as it is read off its text, has the names that the statement is written
from. -/
theorem exists_dropped (a : Addition) :
    ∃ address, Address.dropped? a.dropSql.toList = some address ∧ a.HasAddress address := by
  match a with
  | ⟨table, none⟩ =>
    exact ⟨_, Address.dropped?_dropTable table, hasAddress_qualified table none⟩
  | ⟨table, some (.column, name)⟩ =>
    exact ⟨_, Address.dropped?_removeColumn ⟨table, name⟩,
      hasAddress_whole table (some (.column, name))⟩
  | ⟨table, some (.constraint, name)⟩ =>
    exact ⟨_, Address.dropped?_dropConstraint ⟨table, name⟩,
      hasAddress_whole table (some (.constraint, name))⟩
  | ⟨table, some (.index, name)⟩ =>
    exact ⟨_, Address.dropped?_dropIndex table name,
      hasAddress_qualified table (some (.index, name))⟩

end Addition

namespace Operation

/-- What an operation adds, if it is one of the additive ones; of several columns it is the first.
-/
def addition? : Operation → Option Addition
  | .createTable t => some ⟨t.name, none⟩
  | .addColumn c => c.columns.head?.map fun first => ⟨c.table, some (.column, first.name)⟩
  | .addIndex i => some ⟨i.table, some (.index, i.name)⟩
  | .addForeignKey k => some ⟨k.source.table, some (.constraint, k.name)⟩
  | _ => none

/-- The statement of an operation in an inferred way down. -/
def dropStatement (op : Operation) : Statement :=
  (op.addition?.map fun a => .sql a.dropSql).getD .noOp

/-- The inverse of an operation drops what the operation adds, and nothing else. -/
theorem map_compile_inverse? (op : Operation) :
    op.inverse?.map compile = op.addition?.map fun a => [.sql a.dropSql] := by
  cases op with
  | addColumn c =>
    rw [inverse?_addColumn]
    show (c.columns.head?.map _).map compile = (c.columns.head?.map _).map _
    cases c.columns.head? <;> rfl
  | _ => rfl

theorem statements_revert_eq (op : Operation) : op.revert.statements = [op.dropStatement] := by
  rw [statements_revert, map_compile_inverse?, dropStatement]
  cases op.addition? <;> rfl

variable {op : Operation} {up : List Operation}

/-- An inferred way down has one statement for each operation, the last operation first. -/
theorem inverseStatements_eq (h : up ≠ []) :
    inverseStatements up = up.reverse.map dropStatement := by
  rw [inverseStatements_eq_flatMap h, List.map_eq_flatMap]
  exact List.flatMap_congr fun op _ => statements_revert_eq op

/-- Of the operations that documents hold, those of the invertible kinds have an addition. -/
theorem isInvertible_iff (hop : op.IsComplete) :
    op.kind.isInvertible = true ↔ op.addition?.isSome = true := by
  cases op with
  | addColumn c =>
    have hcolumns : c.columns ≠ [] := hop
    simp [kind, OperationKind.isInvertible, addition?, List.isSome_head?, hcolumns]
  | _ => simp [kind, OperationKind.isInvertible, addition?]

/-- The statement is what the inverse of an operation is compiled to, if operations of its kind can
be inverted, and else the diagnostic. -/
structure IsRevertedBy (op : Operation) (statement : Statement) : Prop where
  isExecutable_iff : statement.isExecutable = true ↔ op.kind.isInvertible = true
  of_isInvertible : op.kind.isInvertible = true →
    ∃ inverse, op.inverse? = some inverse ∧ inverse.compile = [statement]
  of_not_isInvertible : op.kind.isInvertible = false → statement = .noOp

theorem isRevertedBy_dropStatement (hop : op.IsComplete) : op.IsRevertedBy op.dropStatement := by
  have hcompile := op.map_compile_inverse?
  have hinvertible := isInvertible_iff hop
  rw [dropStatement]
  cases haddition : op.addition? with
  | none =>
    have hkind : ¬ op.kind.isInvertible = true := by
      rw [hinvertible, haddition]
      exact Bool.false_ne_true
    exact ⟨⟨nofun, fun h => absurd h hkind⟩, fun h => absurd h hkind, fun _ => rfl⟩
  | some a =>
    have hkind : op.kind.isInvertible = true := hinvertible.mpr (by rw [haddition]; rfl)
    rw [haddition, Option.map_some, Option.map_eq_some_iff] at hcompile
    exact ⟨⟨fun _ => hkind, fun _ => rfl⟩, fun _ => hcompile,
      fun h => absurd hkind (Bool.eq_false_iff.mp h)⟩

/-- What an inferred way down executes drops the addition of an operation. -/
theorem exists_addition_of_mem {statement : Statement} (h : statement ∈ inverseStatements up)
    (hexecutable : statement.isExecutable = true) :
    ∃ op ∈ up, ∃ a, op.addition? = some a ∧ statement = .sql a.dropSql := by
  by_cases hup : up = []
  · -- an empty list has the diagnostic only, which is not executed
    obtain rfl := hup
    obtain rfl := List.mem_singleton.mp h
    cases hexecutable
  · rw [inverseStatements_eq hup] at h
    obtain ⟨op, hop, rfl⟩ := List.mem_map.mp h
    rw [dropStatement] at hexecutable ⊢
    cases haddition : op.addition? with
    | none =>
      rw [haddition] at hexecutable
      cases hexecutable
    | some a => exact ⟨op, List.mem_reverse.mp hop, a, haddition, rfl⟩

theorem inverseStatements_append {a b : List Operation} (ha : a ≠ []) (hb : b ≠ []) :
    inverseStatements (a ++ b) = inverseStatements b ++ inverseStatements a := by
  have hab : a ++ b ≠ [] := List.append_ne_nil_of_left_ne_nil ha b
  rw [inverseStatements_eq hab, inverseStatements_eq ha, inverseStatements_eq hb,
    List.reverse_append, List.map_append]

theorem length_inverseStatements (up : List Operation) :
    (inverseStatements up).length = max 1 up.length := by
  by_cases hup : up = []
  · rw [hup]
    rfl
  · have hpositive := List.length_pos_iff.mpr hup
    rw [inverseStatements_eq hup, List.length_map, List.length_reverse]
    omega

/-! ### Main theorem -/

/-- **What an inferred way down is made of.**  Let operations be read from documents.  There is one
statement for each, the last operation first, or the diagnostic alone if there are none.  The
statement of an operation is that of its inverse if operations of its kind can be inverted, and else
the diagnostic.  Two lists one after the other are reverted by what reverts the second and then what
reverts the first.  All that is executed drops a table, a first column, an index or a constraint
which one of the additive operations names: so it is written, and so it is read off the text. -/
theorem inferred_down_shape (hup : ∀ op ∈ up, ∃ d, ofDocument d = .ok op) :
    (inverseStatements up).length = max 1 up.length ∧
    (up = [] → inverseStatements up = [.noOp]) ∧
    (∀ k (hk : k < up.length), ∃ statement, (inverseStatements up).reverse[k]? = some statement ∧
      up[k].IsRevertedBy statement) ∧
    (∀ a b : List Operation, a ≠ [] → b ≠ [] →
      inverseStatements (a ++ b) = inverseStatements b ++ inverseStatements a) ∧
    ∀ statement ∈ inverseStatements up, statement.isExecutable = true →
      ∃ op ∈ up, op.kind.isInvertible = true ∧ ∃ a, op.addition? = some a ∧
        statement = .sql a.dropSql ∧
        ∃ address, Address.dropped? statement.text.toList = some address ∧ a.HasAddress address := by
  refine ⟨length_inverseStatements up, fun hnil => by rw [hnil]; rfl, fun k hk => ?_,
    fun _ _ => inverseStatements_append, fun statement hmem hexecutable => ?_⟩
  · have hne : up ≠ [] := List.ne_nil_of_length_pos (Nat.zero_lt_of_lt hk)
    have hop : up[k].IsComplete := exists_document_iff.mp (hup _ (List.getElem_mem hk))
    refine ⟨up[k].dropStatement, ?_, isRevertedBy_dropStatement hop⟩
    rw [inverseStatements_eq hne, ← List.map_reverse, List.reverse_reverse, List.getElem?_map,
      List.getElem?_eq_getElem hk]
    rfl
  · obtain ⟨op, hop, a, haddition, rfl⟩ := exists_addition_of_mem hmem hexecutable
    have hkind := (isInvertible_iff (exists_document_iff.mp (hup op hop))).mpr
      (by rw [haddition]; rfl)
    exact ⟨op, hop, hkind, a, haddition, rfl, a.exists_dropped⟩

/-- A table and an index, with an operation between them that cannot be inverted: three statements,
of which the middle one is the diagnostic. -/
theorem inferred_down_shape_of_three :
    let up : List Operation := [.createTable ⟨"Users", true, []⟩, .execute (.single "SELECT 1"),
      .addIndex ⟨"dbo.Users", ["Name", "Age"]⟩]
    (∀ op ∈ up, ∃ d, ofDocument d = .ok op) ∧ (inverseStatements up).length = 3 ∧
      inverseStatements up = [.sql "DROP INDEX [dbo].[Users].[IX_dbo.Users_Name_Age]", .noOp,
        .sql "DROP TABLE [Users]"] ∧
      ∃ op ∈ up, ∃ a, op.addition? = some a ∧ a.dropSql = "DROP TABLE [Users]" := by
  intro up
  have hup : ∀ op ∈ up, ∃ d, ofDocument d = .ok op := by
    simp [up, exists_document_iff, IsComplete]
  obtain ⟨hlength, -, -, -, hdrops⟩ := inferred_down_shape hup
  have hsql : inverseStatements up = [.sql "DROP INDEX [dbo].[Users].[IX_dbo.Users_Name_Age]",
      .noOp, .sql "DROP TABLE [Users]"] := by decide +kernel
  have hmem : .sql "DROP TABLE [Users]" ∈ inverseStatements up := by
    rw [hsql]
    simp
  obtain ⟨op, hop, -, a, haddition, hstatement, -⟩ := hdrops _ hmem rfl
  exact ⟨hup, hlength, hsql, op, hop, a, haddition, (Statement.sql.inj hstatement).symm⟩

end Operation
end SchemaMigration
