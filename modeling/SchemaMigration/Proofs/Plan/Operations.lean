import Mathlib.Data.List.Basic
import SchemaMigration.Proofs.Operation.Completeness
import SchemaMigration.Proofs.Plan.Walk

/-!
# The operations of a plan

What a plan sends comes from operations: those that migrations list to be applied, and those that
revert them, which are inferred where none are declared.  Migrations are `Additive` when the
inferred ones take back all that they do.  Then a plan sends the compiled operations and nothing
else (`Plan.statements_eq`), and the plan that leads back has the inverses in the opposite order
(`Plan.operations_back`).
-/

namespace SchemaMigration

/-! ### Operations that only add -/

/-- The operations whose inverse takes back all that they do: those that create a table or add one
column, an index or a foreign key. -/
def Operation.IsAdditive : Operation → Prop
  | .createTable _ => True
  | .addColumn c => c.columns.length = 1
  | .addIndex _ => True
  | .addForeignKey _ => True
  | _ => False

namespace Operation

variable {op : Operation} {ops : List Operation}

/-- The operations that revert a list of operations, where they have inverses. -/
def inverses (ops : List Operation) : List Operation := ops.reverse.filterMap inverse?

theorem IsAdditive.exists_inverse (h : op.IsAdditive) : ∃ inverse, op.inverse? = some inverse := by
  cases op with
  | createTable t => exact ⟨_, rfl⟩
  | addColumn c =>
    obtain ⟨column, hcolumn⟩ := List.length_eq_one_iff.mp h
    exact ⟨.removeColumn ⟨c.table, column.name⟩, by rw [inverse?_addColumn, hcolumn]; rfl⟩
  | addIndex i => exact ⟨_, rfl⟩
  | addForeignKey k => exact ⟨_, rfl⟩
  | _ => exact h.elim

/-- Nothing is lost exactly when an additive operation is reverted. -/
theorem warnings_eq_nil_iff : op.revert.warnings = [] ↔ op.IsAdditive := by
  cases op with
  | createTable t => exact ⟨fun _ => trivial, fun _ => rfl⟩
  | addColumn c =>
    obtain ⟨table, columns⟩ := c
    match columns with
    | [] => simp [revert, infer, IsAdditive]
    | [_] => simp [revert, infer, IsAdditive]
    | _ :: _ :: _ => simp [revert, infer, IsAdditive]
  | addIndex i => exact ⟨fun _ => trivial, fun _ => rfl⟩
  | addForeignKey k => exact ⟨fun _ => trivial, fun _ => rfl⟩
  | _ => simp [revert, infer, IsAdditive]

instance (op : Operation) : Decidable op.IsAdditive := decidable_of_iff _ warnings_eq_nil_iff

/-- All statements of operations are sent to the database. -/
theorem isExecutable_of_mem_compileAll {statement : Statement} (h : statement ∈ compileAll ops) :
    statement.isExecutable = true := by
  obtain ⟨op, -, hcompile⟩ := List.mem_flatMap.mp h
  exact isExecutable_of_mem_compile hcompile

theorem flatMap_statements_revert (h : ∀ op ∈ ops, op.IsAdditive) :
    ops.flatMap (fun op => op.revert.statements) = compileAll (ops.filterMap inverse?) := by
  induction ops with
  | nil => rfl
  | cons op rest ih =>
    obtain ⟨inverse, hinverse⟩ := (h op List.mem_cons_self).exists_inverse
    have hrest := ih fun op hop => h op (List.mem_cons_of_mem _ hop)
    rw [List.flatMap_cons, List.filterMap_cons_some hinverse, hrest, statements_revert, hinverse]
    rfl

theorem map_filterMap_inverse? (h : ∀ op ∈ ops, op.IsAdditive) :
    (ops.filterMap inverse?).map some = ops.map inverse? := by
  induction ops with
  | nil => rfl
  | cons op rest ih =>
    obtain ⟨inverse, hinverse⟩ := (h op List.mem_cons_self).exists_inverse
    have hrest := ih fun op hop => h op (List.mem_cons_of_mem _ hop)
    rw [List.filterMap_cons_some hinverse, List.map_cons, List.map_cons, hrest, hinverse]

end Operation

/-! ### Migrations -/

namespace Descriptor

variable {desc : Descriptor}

/-- The operations that revert a migration: those that it declares, or else the inverses. -/
def reverting (desc : Descriptor) : List Operation := desc.down.getD (Operation.inverses desc.up)

/-- A migration that declares no way down, and whose operations only add. -/
structure Additive (desc : Descriptor) : Prop where
  down_eq : desc.down = none
  up_ne : desc.up ≠ []
  up_additive : ∀ op ∈ desc.up, op.IsAdditive

theorem additive_iff : desc.Additive ↔
    desc.down = none ∧ desc.up ≠ [] ∧ ∀ op ∈ desc.up, op.IsAdditive :=
  ⟨fun h => ⟨h.down_eq, h.up_ne, h.up_additive⟩, fun ⟨hdown, hup, hops⟩ => ⟨hdown, hup, hops⟩⟩

instance (desc : Descriptor) : Decidable desc.Additive := decidable_of_iff' _ additive_iff

theorem Additive.reverting_eq (h : desc.Additive) :
    desc.reverting = Operation.inverses desc.up := by
  rw [reverting, h.down_eq]
  rfl

theorem Additive.downStatements_eq (h : desc.Additive) :
    desc.downStatements = Operation.compileAll desc.reverting := by
  rw [h.reverting_eq, downStatements, revert, h.down_eq]
  show Operation.inverseStatements desc.up = _
  rw [Operation.inverseStatements_eq_flatMap h.up_ne, Operation.flatMap_statements_revert]
  · rfl
  · intro op hop
    exact h.up_additive op (List.mem_reverse.mp hop)

theorem Additive.downLog_eq (h : desc.Additive) : desc.downLog = [] := by
  have hwarnings : Operation.inverseWarnings desc.up = [] := by
    rw [Operation.inverseWarnings_eq_flatMap]
    refine List.flatMap_eq_nil_iff.mpr fun op hop => ?_
    exact Operation.warnings_eq_nil_iff.mpr (h.up_additive op (List.mem_reverse.mp hop))
  rw [downLog, revert, h.down_eq]
  show (Operation.inverseWarnings desc.up).map _ = []
  rw [hwarnings]
  rfl

end Descriptor

/-! ### Plans -/

/-- The operations that a step stands for; there are none at a position past the last migration. -/
def Step.operations (ds : List Descriptor) (step : Step) : List Operation :=
  match Plan.migrationAt? ds step.version with
  | none => []
  | some desc =>
    match step.direction with
    | .up => desc.up
    | .down => desc.reverting

namespace Plan

variable {ds : List Descriptor} {a b c : Nat}

/-- The operations of a plan in order. -/
def operations (ds : List Descriptor) (p : Plan) : List Operation :=
  p.steps.flatMap (Step.operations ds)

theorem operations_append (h : a ≤ b ∧ b ≤ c ∨ c ≤ b ∧ b ≤ a) :
    operations ds (build ds a b) ++ operations ds (build ds b c) =
      operations ds (build ds a c) := by
  rw [operations, operations, operations, ← List.flatMap_append, build_append h]

theorem operations_self : operations ds (build ds a a) = [] := by
  have hsteps : (build ds a a).steps = [] := by
    rw [← List.length_eq_zero_iff, length_build]
    omega
  rw [operations, hsteps]
  rfl

section

variable (hds : ∀ desc ∈ ds, desc.Additive)
include hds

/-- A plan sends its operations, compiled, and nothing else. -/
theorem statements_eq :
    (build ds a c).statements = Operation.compileAll (operations ds (build ds a c)) := by
  rw [statements, operations, Operation.compileAll, List.flatMap_assoc]
  refine List.flatMap_congr fun step hstep => ?_
  obtain ⟨v, rfl | rfl⟩ := eq_of_mem_build hstep
  · simp only [upStep, Step.operations]
    cases migrationAt? ds v with
    | none => rfl
    | some desc => rfl
  · simp only [downStep, revertStep, Step.operations]
    cases hmigration : migrationAt? ds v with
    | none => rfl
    | some desc => exact (hds desc (mem_of_migrationAt? hmigration)).downStatements_eq

/-- The plan that leads back has the inverses, and the last comes first. -/
theorem operations_back (hac : a ≤ c) :
    operations ds (build ds c a) = Operation.inverses (operations ds (build ds a c)) := by
  rw [operations, operations, build_steps_of_ge hac, build_steps_of_le hac, List.flatMap_map,
    List.flatMap_map, Operation.inverses, List.reverse_flatMap, List.filterMap_flatMap]
  -- step by step, one migration is taken back where it was applied
  refine List.flatMap_congr fun v _ => ?_
  simp only [upStep, downStep, revertStep, Step.operations, Function.comp]
  cases hmigration : migrationAt? ds v with
  | none => rfl
  | some desc => exact (hds desc (mem_of_migrationAt? hmigration)).reverting_eq

theorem additive_of_mem_operations (hac : a ≤ c) {op : Operation}
    (hop : op ∈ operations ds (build ds a c)) : op.IsAdditive := by
  rw [operations, build_steps_of_le hac, List.flatMap_map] at hop
  obtain ⟨v, -, hop⟩ := List.mem_flatMap.mp hop
  simp only [upStep, Step.operations] at hop
  cases hmigration : migrationAt? ds v with
  | none => simp [hmigration] at hop
  | some desc =>
    simp only [hmigration] at hop
    exact (hds desc (mem_of_migrationAt? hmigration)).up_additive op hop

theorem buildLog_eq_nil : buildLog ds a c = [] := by
  rcases Nat.le_total a c with h | h
  · exact buildLog_of_le h
  · rw [buildLog_of_ge h]
    refine List.flatMap_eq_nil_iff.mpr fun v _ => ?_
    cases hmigration : migrationAt? ds v with
    | none => rfl
    | some desc => exact (hds desc (mem_of_migrationAt? hmigration)).downLog_eq

end

end Plan
end SchemaMigration
