import SchemaMigration.Proofs.Operation.InferredDown
import SchemaMigration.Proofs.Plan.Operations
import SchemaMigration.Proofs.Schema.Basic

/-!
# Taking back what migrations have done

The inverse of an additive operation takes back what it has done in a consistent schema
(`Schema.undo`), and so do the inverses of several, the last first (`Schema.run_inverses`).  Where
migrations declare no way down and only add, every plan between two versions therefore leads from
the schema of the one to the schema of the other, in both directions (`inferred_downs_undo`).
-/

namespace SchemaMigration.Schema

open Operation (compileAll inverse? inverses)

variable {S T : Schema} {op : Operation} {ops : List Operation}

/-! ### One operation -/

theorem erase_insert {α : Type} {a : String} {x : α} {s : Finmap fun _ : String => α} (h : a ∉ s) :
    (s.insert a x).erase a = s := by
  apply Finmap.ext_lookup
  intro b
  by_cases hb : b = a
  · rw [hb, Finmap.lookup_erase, Finmap.lookup_eq_none.mpr h]
  · rw [Finmap.lookup_erase_ne hb, Finmap.lookup_insert_of_ne _ hb]

/-- A change that is taken back leaves the schema as it was. -/
theorem modify_modify {name : String} {f g : Table → Table}
    (h : ∀ t ∈ S.lookup name, g (f t) = t) : modify (modify S name f) name g = S := by
  apply Finmap.ext_lookup
  intro table
  rw [lookup_modify, lookup_modify, Option.map_map]
  cases ht : S.lookup table with
  | none => rfl
  | some t =>
    rw [Option.map_some, Function.comp]
    by_cases htable : table = name
    · rw [if_pos htable, if_pos htable, h t (htable ▸ ht)]
    · rw [if_neg htable, if_neg htable]

theorem undo_createTable (hS : Consistent S) {t : TableDefinition}
    (h : Admits S (.createTable t)) :
    Admits (after S (.createTable t)) (.dropTable t.name) ∧
      after (after S (.createTable t)) (.dropTable t.name) = S := by
  have hfresh : t.name ∉ S := h
  refine ⟨⟨Finmap.mem_insert.mpr (.inl rfl), ?_⟩, erase_insert hfresh⟩
  -- a foreign key of another table was there before, so it does not refer to the new table
  intro table key reference hkey hne htarget
  obtain ⟨habs, -⟩ | ⟨-, hold⟩ := holds_insert.mp hkey
  · exact hne habs
  · exact hfresh (htarget ▸ mem_of_holds (hS.targets hold))

theorem undo_addColumn (hS : Consistent S) {table : String} {column : Column}
    (h : Admits S (.addColumn ⟨table, [column]⟩)) :
    Admits (after S (.addColumn ⟨table, [column]⟩)) (.removeColumn ⟨table, column.name⟩) ∧
      after (after S (.addColumn ⟨table, [column]⟩)) (.removeColumn ⟨table, column.name⟩) = S := by
  obtain ⟨t, ht, -, hfresh⟩ := h
  have hname : column.name ∉ t.columns := hfresh column (List.mem_singleton_self _)
  -- what was there before does not speak of a column that was not
  have hunused {columns : List String} (hhas : Has S table columns) : column.name ∉ columns := by
    obtain ⟨t', ht', hcolumns⟩ := hhas
    obtain rfl := Option.some.inj (ht.symm.trans ht')
    exact fun hmem => hname (hcolumns _ hmem)
  refine ⟨⟨?_, ?_, ?_⟩, ?_⟩
  · refine holds_modify_self ht ?_
    simp
  · rintro table' index columns hindex rfl
    exact hunused (hS.indexes (hindex.of_modify fun _ => rfl))
  · intro table' key reference hkey
    have hold := hkey.of_modify fun _ => rfl
    constructor
    · rintro rfl
      exact hunused (hS.sources hold)
    · intro htarget
      have hhas := hS.targets hold
      rw [htarget] at hhas
      exact hunused hhas
  · refine modify_modify fun t' ht' => ?_
    obtain rfl := Option.some.inj (ht.symm.trans ht')
    simp [Finset.union_singleton, Finset.erase_insert hname]

theorem undo_addIndex {i : Index} (h : Admits S (.addIndex i)) :
    Admits (after S (.addIndex i)) (.removeIndex i) ∧
      after (after S (.addIndex i)) (.removeIndex i) = S := by
  obtain ⟨-, t, ht, hfresh⟩ := h
  constructor
  · exact holds_modify_self ht (Finmap.mem_insert.mpr (.inl rfl))
  · refine modify_modify fun t' ht' => ?_
    obtain rfl := Option.some.inj (ht.symm.trans ht')
    rw [erase_insert hfresh]

theorem undo_addForeignKey {k : ForeignKey} (h : Admits S (.addForeignKey k)) :
    Admits (after S (.addForeignKey k)) (.dropConstraint ⟨k.source.table, k.name⟩) ∧
      after (after S (.addForeignKey k)) (.dropConstraint ⟨k.source.table, k.name⟩) = S := by
  obtain ⟨-, -, t, ht, hfresh⟩ := h
  constructor
  · exact holds_modify_self ht (Finmap.mem_insert.mpr (.inl rfl))
  · refine modify_modify fun t' ht' => ?_
    obtain rfl := Option.some.inj (ht.symm.trans ht')
    rw [erase_insert hfresh]

/-- **The inverse takes back** what an additive operation does in a consistent schema. -/
theorem undo (hS : Consistent S) (h : Admits S op) (hadditive : op.IsAdditive) :
    ∃ inverse, op.inverse? = some inverse ∧ Admits (after S op) inverse ∧
      after (after S op) inverse = S := by
  cases op with
  | createTable t => exact ⟨_, rfl, undo_createTable hS h⟩
  | addColumn c =>
    obtain ⟨table, columns⟩ := c
    obtain ⟨column, rfl⟩ := List.length_eq_one_iff.mp hadditive
    exact ⟨_, rfl, undo_addColumn hS h⟩
  | addIndex i => exact ⟨_, rfl, undo_addIndex h⟩
  | addForeignKey k => exact ⟨_, rfl, undo_addForeignKey h⟩
  | _ => exact hadditive.elim

/-! ### Several operations -/

/-- The inverses of additive operations, the last first, take back what these have done. -/
theorem run_inverses (hS : Consistent S) (hadditive : ∀ op ∈ ops, op.IsAdditive)
    (h : run S ops = some T) : run T (inverses ops) = some S := by
  induction ops generalizing S with
  | nil =>
    obtain rfl := Option.some.inj h
    rfl
  | cons op rest ih =>
    obtain ⟨hop, hrest⟩ := run_cons_eq_some_iff.mp h
    obtain ⟨inverse, hinverse, hadmits, hback⟩ := undo hS hop (hadditive op List.mem_cons_self)
    have hinverses : inverses (op :: rest) = inverses rest ++ [inverse] := by
      rw [inverses, List.reverse_cons, List.filterMap_append, List.filterMap_cons_some hinverse]
      rfl
    have hrestBack := ih (hS.after hop) (fun op hop => hadditive op (List.mem_cons_of_mem _ hop))
      hrest
    rw [hinverses, run_append, hrestBack, Option.bind_some]
    exact run_cons_eq_some_iff.mpr ⟨hadmits, congrArg some hback⟩

/-! ### Plans -/

/-- The inverses of additive operations are written down from what the operations add. -/
theorem map_some_compileAll_inverses (h : ∀ op ∈ ops, op.IsAdditive) :
    (compileAll (ops.filterMap inverse?)).map some =
      ops.map fun op => op.addition?.map fun a => .sql a.dropSql := by
  induction ops with
  | nil => rfl
  | cons op rest ih =>
    obtain ⟨inverse, hinverse⟩ := (h op List.mem_cons_self).exists_inverse
    have hcompile := op.map_compile_inverse?
    rw [hinverse] at hcompile
    obtain ⟨a, haddition, hsql⟩ := Option.map_eq_some_iff.mp hcompile.symm
    have hrest := ih fun op hop => h op (List.mem_cons_of_mem _ hop)
    rw [List.filterMap_cons_some hinverse, compileAll, List.flatMap_cons, ← hsql, List.map_append,
      ← compileAll, hrest, List.map_cons (l := rest), haddition]
    rfl

/-- **Inferred ways down take back what migrations have done.**  Let migrations declare no way down
and only add, and let a consistent schema become `T` when the first `v` of them are applied.  Then
`T` is consistent, and reverting all of them gives the schema from before.  Every version `w` on the
way has a schema, which the plan from `v` down to `w` leads back to and from which the plan up to
`v` leads to `T` again; the operations of the one are the inverses of those of the other, in the
opposite order, and the statements that are sent for them drop what the operations of the other add:
the table, the column, the index or the constraint, by the names that the operation gives.  Plans
send their operations, compiled, without diagnostics, and nothing is reported as lost. -/
theorem inferred_downs_undo {ds : List Descriptor} (hds : ∀ desc ∈ ds, desc.Additive)
    (hS : Consistent S) {v : Nat} (h : run S (Plan.operations ds (Plan.build ds 0 v)) = some T) :
    Consistent T ∧ run T (Plan.operations ds (Plan.build ds v 0)) = some S ∧
    (∀ w ≤ v, ∃ U, Consistent U ∧ run S (Plan.operations ds (Plan.build ds 0 w)) = some U ∧
      run T (Plan.operations ds (Plan.build ds v w)) = some U ∧
      run U (Plan.operations ds (Plan.build ds w v)) = some T ∧
      (Plan.operations ds (Plan.build ds v w)).map some =
        (Plan.operations ds (Plan.build ds w v)).reverse.map Operation.inverse? ∧
      (Plan.build ds v w).statements.map some =
        (Plan.operations ds (Plan.build ds w v)).reverse.map fun op =>
          op.addition?.map fun a => .sql a.dropSql) ∧
    ∀ a c, (Plan.build ds a c).statements =
        Operation.compileAll (Plan.operations ds (Plan.build ds a c)) ∧
      (∀ statement ∈ (Plan.build ds a c).statements, statement.isExecutable = true) ∧
      Plan.buildLog ds a c = [] := by
  have hback {w : Nat} (hw : w ≤ v) : ∃ U, Consistent U ∧
      run S (Plan.operations ds (Plan.build ds 0 w)) = some U ∧
      run T (Plan.operations ds (Plan.build ds v w)) = some U ∧
      run U (Plan.operations ds (Plan.build ds w v)) = some T := by
    -- the plan to `v` goes by way of `w`
    have hsplit : Plan.operations ds (Plan.build ds 0 w) ++ Plan.operations ds (Plan.build ds w v) =
        Plan.operations ds (Plan.build ds 0 v) := Plan.operations_append (.inl ⟨Nat.zero_le w, hw⟩)
    rw [← hsplit, run_append] at h
    obtain ⟨U, hU, hT⟩ := Option.bind_eq_some_iff.mp h
    have hconsistent := hS.run hU
    refine ⟨U, hconsistent, hU, ?_, hT⟩
    rw [Plan.operations_back hds hw]
    exact run_inverses hconsistent (fun op hop => Plan.additive_of_mem_operations hds hw hop) hT
  refine ⟨hS.run h, ?_, fun w hw => ?_, fun a c => ?_⟩
  · obtain ⟨U, -, hU, hdown, -⟩ := hback (Nat.zero_le v)
    rw [Plan.operations_self] at hU
    rw [hdown, ← hU]
    rfl
  · obtain ⟨U, hconsistent, hU, hdown, hup⟩ := hback hw
    -- what the plan back takes back are the operations of the plan to `v`, and these only add
    have hadditive : ∀ op ∈ (Plan.operations ds (Plan.build ds w v)).reverse, op.IsAdditive :=
      fun op hop => Plan.additive_of_mem_operations hds hw (List.mem_reverse.mp hop)
    refine ⟨U, hconsistent, hU, hdown, hup, ?_, ?_⟩
    · rw [Plan.operations_back hds hw]
      exact Operation.map_filterMap_inverse? hadditive
    · rw [Plan.statements_eq hds, Plan.operations_back hds hw]
      exact map_some_compileAll_inverses hadditive
  · have hstatements := Plan.statements_eq hds (a := a) (c := c)
    refine ⟨hstatements, fun statement hmem => ?_, Plan.buildLog_eq_nil hds⟩
    rw [hstatements] at hmem
    exact Operation.isExecutable_of_mem_compileAll hmem

/-- Two migrations, the second of which refers to what the first has created: together they are
reverted to the empty schema, and the second alone to the schema between them.  For that the plan
back drops the column first and the table last. -/
theorem inferred_downs_undo_of_references :
    let users : Descriptor := {
      key := ⟨"001_users", by decide⟩
      path := "001_users.yaml"
      up := [.createTable ⟨"dbo.Users", false, [⟨"Name", "string", none, none⟩]⟩,
        .addIndex ⟨"dbo.Users", ["Name"]⟩]
      down := none }
    let orders : Descriptor := {
      key := ⟨"002_orders", by decide⟩
      path := "002_orders.yaml"
      up := [.createTable ⟨"Orders", true, [⟨"UserId", "int", none, none⟩]⟩,
        .addForeignKey ⟨"FK_User", ⟨"Orders", ["UserId"]⟩, ⟨"dbo.Users", ["Id"]⟩⟩,
        .addColumn ⟨"dbo.Users", [⟨"Orders", "int", none, none⟩]⟩]
      down := none }
    let ds := [users, orders]
    ∃ T U, run ∅ (Plan.operations ds (Plan.build ds 0 2)) = some T ∧
      Has T "dbo.Users" ["Id", "Name", "Orders"] ∧
      run T (Plan.operations ds (Plan.build ds 2 0)) = some ∅ ∧
      run ∅ (Plan.operations ds (Plan.build ds 0 1)) = some U ∧
      run T (Plan.operations ds (Plan.build ds 2 1)) = some U ∧
      (Plan.build ds 2 1).statements.map some = [
        some (.sql "ALTER TABLE [dbo.Users] DROP COLUMN [Orders]"),
        some (.sql "ALTER TABLE [Orders] DROP CONSTRAINT [FK_User]"),
        some (.sql "DROP TABLE [Orders]")] := by
  intro users orders ds
  have hds : ∀ desc ∈ ds, desc.Additive := by decide +kernel
  have hcolumns : ∃ T ∈ run ∅ (Plan.operations ds (Plan.build ds 0 2)),
      Has T "dbo.Users" ["Id", "Name", "Orders"] := by decide +kernel
  obtain ⟨T, hT, hcolumns⟩ := hcolumns
  obtain ⟨-, hall, hsome, -⟩ := inferred_downs_undo hds .empty hT
  obtain ⟨U, -, hU, hone, -, -, hsent⟩ := hsome 1 (by decide)
  exact ⟨T, U, hT, hcolumns, hall, hU, hone, hsent.trans (by decide +kernel)⟩

end SchemaMigration.Schema
