import SchemaMigration.Proofs.Operation.InferredDown
import SchemaMigration.Proofs.Operation.Reading

/-!
# Complete operations

What is read from a document is complete, in whatever form its columns are given: they are listed in
a sequence, inside tags or not, and where they are missing, null or none the document is refused
(`listsColumns_of_record`, `isListedIn_of_ofPayload`).  So an operation has an inverse exactly if
those of its kind can be inverted, and it compiles to one statement, or to one for each column that
it changes (`parsed_operations_complete`).
-/

namespace SchemaMigration

namespace Payload

variable {α β γ : Type} {type name : String} {fields : List Field}
  {build : List (Document × Document) → Except Fault α} {reader : Reader α} {first : Reader β}
  {item : Reader γ} {es : List (Document × Document)} {d : Document} {a : α}

/-! ### The columns of a record -/

/-- The record lists so many columns, in a sequence. -/
def ListsColumns (d : Document) (n : Nat) : Prop :=
  ∃ entries columns items, d.untagged = .mapping entries ∧
    field? "columns" entries = some columns ∧ columns.untagged = .sequence items ∧
    items.length = n

theorem required_eq_ok_iff :
    required name reader es = .ok a ↔ ∃ d, field? name es = some d ∧ reader d = .ok a := by
  rw [required]
  cases field? name es <;> simp

/-- A record with a field that has to be there is read from a mapping. -/
theorem exists_entries_of_record (h : record type fields build d = .ok a)
    (hrequired : build [] ≠ .ok a) : ∃ es, d.untagged = .mapping es ∧ build es = .ok a := by
  rw [record] at h
  split at h
  · next es hmapping =>
    obtain ⟨_, -, hbuild⟩ := Except.bind_eq_ok_iff.mp h
    exact ⟨es, hmapping, hbuild⟩
  · exact absurd h hrequired
  · cases h

/-- Of a list with items in it, a sequence is read. -/
theorem exists_items_of_list {cs : List γ} (h : list item d = .ok cs) (hne : cs ≠ []) :
    ∃ items, d.untagged = .sequence items ∧ items.length = cs.length := by
  rw [list] at h
  split at h
  · next items hitems => exact ⟨items, hitems, (Except.mapM_eq_ok_iff.mp h).length_eq⟩
  · exact absurd (Except.ok.inj h).symm hne
  · cases h

/-- A record of a name and of columns lists the columns that are read from it. -/
theorem listsColumns_of_record {make : β → List γ → α} (columns : α → List γ)
    (hmake : ∀ x cs, columns (make x cs) = cs)
    (h : record type fields (fun entries => do
      let x ← required name first entries
      let cs ← required "columns" (list item) entries
      pure (make x cs)) d = .ok a) (hne : columns a ≠ []) :
    ListsColumns d (columns a).length := by
  obtain ⟨es, hes, hbuild⟩ := exists_entries_of_record h nofun
  obtain ⟨x, -, hrest⟩ := Except.bind_eq_ok_iff.mp hbuild
  obtain ⟨cs, hcs, hmade⟩ := Except.bind_eq_ok_iff.mp hrest
  obtain rfl := Except.ok.inj hmade
  rw [hmake] at hne ⊢
  obtain ⟨value, hvalue, hlist⟩ := required_eq_ok_iff.mp hcs
  obtain ⟨items, hitems, hlength⟩ := exists_items_of_list hlist hne
  exact ⟨es, value, items, hes, hvalue, hitems, hlength⟩

theorem listsColumns_of_keyEnd {k : KeyEnd} (h : keyEnd d = .ok k) (hne : k.columns ≠ []) :
    ListsColumns d k.columns.length :=
  listsColumns_of_record KeyEnd.columns (fun _ _ => rfl) h hne

end Payload

namespace Operation
open Payload SchemaMigration.Except
open Identifier (quote)

variable {op : Operation} {kind : OperationKind} {d : Document} {c : ColumnList}

/-- The payload lists the columns that the operation has, on both sides if it is a foreign key. -/
def IsListedIn : Operation → Document → Prop
  | .addColumn c, d | .changeColumn c, d => ListsColumns d c.columns.length
  | .addIndex i, d | .removeIndex i, d => ListsColumns d i.columns.length
  | .addForeignKey k, d => ∃ entries source target, d.untagged = .mapping entries ∧
      field? "from" entries = some source ∧ ListsColumns source k.source.columns.length ∧
      field? "to" entries = some target ∧ ListsColumns target k.target.columns.length
  | _, _ => True

theorem isListedIn_of_ofPayload (h : ofPayload kind d = .ok op) : op.IsListedIn d := by
  have hcomplete := isComplete_of_ofPayload h
  cases kind with
  | raw => cases h
  | createTable | dropTable | removeColumn | dropConstraint | execute =>
    obtain ⟨_, -, rfl⟩ := map_eq_ok_iff.mp h
    trivial
  | addColumn | changeColumn =>
    obtain ⟨c, hc, rfl⟩ := map_eq_ok_iff.mp h
    obtain ⟨_, hpayload, hchecked⟩ := bind_eq_ok_iff.mp hc
    obtain ⟨-, rfl⟩ := checked_eq_ok_iff.mp hchecked
    exact listsColumns_of_record ColumnList.columns (fun _ _ => rfl)
      (mapError_eq_ok_iff.mp hpayload) hcomplete
  | addForeignKey =>
    obtain ⟨_, hk, rfl⟩ := map_eq_ok_iff.mp h
    obtain ⟨k, hpayload, hchecked⟩ := bind_eq_ok_iff.mp hk
    obtain ⟨-, rfl⟩ := checked_eq_ok_iff.mp hchecked
    obtain ⟨hsource, htarget⟩ : k.source.columns ≠ [] ∧ k.target.columns ≠ [] := hcomplete
    -- each end of the key has a record of its own, with its own columns
    obtain ⟨es, hes, hbuild⟩ := exists_entries_of_record (mapError_eq_ok_iff.mp hpayload) nofun
    obtain ⟨name, -, hsides⟩ := bind_eq_ok_iff.mp hbuild
    obtain ⟨source, hs, hrest⟩ := bind_eq_ok_iff.mp hsides
    obtain ⟨target, ht, hmade⟩ := bind_eq_ok_iff.mp hrest
    obtain rfl := Except.ok.inj hmade
    obtain ⟨ds, hds, hs⟩ := required_eq_ok_iff.mp hs
    obtain ⟨dt, hdt, ht⟩ := required_eq_ok_iff.mp ht
    exact ⟨es, ds, dt, hes, hds, listsColumns_of_keyEnd hs hsource, hdt,
      listsColumns_of_keyEnd ht htarget⟩
  | addIndex | removeIndex =>
    obtain ⟨i, hi, rfl⟩ := map_eq_ok_iff.mp h
    obtain ⟨_, hpayload, hchecked⟩ := bind_eq_ok_iff.mp hi
    obtain ⟨-, rfl⟩ := checked_eq_ok_iff.mp hchecked
    exact listsColumns_of_record Index.columns (fun _ _ => rfl)
      (mapError_eq_ok_iff.mp hpayload) hcomplete

/-! ### Inverses and statements -/

/-- Of complete operations, those of the invertible kinds have an inverse. -/
theorem isInvertible_eq_isSome_inverse? (hop : op.IsComplete) :
    op.kind.isInvertible = op.inverse?.isSome := by
  have hsome : op.inverse?.isSome = op.addition?.isSome := by
    have hcompile := congrArg Option.isSome op.map_compile_inverse?
    rwa [Option.isSome_map, Option.isSome_map] at hcompile
  rw [Bool.eq_iff_iff, isInvertible_iff hop, hsome]

theorem isExecutable_of_mem_compile {statement : Statement} (h : statement ∈ op.compile) :
    statement.isExecutable = true := by
  cases op with
  | changeColumn c =>
    obtain ⟨column, -, rfl⟩ := List.mem_map.mp h
    rfl
  | _ =>
    obtain rfl := List.mem_singleton.mp h
    rfl

/-- Changing columns takes one statement for each, which names it. -/
theorem forall₂_compile_changeColumn (c : ColumnList) :
    List.Forall₂ (fun column statement =>
      (alterTable c.table ++ " ALTER COLUMN " ++ quote column.name).toList <+:
        statement.text.toList) c.columns (compile (.changeColumn c)) := by
  rw [compile, List.forall₂_map_right_iff, List.forall₂_same]
  intro column _
  simp only [Statement.text, columnDefinition, String.toList_append, List.append_assoc,
    List.prefix_append_right_inj]
  exact List.prefix_append _ _

theorem length_compile (h : ∀ c, op ≠ .changeColumn c) : op.compile.length = 1 := by
  cases op with
  | changeColumn c => exact absurd rfl (h c)
  | _ => rfl

theorem compile_ne_nil (hop : op.IsComplete) : op.compile ≠ [] := by
  by_cases hchange : ∃ c, op = .changeColumn c
  · obtain ⟨c, rfl⟩ := hchange
    have hcolumns : c.columns ≠ [] := hop
    simpa [compile] using hcolumns
  · have hlength := length_compile fun c hc => hchange ⟨c, hc⟩
    exact List.ne_nil_of_length_eq_add_one hlength

/-- The operations that a member of a descriptor lists are complete. -/
theorem isComplete_of_listOfDocument {ops : List Operation} (h : listOfDocument d = .ok ops) :
    ∀ op ∈ ops, op.IsComplete := by
  intro op hop
  unfold listOfDocument at h
  split at h
  · obtain rfl := Except.ok.inj h
    cases hop
  · obtain ⟨item, -, hitem⟩ := exists_left_of_forall₂ (mapM_eq_ok_iff.mp h) hop
    exact isComplete_of_ofDocument hitem
  · obtain ⟨single, hsingle, rfl⟩ := map_eq_ok_iff.mp h
    obtain rfl := List.mem_singleton.mp hop
    exact isComplete_of_ofDocument hsingle

/-! ### Main theorem -/

/-- **What is read is complete.**  An operation that is read from a document has the name and the
columns that it needs, and the document lists just as many.  It has an inverse exactly if operations
of its kind can be inverted.  It is compiled to statements that are all executed, at least one: when
columns are changed one for each of them, in order, and else a single one. -/
theorem parsed_operations_complete (h : ofDocument d = .ok op) :
    op.IsComplete ∧
    (∀ entries value, d = .mapping entries → value? entries op.kind = some value →
      op.IsListedIn value) ∧
    op.kind.isInvertible = op.inverse?.isSome ∧
    op.compile ≠ [] ∧ (∀ statement ∈ op.compile, statement.isExecutable = true) ∧
    (∀ c, op = .changeColumn c → List.Forall₂ (fun column statement =>
      (alterTable c.table ++ " ALTER COLUMN " ++ quote column.name).toList <+:
        statement.text.toList) c.columns op.compile) ∧
    ((∀ c, op ≠ .changeColumn c) → op.compile.length = 1) := by
  have hop := isComplete_of_ofDocument h
  refine ⟨hop, ?_, isInvertible_eq_isSome_inverse? hop, compile_ne_nil hop,
    fun _ => isExecutable_of_mem_compile, ?_, length_compile⟩
  · rintro entries value rfl hvalue
    obtain ⟨sql, habs, -⟩ | ⟨es, v, hes, -, hv, hpayload⟩ := ofDocument_eq_ok_iff.mp h
    · cases habs
    · obtain rfl := Document.mapping.inj hes
      rw [Option.some.inj (hvalue.symm.trans hv)]
      exact isListedIn_of_ofPayload hpayload
  · rintro c rfl
    exact forall₂_compile_changeColumn c

/-- Two columns to change, listed inside a tag: there are two statements, and no inverse. -/
theorem parsed_operations_complete_of_tagged_list :
    let column (name : String) : Document :=
      .mapping [(.string "name", .string name), (.string "type", .string "int")]
    let d : Document := .mapping [(.string "change_column", .mapping [
      (.string "columns", .tagged "!two" (.sequence [column "Age", column "Size"])),
      (.string "table", .string "Users")])]
    let op : Operation :=
      .changeColumn ⟨"Users", [⟨"Age", "int", none, none⟩, ⟨"Size", "int", none, none⟩]⟩
    ofDocument d = .ok op ∧ op.inverse? = none ∧ op.compile.length = 2 := by
  intro column d op
  have hread : ofDocument d = .ok op := rfl
  obtain ⟨-, -, hinvertible, -, -, hchange, -⟩ := parsed_operations_complete hread
  have hinverse : op.inverse?.isSome = false := hinvertible.symm
  exact ⟨hread, by simpa using hinverse, (hchange _ rfl).length_eq.symm⟩

end Operation
end SchemaMigration
