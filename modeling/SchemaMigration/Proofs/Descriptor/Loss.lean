import SchemaMigration.Proofs.Descriptor.Directory
import SchemaMigration.Proofs.Operation.Completeness
import SchemaMigration.Proofs.Schema.Undo

/-!
# What an inferred way down loses

An operation without an inverse, and one whose inverse drops only the first of several columns, is
not taken back (`Schema.undone_iff`).  Each of them has one warning, and no other operation has any
(`Operation.isReportedBy_report`).  The warnings come in the order of the statements of the inferred
way down, and a way down that is declared has none (`lossy_downs_reported`).
-/

namespace SchemaMigration

namespace Schema

variable {S : Schema} {op : Operation}

/-- A second column that has been added is still there when the first has been removed. -/
theorem not_undone_addColumn {table : String} {first second : Column} {rest : List Column}
    (h : Admits S (.addColumn ⟨table, first :: second :: rest⟩)) :
    after (after S (.addColumn ⟨table, first :: second :: rest⟩))
      (.removeColumn ⟨table, first.name⟩) ≠ S := by
  obtain ⟨t, ht, hnames, hfresh⟩ := h
  have hne : second.name ≠ first.name := by
    simp only [List.map_cons, List.nodup_cons, List.mem_cons, not_or] at hnames
    exact Ne.symm hnames.1.1
  intro hback
  have hleft : Holds (after (after S (.addColumn ⟨table, first :: second :: rest⟩))
      (.removeColumn ⟨table, first.name⟩)) table fun t => second.name ∈ t.columns := by
    refine holds_modify.mpr (holds_modify_self ht ?_)
    simp [hne]
  obtain ⟨t', ht', hcolumn⟩ := hback ▸ hleft
  obtain rfl := Option.some.inj (ht.symm.trans ht')
  exact hfresh second (by simp) hcolumn

/-- The inverse of an operation takes back what it does exactly if the operation is additive. -/
theorem undone_iff (hS : Consistent S) (h : Admits S op) :
    (∃ inverse, op.inverse? = some inverse ∧ after (after S op) inverse = S) ↔
      op.IsAdditive := by
  constructor
  · rintro ⟨inverse, hinverse, hback⟩
    cases op with
    | addColumn c =>
      obtain ⟨table, columns⟩ := c
      match columns with
      | [] => cases hinverse
      | [_] => rfl
      | _ :: _ :: _ =>
        obtain rfl := Option.some.inj hinverse
        exact absurd hback (not_undone_addColumn h)
    | createTable | addIndex | addForeignKey => trivial
    | _ => cases hinverse
  · intro hadditive
    obtain ⟨inverse, hinverse, -, hback⟩ := undo hS h hadditive
    exact ⟨inverse, hinverse, hback⟩

end Schema

namespace Operation

variable {op : Operation}

/-! ### One operation -/

/-- The records of what is lost when an operation is reverted. -/
def report (op : Operation) : List LogRecord := op.revert.warnings.map fun w => ⟨.warn, w.message⟩

/-- The records tell of an operation what its inverse does not take back: all of it, or all columns
but the first.  There are none exactly if the schema from before comes back. -/
structure IsReportedBy (op : Operation) (records : List LogRecord) : Prop where
  of_not_isInvertible : op.kind.isInvertible = false →
    records = [⟨.warn, "Cannot infer a down for '" ++ op.kind.key ++ "'; declare one explicitly"⟩]
  of_several : ∀ c first, op = .addColumn c → c.columns.head? = some first →
    1 < c.columns.length → records = [⟨.warn, "Inferred down for add_column on '" ++ c.table ++
      "' drops only '" ++ first.name ++ "'; declare an explicit down to drop all " ++
      Numeral.ofNat c.columns.length ++ " columns"⟩]
  of_other : op.kind.isInvertible = true → (∀ c, op = .addColumn c → c.columns.length ≤ 1) →
    records = []
  eq_nil_iff : ∀ S, Schema.Consistent S → Schema.Admits S op →
    (records = [] ↔ ∃ inverse, op.inverse? = some inverse ∧
      Schema.after (Schema.after S op) inverse = S)

theorem report_eq_nil_iff : op.report = [] ↔ op.IsAdditive := by
  rw [← warnings_eq_nil_iff, report, List.map_eq_nil_iff]

theorem isReportedBy_report (hop : op.IsComplete) : op.IsReportedBy op.report where
  of_not_isInvertible h := by
    cases op with
    | createTable | addColumn | addIndex | addForeignKey => cases h
    | _ => rfl
  of_several := by
    rintro ⟨table, columns⟩ first rfl hfirst hlength
    -- one record stands for all columns behind the first
    match columns with
    | [] => cases hfirst
    | [_] => exact absurd hlength (Nat.lt_irrefl 1)
    | _ :: _ :: _ =>
      obtain rfl := Option.some.inj hfirst
      rfl
  of_other hkind hone := by
    rw [report_eq_nil_iff]
    cases op with
    | addColumn c =>
      have hcolumns : c.columns ≠ [] := hop
      have hpositive := List.length_pos_iff.mpr hcolumns
      exact Nat.le_antisymm (hone c rfl) hpositive
    | createTable | addIndex | addForeignKey => trivial
    | _ => cases hkind
  eq_nil_iff S hS hadmits := by rw [report_eq_nil_iff, Schema.undone_iff hS hadmits]

end Operation

namespace Descriptor

variable {d : Descriptor} {key : MigrationKey} {path text : String}

/-! ### Descriptors -/

theorem downLog_eq_flatMap (h : d.down = none) :
    d.downLog = d.up.reverse.flatMap Operation.report := by
  rw [downLog, revert, h]
  show (Operation.inverseWarnings d.up).map _ = _
  rw [Operation.inverseWarnings_eq_flatMap, List.map_flatMap]
  rfl

/-- The operations of a descriptor that is read from a document are complete. -/
theorem isComplete_of_ofDocument {D : Document} (h : ofDocument key path D = .ok d) :
    ∀ op ∈ d.up, op.IsComplete := by
  cases D with
  | mapping entries =>
    simp only [ofDocument] at h
    split at h
    · cases h
    · obtain ⟨up, hup, hrest⟩ := Except.bind_eq_ok_iff.mp h
      obtain ⟨down, -, hmade⟩ := Except.bind_eq_ok_iff.mp hrest
      obtain rfl := Except.ok.inj hmade
      exact Operation.isComplete_of_listOfDocument (Except.mapError_eq_ok_iff.mp hup)
  | _ => cases h

theorem isComplete_of_ofText (h : ofText key path text = .ok d) : ∀ op ∈ d.up, op.IsComplete := by
  rw [ofText_eq] at h
  generalize Document.ofText? text = document at h
  cases document with
  | none => cases h
  | some D => exact isComplete_of_ofDocument h

/-! ### Main theorem -/

/-- **No loss is silent.**  Of a descriptor that is read from a text, nothing is logged if the way
down is declared or if there is nothing to revert.  If the way down is inferred, each operation has
one statement in it, the last operation first, and in the same order the log has what is reported of
each of them. -/
theorem lossy_downs_reported (h : ofText key path text = .ok d) :
    (d.down ≠ none ∨ d.up = [] → d.downLog = []) ∧
    (d.down = none → ∃ emitted : List (Statement × List LogRecord),
      List.Forall₂ (fun op e => op.IsRevertedBy e.1 ∧ op.IsReportedBy e.2) d.up.reverse emitted ∧
      (d.up ≠ [] → d.downStatements = emitted.map Prod.fst) ∧
      d.downLog = emitted.flatMap Prod.snd) := by
  refine ⟨?_, fun hdown => ⟨d.up.reverse.map fun op => (op.dropStatement, op.report), ?_, ?_, ?_⟩⟩
  · -- nothing is inferred where a way down is declared, nor where there is nothing to revert
    intro hquiet
    cases hdown : d.down with
    | some down => rw [downLog, revert, hdown]; rfl
    | none =>
      have hup : d.up = [] := hquiet.resolve_left (absurd hdown)
      rw [downLog_eq_flatMap hdown, hup]
      rfl
  · rw [List.forall₂_map_right_iff, List.forall₂_same]
    intro op hop
    have hcomplete := isComplete_of_ofText h op (List.mem_reverse.mp hop)
    exact ⟨Operation.isRevertedBy_dropStatement hcomplete,
      Operation.isReportedBy_report hcomplete⟩
  · intro hup
    rw [downStatements, revert, hdown, List.map_map]
    exact Operation.inverseStatements_eq hup
  · rw [downLog_eq_flatMap hdown, List.flatMap_map]

/-- An index, two columns and a statement: of the three inverses the first is missing and the second
drops one column, and this is what the log says. -/
theorem lossy_downs_reported_of_three :
    let text := "up:\n- add_index: \x7btable_name: T, columns: [A]\x7d\n" ++
      "- add_column:\n   table: T\n   columns:\n" ++
      "   - \x7bname: A, type: int\x7d\n   - \x7bname: B, type: int\x7d\n- execute: SELECT 1\n"
    let d : Descriptor := {
      key := ⟨"001_users", by decide⟩
      path := "001_users.yaml"
      up := [.addIndex ⟨"T", ["A"]⟩,
        .addColumn ⟨"T", [⟨"A", "int", none, none⟩, ⟨"B", "int", none, none⟩]⟩,
        .execute (.single "SELECT 1")]
      down := none }
    ofText d.key d.path text = .ok d ∧ ∃ emitted : List (Statement × List LogRecord),
      emitted.map Prod.fst = d.downStatements ∧ emitted.length = 3 ∧
      (emitted.flatMap Prod.snd).map LogRecord.line =
        ["WARN Cannot infer a down for 'execute'; declare one explicitly",
          "WARN Inferred down for add_column on 'T' drops only 'A'; " ++
            "declare an explicit down to drop all 2 columns"] := by
  intro text d
  have hread : ofText d.key d.path text = .ok d := Except.eq_ok_of_toOption (by decide +kernel)
  obtain ⟨emitted, hops, hstatements, hlog⟩ := (lossy_downs_reported hread).2 rfl
  refine ⟨hread, emitted, (hstatements (List.cons_ne_nil _ _)).symm, hops.length_eq.symm, ?_⟩
  rw [← hlog]
  decide +kernel

end Descriptor
end SchemaMigration
