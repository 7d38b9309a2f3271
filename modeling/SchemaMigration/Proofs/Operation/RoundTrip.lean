import SchemaMigration.Operation.Reader
import SchemaMigration.Operation.Writer
import SchemaMigration.Proofs.Result

/-!
# Reading operations back

An operation that was read from any document is read again, unchanged, from the document that it
is written as (`documents_round_trip`).  Each reader of a payload reads back what the writer
beside it writes; `IsComplete` says which operations a document can hold at all.
-/

namespace SchemaMigration

namespace Payload

variable {α : Type}

/-! ### Entries of a record -/

@[simp]
theorem field?_entry_self (name : String) (value : Document)
    (entries : List (Document × Document)) :
    field? name (entry name value :: entries) = some value := by
  simp [field?, entry, Document.untagged, Document.isString]

@[simp]
theorem field?_entry_of_ne {name other : String} (h : other ≠ name) (value : Document)
    (entries : List (Document × Document)) :
    field? name (entry other value :: entries) = field? name entries := by
  simp [field?, entry, Document.untagged, Document.isString, h]

/-- An entry under the name of a field passes when its value is read and the name is new. -/
theorem checkFields_entry {fields : List Field} {seen : List String} {name : String}
    (reader : Reader α) (hfield : fields.find? (fun f => f.name == name) = some (.of name reader))
    (hnew : name ∉ seen) {value : Document} {a : α} (hvalue : reader value = .ok a)
    (entries : List (Document × Document)) :
    checkFields fields seen (entry name value :: entries) =
      checkFields fields (name :: seen) entries := by
  have hcheck : (Field.of name reader).check value = .ok () := by simp [Field.of, hvalue]
  simp [checkFields, fieldName, entry, Document.untagged, hfield, hnew, hcheck]

/-- A record is built from its entries once they have passed. -/
theorem record_mapping {type : String} {fields : List Field}
    {build : List (Document × Document) → Except Fault α} {entries : List (Document × Document)}
    (h : checkFields fields [] entries = .ok ()) :
    record type fields build (.mapping entries) = build entries := by
  simp [record, Document.untagged, h]

/-! ### Payloads -/

/-- A list is read back when each of its items is. -/
theorem list_sequence_map {item : Reader α} {write : α → Document}
    (h : ∀ a, item (write a) = .ok a) (as : List α) :
    list item (.sequence (as.map write)) = .ok as := by
  have hitems : (as.map write).mapM item = .ok as :=
    Except.mapM_eq_ok_iff.mpr (List.forall₂_map_left_iff.mpr (List.forall₂_same.mpr fun a _ => h a))
  simpa [list, Document.untagged] using hitems

@[simp]
theorem string_string (text : String) : string (.string text) = .ok text := rfl

@[simp]
theorem list_ofStrings (texts : List String) : list string (ofStrings texts) = .ok texts :=
  list_sequence_map string_string texts

theorem column_ofColumn (c : Column) : column (ofColumn c) = .ok c := by
  obtain ⟨name, type, nullable, default⟩ := c
  cases nullable <;> cases default <;> rfl

@[simp]
theorem list_ofColumns (columns : List Column) : list column (ofColumns columns) = .ok columns :=
  list_sequence_map column_ofColumn columns

@[simp]
theorem member_ofMember (type : String) (m : Member) : member type (ofMember m) = .ok m := rfl

@[simp]
theorem keyEnd_ofKeyEnd (k : KeyEnd) : keyEnd (ofKeyEnd k) = .ok k := by
  rw [keyEnd, ofKeyEnd, record_mapping]
  · simp [required]
  · rw [checkFields_entry string rfl (by simp) (string_string _),
      checkFields_entry (list string) rfl (by simp) (list_ofStrings _)]
    rfl

theorem tableDefinition_mapping (t : TableDefinition) :
    tableDefinition (.mapping [entry "name" (.string t.name),
      entry "timestamps" (.bool t.timestamps), entry "columns" (ofColumns t.columns)]) = .ok t := by
  rw [tableDefinition, record_mapping]
  · simp [required, Payload.optional, switch]
  · rw [checkFields_entry string rfl (by simp) (string_string _),
      checkFields_entry switch rfl (by simp) rfl,
      checkFields_entry (list column) rfl (by simp) (list_ofColumns _)]
    rfl

theorem columnList_mapping (c : ColumnList) :
    columnList (.mapping [entry "table" (.string c.table),
      entry "columns" (ofColumns c.columns)]) = .ok c := by
  rw [columnList, record_mapping]
  · simp [required]
  · rw [checkFields_entry string rfl (by simp) (string_string _),
      checkFields_entry (list column) rfl (by simp) (list_ofColumns _)]
    rfl

theorem foreignKey_mapping (k : ForeignKey) :
    foreignKey (.mapping [entry "name" (.string k.name), entry "from" (ofKeyEnd k.source),
      entry "to" (ofKeyEnd k.target)]) = .ok k := by
  rw [foreignKey, record_mapping]
  · simp [required]
  · rw [checkFields_entry string rfl (by simp) (string_string _),
      checkFields_entry keyEnd rfl (by simp) (keyEnd_ofKeyEnd _),
      checkFields_entry keyEnd rfl (by simp) (keyEnd_ofKeyEnd _)]
    rfl

theorem index_mapping (i : Index) :
    index (.mapping [entry "table_name" (.string i.table),
      entry "columns" (ofStrings i.columns)]) = .ok i := by
  rw [index, record_mapping]
  · simp [required]
  · rw [checkFields_entry string rfl (by simp) (string_string _),
      checkFields_entry (list string) rfl (by simp) (list_ofStrings _)]
    rfl

/-- Plain strings are the lines of a literal statement. -/
theorem fragments_map_string (lines : List String) :
    fragments (lines.map .string) = .ok lines := by
  have htags : itemsHaveTag (lines.map .string) = false := by
    induction lines with
    | nil => rfl
    | cons line lines ih => simp [itemsHaveTag, hasTag, ih]
  have hlines : lines.mapM some = some lines := by
    simpa using List.mapM_pure (m := Option) (f := id) (l := lines)
  simp only [fragments, htags, List.mapM_map, Function.comp_def, hlines]
  rfl

end Payload

namespace Operation
open Payload

/-! ### Operations -/

/-- What reading an operation makes sure of: the name and the lists of columns that must not be
empty. -/
def IsComplete : Operation → Prop
  | .dropTable name => name ≠ ""
  | .addColumn c | .changeColumn c => c.columns ≠ []
  | .addForeignKey k => k.source.columns ≠ [] ∧ k.target.columns ≠ []
  | .addIndex i | .removeIndex i => i.columns ≠ []
  | _ => True

/-- A mapping with one operation key is an operation of that kind. -/
theorem ofDocument_entry {kind : OperationKind} (hkind : kind ≠ .raw) {d : Document}
    (hd : d ≠ .null) : ofDocument (.mapping [entry kind.key d]) = ofPayload kind d := by
  have hpresent : present [entry kind.key d] = [(kind, d)] := by
    cases kind with
    | raw => exact absurd rfl hkind
    | _ =>
      cases d with
      | null => exact absurd rfl hd
      | _ => rfl
  rw [ofDocument, hpresent]

theorem toPayload_ne_null (op : Operation) : op.toPayload ≠ .null := by
  cases op with
  | execute sql => cases sql <;> exact Document.noConfusion
  | _ => exact Document.noConfusion

/-- The payload of a complete operation is read back. -/
theorem ofPayload_toPayload {op : Operation} (hkind : op.kind ≠ .raw) (hop : op.IsComplete) :
    ofPayload op.kind op.toPayload = .ok op := by
  cases op with
  | createTable t => simp [ofPayload, kind, toPayload, payload, tableDefinition_mapping]
  | dropTable name =>
    have hname : name ≠ "" := hop
    simp [ofPayload, kind, toPayload, droppedTable, hname]
  | addColumn c | changeColumn c =>
    have hcolumns : c.columns ≠ [] := hop
    simp [ofPayload, kind, toPayload, columnsOf, payload, columnList_mapping, hcolumns]
  | removeColumn m | dropConstraint m => simp [ofPayload, kind, toPayload, payload]
  | addForeignKey k =>
    obtain ⟨hsource, htarget⟩ : k.source.columns ≠ [] ∧ k.target.columns ≠ [] := hop
    simp [ofPayload, kind, toPayload, foreignKeyOf, payload, foreignKey_mapping, hsource, htarget]
  | addIndex i | removeIndex i =>
    have hcolumns : i.columns ≠ [] := hop
    simp [ofPayload, kind, toPayload, indexOf, payload, index_mapping, hcolumns]
  | execute sql =>
    cases sql with
    | single text => rfl
    | fragments lines =>
      simp [ofPayload, kind, toPayload, literalSql, payload, ofStrings, fragments_map_string]
  | raw sql => exact absurd rfl hkind

/-- A complete operation is read back. -/
theorem ofDocument_toDocument {op : Operation} (hop : op.IsComplete) :
    ofDocument op.toDocument = .ok op := by
  by_cases hkind : op.kind = .raw
  · cases op <;> first | rfl | cases hkind
  · have hdocument : op.toDocument = .mapping [entry op.kind.key op.toPayload] := by
      cases op <;> first | rfl | exact absurd rfl hkind
    rw [hdocument, ofDocument_entry hkind op.toPayload_ne_null, ofPayload_toPayload hkind hop]

/-- What a payload is read as is complete. -/
theorem isComplete_of_ofPayload {kind : OperationKind} {d : Document} {op : Operation}
    (h : ofPayload kind d = .ok op) : op.IsComplete := by
  -- what the reader checks of each kind is what completeness asks for
  cases kind with
  | raw => cases h
  | createTable | removeColumn | dropConstraint | execute =>
    obtain ⟨_, -, rfl⟩ := Except.map_eq_ok_iff.mp h
    trivial
  | dropTable =>
    obtain ⟨name, hname, rfl⟩ := Except.map_eq_ok_iff.mp h
    cases d with
    | string s =>
      obtain ⟨hs, rfl⟩ := Except.checked_eq_ok_iff.mp hname
      simpa [IsComplete] using hs
    | _ => cases hname
  | addColumn | changeColumn =>
    obtain ⟨c, hc, rfl⟩ := Except.map_eq_ok_iff.mp h
    obtain ⟨_, -, hchecked⟩ := Except.bind_eq_ok_iff.mp hc
    obtain ⟨hcolumns, rfl⟩ := Except.checked_eq_ok_iff.mp hchecked
    simpa [IsComplete] using hcolumns
  | addForeignKey =>
    obtain ⟨k, hk, rfl⟩ := Except.map_eq_ok_iff.mp h
    obtain ⟨_, -, hchecked⟩ := Except.bind_eq_ok_iff.mp hk
    obtain ⟨hcolumns, rfl⟩ := Except.checked_eq_ok_iff.mp hchecked
    simpa [IsComplete] using hcolumns
  | addIndex | removeIndex =>
    obtain ⟨i, hi, rfl⟩ := Except.map_eq_ok_iff.mp h
    obtain ⟨_, -, hchecked⟩ := Except.bind_eq_ok_iff.mp hi
    obtain ⟨hcolumns, rfl⟩ := Except.checked_eq_ok_iff.mp hchecked
    simpa [IsComplete] using hcolumns

/-- What a document is read as is complete. -/
theorem isComplete_of_ofDocument {d : Document} {op : Operation} (h : ofDocument d = .ok op) :
    op.IsComplete := by
  cases d with
  | string sql =>
    cases h
    trivial
  | mapping entries =>
    simp only [ofDocument] at h
    split at h
    · exact isComplete_of_ofPayload h
    · cases h
    · cases h
  | _ => cases h

/-- The complete operations are the ones that some document holds. -/
theorem exists_document_iff {op : Operation} :
    (∃ d, ofDocument d = .ok op) ↔ op.IsComplete :=
  ⟨fun ⟨_, h⟩ => isComplete_of_ofDocument h, fun h => ⟨op.toDocument, ofDocument_toDocument h⟩⟩

/-! ### Main theorem -/

/-- **Operation documents round-trip.**  An operation that some document is read as is read again
from the document that it is written as, and a list of such operations is read again from the
sequence of their documents. -/
theorem documents_round_trip :
    (∀ op : Operation, (∃ d, ofDocument d = .ok op) → ofDocument op.toDocument = .ok op) ∧
    ∀ ops : List Operation, (∀ op ∈ ops, ∃ d, ofDocument d = .ok op) →
      listOfDocument (.sequence (ops.map toDocument)) = .ok ops := by
  have hround : ∀ op : Operation, (∃ d, ofDocument d = .ok op) →
      ofDocument op.toDocument = .ok op :=
    fun op hop => ofDocument_toDocument (exists_document_iff.mp hop)
  refine ⟨hround, fun ops hops => Except.mapM_eq_ok_iff.mpr ?_⟩
  rw [List.forall₂_map_left_iff, List.forall₂_same]
  exact fun op hop => hround op (hops op hop)

/-- The case of a column with a default, an index and a statement in two lines. -/
theorem documents_round_trip_of_three :
    let ops : List Operation :=
      [.addColumn ⟨"Users", [⟨"Age", "int", some true, some ⟨"DF_Age", "0"⟩⟩]⟩,
        .addIndex ⟨"Users", ["Age", "Name"]⟩, .execute (.fragments ["SELECT 1", "FROM Users"])]
    (∀ op ∈ ops, ∃ d, ofDocument d = .ok op) ∧
      listOfDocument (.sequence (ops.map toDocument)) = .ok ops := by
  intro ops
  have hops : ∀ op ∈ ops, ∃ d, ofDocument d = .ok op := by
    simp [ops, exists_document_iff, IsComplete]
  exact ⟨hops, documents_round_trip.2 ops hops⟩

end Operation
end SchemaMigration
