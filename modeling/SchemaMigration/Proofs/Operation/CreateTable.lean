import SchemaMigration.Proofs.ColumnType
import SchemaMigration.Proofs.Operation.Address
import SchemaMigration.Proofs.Schema.Basic

/-!
# The columns of a new table

The statement that creates a table defines, in this order, an identity column if no declared column
has a type that makes for one, the declared columns, and the audit columns if they are wanted; some
column always is the identity or the primary key (`identity_is_implied`).

Which columns are added is decided by the types of the declared ones and by the wish for audit
columns, and never by names.  So the names of the columns, of which the declared ones differ, are
distinct exactly if no declared column has the name of one that is added
(`created_columns_distinct_iff`), and a table may be created with two columns of one name
(`created_columns_clash`).
-/

namespace SchemaMigration
open ColumnType (MarksIdentity declaresIdentity_resolve_iff)
open Identifier (quote read?)

variable {t : TableDefinition}

/-! ### The body of the statement -/

theorem declaresIdentity_iff {c : Column} :
    Operation.declaresIdentity c = true ↔ MarksIdentity c.type := declaresIdentity_resolve_iff

theorem any_declaresIdentity_iff (t : TableDefinition) :
    t.columns.any Operation.declaresIdentity = true ↔ ∃ c ∈ t.columns, MarksIdentity c.type := by
  rw [List.any_eq_true]
  exact exists_congr fun c => and_congr_right fun _ => declaresIdentity_iff

/-- The definitions of the columns: those that are declared are between those that are added. -/
theorem tableBody_eq (t : TableDefinition) :
    Operation.tableBody t =
      (if ∃ c ∈ t.columns, MarksIdentity c.type then []
        else ["[Id] int PRIMARY KEY IDENTITY(1,1) NOT NULL"]) ++
      t.columns.map Operation.columnDefinition ++
      (if t.timestamps then Operation.auditColumns else []) := by
  have hidentity : Operation.implicitIdentity = "[Id] int PRIMARY KEY IDENTITY(1,1) NOT NULL" := by
    decide +kernel
  simp only [Operation.tableBody, hidentity, any_declaresIdentity_iff]

theorem createTableSql_eq (t : TableDefinition) :
    Operation.createTableSql t = "CREATE TABLE " ++ quote t.name ++ " (\n    " ++
      Text.joinWith ",\n    " (Operation.tableBody t) ++ "\n)" :=
  rfl

/-- What is joined has each of the texts in it. -/
theorem infix_joinWith (sep : String) {text : String} {texts : List String} (h : text ∈ texts) :
    text.toList <:+: (Text.joinWith sep texts).toList := by
  induction texts with
  | nil => cases h
  | cons first rest ih =>
    cases rest with
    | nil =>
      obtain rfl := List.mem_singleton.mp h
      exact List.infix_refl _
    | cons second rest =>
      rw [Text.joinWith_cons_cons, String.toList_append, String.toList_append]
      obtain rfl | h := List.mem_cons.mp h
      · exact (List.prefix_append _ _).isInfix.trans (List.prefix_append _ _).isInfix
      · exact (ih h).trans (List.suffix_append _ _).isInfix

/-- The native clause of a column's type stands in the definition of the column. -/
theorem infix_columnDefinition (c : Column) :
    (ColumnType.resolve c.type).toList <:+: (Operation.columnDefinition c).toList := by
  obtain ⟨later, hsplit⟩ : ∃ later, Operation.columnDefinition c =
      quote c.name ++ " " ++ ColumnType.resolve c.type ++ later := by
    simp only [Operation.columnDefinition, String.append_assoc]
    exact ⟨_, rfl⟩
  rw [hsplit]
  exact ⟨(quote c.name ++ " ").toList, later.toList, by simp only [String.toList_append]⟩

/-- One of the definitions declares a primary key or an identity. -/
theorem exists_mark_in_tableBody (t : TableDefinition) :
    ∃ definition ∈ Operation.tableBody t, ∃ mark ∈ ColumnType.marks,
      mark.toList <:+: definition.toList := by
  rw [tableBody_eq]
  by_cases h : ∃ c ∈ t.columns, MarksIdentity c.type
  · obtain ⟨c, hc, hmarks⟩ := h
    obtain ⟨mark, hmark, hclause⟩ := ColumnType.declaresIdentity_iff.mp
      (declaresIdentity_resolve_iff.mpr hmarks)
    have hmem : Operation.columnDefinition c ∈ t.columns.map Operation.columnDefinition :=
      List.mem_map_of_mem hc
    exact ⟨_, List.mem_append_left _ (List.mem_append_right _ hmem), mark, hmark,
      hclause.trans (infix_columnDefinition c)⟩
  · rw [if_neg h]
    refine ⟨"[Id] int PRIMARY KEY IDENTITY(1,1) NOT NULL", by simp, "PRIMARY KEY", .head _, ?_⟩
    decide +kernel

/-- **When the identity column is implied.**  A type declares a primary key or an identity exactly
if the text of the type, as it is written, has `pk`, `PRIMARY KEY` or `IDENTITY` in it.  A table is
created with an identity column of its own exactly if no declared column has such a type, in front
of the declared columns in their order, and with the four audit columns behind them exactly if they
are wanted; so its statement always has `PRIMARY KEY` or `IDENTITY` in it. -/
theorem identity_is_implied :
    (∀ type, ColumnType.declaresIdentity (ColumnType.resolve type) = true ↔
      "pk".toList <:+: type.toList ∨ "PRIMARY KEY".toList <:+: type.toList ∨
        "IDENTITY".toList <:+: type.toList) ∧
    ∀ t : TableDefinition, ∃ sql, (Operation.createTable t).compile = [.sql sql] ∧
      sql = "CREATE TABLE " ++ quote t.name ++ " (\n    " ++ Text.joinWith ",\n    "
        ((if ∃ c ∈ t.columns, MarksIdentity c.type then []
          else ["[Id] int PRIMARY KEY IDENTITY(1,1) NOT NULL"]) ++
          t.columns.map Operation.columnDefinition ++
          (if t.timestamps then
            ["[CreatedBy] nvarchar(250) NOT NULL",
              "[CreatedOn] datetime DEFAULT getdate() NOT NULL",
              "[ModifiedBy] nvarchar(250) NOT NULL",
              "[ModifiedOn] datetime DEFAULT getdate() NOT NULL"]
          else [])) ++ "\n)" ∧
      ("PRIMARY KEY".toList <:+: sql.toList ∨ "IDENTITY".toList <:+: sql.toList) := by
  refine ⟨fun type => ?_, fun t => ⟨_, rfl, ?_, ?_⟩⟩
  · rw [declaresIdentity_resolve_iff]
    simp [MarksIdentity, ColumnType.marks, ColumnType.primaryKey]
  · rw [createTableSql_eq, tableBody_eq, Operation.auditColumns]
  · obtain ⟨definition, hdefinition, mark, hmark, hinside⟩ := exists_mark_in_tableBody t
    have hbody : mark.toList <:+: (Operation.createTableSql t).toList := by
      have hjoined := infix_joinWith ",\n    " hdefinition
      refine (hinside.trans hjoined).trans ?_
      refine ⟨("CREATE TABLE " ++ quote t.name ++ " (\n    ").toList, "\n)".toList, ?_⟩
      simp only [createTableSql_eq, String.toList_append]
    simpa [ColumnType.marks] using (⟨mark, hmark, hbody⟩ : ∃ mark ∈ ColumnType.marks,
      mark.toList <:+: (Operation.createTableSql t).toList)

/-! ### The names of the columns -/

/-- The name of the column that a definition is for. -/
def definedName? (definition : String) : Option String :=
  (read? definition.toList).map fun result => String.ofList result.1

theorem definedName?_columnDefinition (c : Column) :
    definedName? (Operation.columnDefinition c) = some c.name := by
  obtain ⟨rest, hsplit⟩ := Address.toList_columnDefinition c
  rw [definedName?, hsplit, Identifier.read?_quote (Address.ends_blank rfl _).1, Option.map_some,
    String.ofList_toList]

theorem definedName?_implicitIdentity : definedName? Operation.implicitIdentity = some "Id" := by
  decide +kernel

theorem map_definedName?_auditColumns :
    Operation.auditColumns.map definedName? = auditNames.map some := by
  decide +kernel

/-- The definitions in the statement are those of the columns that the table has, in order. -/
theorem map_definedName?_tableBody (t : TableDefinition) :
    (Operation.tableBody t).map definedName? = t.columnNames.map some := by
  have hdeclared : (t.columns.map Operation.columnDefinition).map definedName? =
      (t.columns.map Column.name).map some := by
    simp only [List.map_map, Function.comp_def, definedName?_columnDefinition]
  rw [Operation.tableBody, TableDefinition.columnNames, List.map_append, List.map_append,
    List.map_append, List.map_append, hdeclared]
  cases t.columns.any Operation.declaresIdentity <;> cases t.timestamps <;>
    simp only [Bool.false_eq_true, if_false, if_true, List.map_cons, List.map_nil,
      definedName?_implicitIdentity, map_definedName?_auditColumns]

/-- The names of the columns are distinct when those that are added are none of those that are
declared. -/
theorem nodup_columnNames_iff (h : (t.columns.map Column.name).Nodup) :
    t.columnNames.Nodup ↔
      ((∃ c ∈ t.columns, MarksIdentity c.type) ∨ ∀ c ∈ t.columns, c.name ≠ "Id") ∧
      (t.timestamps = true → ∀ c ∈ t.columns, c.name ∉ auditNames) := by
  have haudit : auditNames.Nodup ∧ "Id" ∉ auditNames := by decide
  have hbehind : (∀ c ∈ t.columns, ∀ name ∈ auditNames, ¬c.name = name) ↔
      ∀ c ∈ t.columns, c.name ∉ auditNames :=
    forall₂_congr fun c _ => ⟨fun hne hmem => hne _ hmem rfl, fun hmem _ hname heq =>
      hmem (heq ▸ hname)⟩
  rw [TableDefinition.columnNames, ← any_declaresIdentity_iff]
  -- with or without the identity column in front, with or without the audit columns behind
  cases t.columns.any Operation.declaresIdentity <;> cases t.timestamps <;>
    simp [List.nodup_append, h, haudit, hbehind]

/-- **When the columns of a new table have distinct names.**  Where the declared columns have
distinct names, all columns that the statement defines have, exactly if no declared column has the
name of a column that is added: `Id`, unless a declared column is the identity or the primary key
already, and those of the audit columns, if these are wanted. -/
theorem created_columns_distinct_iff (h : (t.columns.map Column.name).Nodup) :
    (Operation.createTable t).compile = [.sql ("CREATE TABLE " ++ quote t.name ++ " (\n    " ++
      Text.joinWith ",\n    " (Operation.tableBody t) ++ "\n)")] ∧
    ∃ names : List String, (Operation.tableBody t).map definedName? = names.map some ∧
      (names.Nodup ↔
        ((∃ c ∈ t.columns, MarksIdentity c.type) ∨ ∀ c ∈ t.columns, c.name ≠ "Id") ∧
        (t.timestamps = true → ∀ c ∈ t.columns, c.name ∉ auditNames)) :=
  ⟨rfl, t.columnNames, map_definedName?_tableBody t, nodup_columnNames_iff h⟩

/-- A table that declares its primary key under the name `Id`, with audit columns. -/
theorem created_columns_distinct_of_primary_key :
    let t : TableDefinition := ⟨"Users", true, [⟨"Id", "pk", none, none⟩, ⟨"id", "int", none, none⟩]⟩
    (t.columns.map Column.name).Nodup ∧ ∃ names : List String,
      (Operation.tableBody t).map definedName? = names.map some ∧ names.Nodup := by
  intro t
  have hdeclared : (t.columns.map Column.name).Nodup := by decide
  obtain ⟨-, names, hnames, hiff⟩ := created_columns_distinct_iff hdeclared
  exact ⟨hdeclared, names, hnames, hiff.mpr (by decide +kernel)⟩

/-- A document whose only column is called `Id` and is no identity: the table is created with two
columns of this name. -/
theorem created_columns_clash :
    let document : Document := .mapping
      [(.string "create_table", .mapping
        [(.string "name", .string "Users"), (.string "columns", .sequence
          [.mapping [(.string "name", .string "Id"), (.string "type", .string "int")]])])]
    let t : TableDefinition := ⟨"Users", false, [⟨"Id", "int", none, none⟩]⟩
    (Operation.ofDocument document).toOption = some (.createTable t) ∧
      (t.columns.map Column.name).Nodup ∧
      ((Operation.createTable t).compile.map Statement.text) =
        ["CREATE TABLE [Users] (\n    [Id] int PRIMARY KEY IDENTITY(1,1) NOT NULL,\n" ++
          "    [Id] int NOT NULL\n)"] ∧
      (Operation.tableBody t).map definedName? = [some "Id", some "Id"] ∧
      ¬((Operation.tableBody t).map definedName?).Nodup := by
  decide +kernel

end SchemaMigration
