import Mathlib.Data.List.Basic
import SchemaMigration.Operation.Reader
import SchemaMigration.Proofs.Identifier
import SchemaMigration.Proofs.Operation.Inverse

/-!
# What a statement adds or drops

An `Address` is what a statement names as added or dropped: a table, by the parts of its name, or a
column, a constraint or an index of one.  `Address.added?` and `Address.dropped?` read it off the
text of a statement.

An inferred way down drops by name what the operation has added, but not always in the same table:
a table is created, and an index is added, under a name that is quoted as a whole, and both are
dropped under a name that is quoted part by part.  So the two agree exactly if the name has no dot
or if the operation adds a column or a foreign key (`inferred_address_iff`).
-/

namespace SchemaMigration
open Identifier (Ends quote quoteQualified readQualified? read? readQualified?_quote read?_quote)

/-! ### Addresses -/

/-- What a statement may add to a table or drop from it. -/
inductive MemberKind where
  | column
  | constraint
  | index
  deriving DecidableEq, Repr

/-- What a statement adds or drops: a table, or a member of it. -/
structure Address where
  /-- the parts of the name of the table -/
  table : List (List Char)
  /-- the member by its kind and its name; without one it is the table itself -/
  member : Option (MemberKind × List Char)
  deriving DecidableEq, Repr

namespace Address

/-- The table whose name follows some words. -/
def table? (words : String) (s : List Char) : Option Address := do
  let s ← s.dropPrefix? words.toList
  let (table, _) ← readQualified? s
  pure ⟨table, none⟩

/-- The member whose name follows some words. -/
def member? (kind : MemberKind) (words : String) (s : List Char) :
    Option (MemberKind × List Char) := do
  let s ← s.dropPrefix? words.toList
  let (name, _) ← read? s
  pure (kind, name)

/-- The member of a table that is altered; the words in front of a constraint and of a column
differ. -/
def altered? (constraintWords columnWords : String) (s : List Char) : Option Address := do
  let s ← s.dropPrefix? "ALTER TABLE ".toList
  let (table, s) ← readQualified? s
  let member ← member? .constraint constraintWords s <|> member? .column columnWords s
  pure ⟨table, some member⟩

/-- The index that is created on a table. -/
def createdIndex? (s : List Char) : Option Address := do
  let s ← s.dropPrefix? "CREATE NONCLUSTERED INDEX ".toList
  let (name, s) ← read? s
  let s ← s.dropPrefix? " ON ".toList
  let (table, _) ← readQualified? s
  pure ⟨table, some (.index, name)⟩

/-- The index that is dropped: its name is the last part, behind those of its table. -/
def droppedIndex? (s : List Char) : Option Address := do
  let s ← s.dropPrefix? "DROP INDEX ".toList
  let (parts, _) ← readQualified? s
  let name ← parts.getLast?
  pure ⟨parts.dropLast, some (.index, name)⟩

/-- What a statement adds; of several columns it is the first. -/
def added? (s : List Char) : Option Address :=
  table? "CREATE TABLE " s <|> altered? " ADD CONSTRAINT " " ADD " s <|> createdIndex? s

/-- What a statement drops. -/
def dropped? (s : List Char) : Option Address :=
  table? "DROP TABLE " s <|> altered? " DROP CONSTRAINT " " DROP COLUMN " s <|> droppedIndex? s

/-! ### Reading the parts of a statement -/

variable {rest : List Char}

theorem dropPrefix?_append (words rest : List Char) :
    (words ++ rest).dropPrefix? words = some rest := by
  rw [List.dropPrefix?_eq_some_iff]
  exact ⟨words, rfl, beq_self_eq_true words⟩

theorem ends_blank {words : String} (h : words.toList.head? = some ' ') (rest : List Char) :
    Ends (words.toList ++ rest) := by
  have hhead : (words.toList ++ rest).head? = some ' ' := by rw [List.head?_append, h]; rfl
  constructor
  · rw [hhead]; decide
  · rw [hhead]; decide

theorem ends_nil : Ends [] := by
  constructor
  · simp
  · simp

theorem table?_append {words : String} {table : List (List Char)} {s : List Char}
    (h : readQualified? s = some (table, rest)) :
    table? words (words.toList ++ s) = some ⟨table, none⟩ := by
  simp only [table?, dropPrefix?_append, h, Option.bind_eq_bind, Option.bind_some]
  rfl

theorem member?_append {kind : MemberKind} {words name : String} (hrest : rest.head? ≠ some ']') :
    member? kind words (words.toList ++ ((quote name).toList ++ rest)) =
      some (kind, name.toList) := by
  simp only [member?, dropPrefix?_append, read?_quote hrest, Option.bind_eq_bind, Option.bind_some]
  rfl

/-- The member of a table that is altered is read behind the quoted name of the table. -/
theorem altered?_append {constraintWords columnWords table : String} {s : List Char}
    {member : MemberKind × List Char} (hs : Ends s)
    (h : (member? .constraint constraintWords s <|> member? .column columnWords s) = some member) :
    altered? constraintWords columnWords ("ALTER TABLE ".toList ++ ((quote table).toList ++ s)) =
      some ⟨[table.toList], some member⟩ := by
  simp only [altered?, dropPrefix?_append, readQualified?_quote hs, h, Option.bind_eq_bind,
    Option.bind_some]
  rfl

/-! ### What the statements of operations add -/

theorem added?_createTable (t : TableDefinition) :
    added? (Operation.createTableSql t).toList = some ⟨[t.name.toList], none⟩ := by
  have hsql : (Operation.createTableSql t).toList =
      "CREATE TABLE ".toList ++ ((quote t.name).toList ++ (" (\n    ".toList ++
        ((Text.joinWith ",\n    " (Operation.tableBody t)).toList ++ "\n)".toList))) := by
    show ("CREATE TABLE " ++ quote t.name ++ " (\n    " ++
      Text.joinWith ",\n    " (Operation.tableBody t) ++ "\n)").toList = _
    simp only [String.toList_append, List.append_assoc]
  rw [hsql, added?, table?_append (readQualified?_quote (ends_blank rfl _))]
  rfl

/-- A statement that alters a table adds a member of it. -/
theorem added?_alterTable (s : List Char) :
    added? ("ALTER TABLE ".toList ++ s) =
      altered? " ADD CONSTRAINT " " ADD " ("ALTER TABLE ".toList ++ s) := by
  have htable : table? "CREATE TABLE " ("ALTER TABLE ".toList ++ s) = none := rfl
  have hindex : createdIndex? ("ALTER TABLE ".toList ++ s) = none := rfl
  rw [added?, htable, hindex]
  cases altered? " ADD CONSTRAINT " " ADD " ("ALTER TABLE ".toList ++ s) <;> rfl

/-- The definition of a column begins with its name. -/
theorem toList_columnDefinition (c : Column) :
    ∃ rest, (Operation.columnDefinition c).toList =
      (quote c.name).toList ++ (" ".toList ++ rest) := by
  obtain ⟨default, nullability, hsplit⟩ : ∃ default nullability, Operation.columnDefinition c =
      quote c.name ++ " " ++ ColumnType.resolve c.type ++ default ++ nullability := ⟨_, _, rfl⟩
  refine ⟨(ColumnType.resolve c.type).toList ++ (default.toList ++ nullability.toList), ?_⟩
  rw [hsplit]
  simp only [String.toList_append, List.append_assoc]

/-- What is joined begins with the first text. -/
theorem toList_joinWith_cons (sep text : String) (later : List String) :
    ∃ rest, (Text.joinWith sep (text :: later)).toList = text.toList ++ rest := by
  cases later with
  | nil => exact ⟨[], (List.append_nil _).symm⟩
  | cons text' later =>
    refine ⟨sep.toList ++ (Text.joinWith sep (text' :: later)).toList, ?_⟩
    rw [Text.joinWith_cons_cons, String.toList_append, String.toList_append, List.append_assoc]

theorem added?_addColumn {table : String} {columns : List Column} {first : Column}
    (hfirst : columns.head? = some first) :
    added? (Operation.alterTable table ++ " ADD " ++
        Text.joinWith ", " (columns.map Operation.columnDefinition)).toList =
      some ⟨[table.toList], some (.column, first.name.toList)⟩ := by
  obtain ⟨later, rfl⟩ := List.head?_eq_some_iff.mp hfirst
  obtain ⟨rest, hjoin⟩ := toList_joinWith_cons ", " (Operation.columnDefinition first)
    (later.map Operation.columnDefinition)
  obtain ⟨rest', hcolumn⟩ := toList_columnDefinition first
  have hsql : (Operation.alterTable table ++ " ADD " ++
      Text.joinWith ", " ((first :: later).map Operation.columnDefinition)).toList =
        "ALTER TABLE ".toList ++ ((quote table).toList ++
          (" ADD ".toList ++ ((quote first.name).toList ++ (" ".toList ++ (rest' ++ rest))))) := by
    show ("ALTER TABLE " ++ quote table ++ " ADD " ++ Text.joinWith ", "
      (Operation.columnDefinition first :: later.map Operation.columnDefinition)).toList = _
    simp only [String.toList_append, List.append_assoc, hjoin, hcolumn]
  rw [hsql, added?_alterTable]
  refine altered?_append (ends_blank rfl _) ?_
  -- a quoted name is no keyword, so this is not taken for a constraint
  have hconstraint : member? .constraint " ADD CONSTRAINT " (" ADD ".toList ++
      ((quote first.name).toList ++ (" ".toList ++ (rest' ++ rest)))) = none := by
    rw [Identifier.toList_quote]
    rfl
  rw [hconstraint, member?_append (ends_blank rfl _).1]
  rfl

/-- The statement that adds a foreign key, piece by piece. -/
theorem toList_foreignKeySql (k : ForeignKey) :
    (Operation.foreignKeySql k).toList = "ALTER TABLE ".toList ++ ((quote k.source.table).toList ++
      (" ADD CONSTRAINT ".toList ++ ((quote k.name).toList ++ (" FOREIGN KEY (".toList ++
        ((Identifier.quoteList k.source.columns).toList ++ (") REFERENCES ".toList ++
          ((quote k.target.table).toList ++ (" (".toList ++
            ((Identifier.quoteList k.target.columns).toList ++ ")".toList))))))))) := by
  show ("ALTER TABLE " ++ quote k.source.table ++ " ADD CONSTRAINT " ++ quote k.name ++
    " FOREIGN KEY (" ++ Identifier.quoteList k.source.columns ++ ") REFERENCES " ++
    quote k.target.table ++ " (" ++ Identifier.quoteList k.target.columns ++ ")").toList = _
  simp only [String.toList_append, List.append_assoc]

/-- The statement that creates an index, piece by piece. -/
theorem toList_indexSql (i : Index) :
    (Operation.indexSql i).toList = "CREATE NONCLUSTERED INDEX ".toList ++ ((quote i.name).toList ++
      (" ON ".toList ++ ((quote i.table).toList ++ (" (".toList ++
        ((Text.joinWith ", " (i.columns.map fun c => quote c ++ " ASC")).toList ++
          ")".toList))))) := by
  show ("CREATE NONCLUSTERED INDEX " ++ quote i.name ++ " ON " ++ quote i.table ++ " (" ++
    Text.joinWith ", " (i.columns.map fun c => quote c ++ " ASC") ++ ")").toList = _
  simp only [String.toList_append, List.append_assoc]

theorem added?_foreignKey (k : ForeignKey) :
    added? (Operation.foreignKeySql k).toList =
      some ⟨[k.source.table.toList], some (.constraint, k.name.toList)⟩ := by
  rw [toList_foreignKeySql, added?_alterTable]
  refine altered?_append (ends_blank rfl _) ?_
  rw [member?_append (ends_blank rfl _).1]
  rfl

theorem added?_index (i : Index) :
    added? (Operation.indexSql i).toList =
      some ⟨[i.table.toList], some (.index, i.name.toList)⟩ := by
  -- the two other readers stop at the first words
  have htable (s : List Char) :
      table? "CREATE TABLE " ("CREATE NONCLUSTERED INDEX ".toList ++ s) = none := rfl
  have haltered (s : List Char) : altered? " ADD CONSTRAINT " " ADD "
      ("CREATE NONCLUSTERED INDEX ".toList ++ s) = none := rfl
  have hindex : createdIndex? (Operation.indexSql i).toList =
      some ⟨[i.table.toList], some (.index, i.name.toList)⟩ := by
    have hname (rest : List Char) : read? ((quote i.name).toList ++ (" ON ".toList ++ rest)) =
        some (i.name.toList, " ON ".toList ++ rest) := read?_quote (ends_blank rfl rest).1
    have hread (rest : List Char) :
        readQualified? ((quote i.table).toList ++ (" (".toList ++ rest)) =
          some ([i.table.toList], " (".toList ++ rest) := readQualified?_quote (ends_blank rfl rest)
    simp only [createdIndex?, toList_indexSql, dropPrefix?_append, hname, hread,
      Option.bind_eq_bind, Option.bind_some]
    rfl
  rw [added?, hindex, toList_indexSql, htable, haltered]
  rfl

/-! ### What the statements of inverse operations drop -/

theorem dropped?_dropTable (name : String) :
    dropped? ("DROP TABLE " ++ quoteQualified name).toList =
      some ⟨Text.splitOn '.' name.toList, none⟩ := by
  have hread : readQualified? ((quoteQualified name).toList ++ []) =
      some (Text.splitOn '.' name.toList, []) := Identifier.readQualified?_quoteQualified ends_nil
  rw [List.append_nil] at hread
  rw [String.toList_append, dropped?, table?_append hread]
  rfl

/-- A statement that alters a table drops a member of it. -/
theorem dropped?_alterTable (s : List Char) :
    dropped? ("ALTER TABLE ".toList ++ s) =
      altered? " DROP CONSTRAINT " " DROP COLUMN " ("ALTER TABLE ".toList ++ s) := by
  have htable : table? "DROP TABLE " ("ALTER TABLE ".toList ++ s) = none := rfl
  have hindex : droppedIndex? ("ALTER TABLE ".toList ++ s) = none := rfl
  rw [dropped?, htable, hindex]
  cases altered? " DROP CONSTRAINT " " DROP COLUMN " ("ALTER TABLE ".toList ++ s) <;> rfl

theorem dropped?_removeColumn (m : Member) :
    dropped? (Operation.alterTable m.table ++ " DROP COLUMN " ++ quote m.name).toList =
      some ⟨[m.table.toList], some (.column, m.name.toList)⟩ := by
  have hsql : (Operation.alterTable m.table ++ " DROP COLUMN " ++ quote m.name).toList =
      "ALTER TABLE ".toList ++ ((quote m.table).toList ++
        (" DROP COLUMN ".toList ++ ((quote m.name).toList ++ []))) := by
    show ("ALTER TABLE " ++ quote m.table ++ " DROP COLUMN " ++ quote m.name).toList = _
    simp only [String.toList_append, List.append_assoc, List.append_nil]
  rw [hsql, dropped?_alterTable]
  refine altered?_append (ends_blank rfl _) ?_
  have hconstraint (s : List Char) :
      member? .constraint " DROP CONSTRAINT " (" DROP COLUMN ".toList ++ s) = none := rfl
  rw [hconstraint, member?_append (by simp)]
  rfl

theorem dropped?_dropConstraint (m : Member) :
    dropped? (Operation.alterTable m.table ++ " DROP CONSTRAINT " ++ quote m.name).toList =
      some ⟨[m.table.toList], some (.constraint, m.name.toList)⟩ := by
  have hsql : (Operation.alterTable m.table ++ " DROP CONSTRAINT " ++ quote m.name).toList =
      "ALTER TABLE ".toList ++ ((quote m.table).toList ++
        (" DROP CONSTRAINT ".toList ++ ((quote m.name).toList ++ []))) := by
    show ("ALTER TABLE " ++ quote m.table ++ " DROP CONSTRAINT " ++ quote m.name).toList = _
    simp only [String.toList_append, List.append_assoc, List.append_nil]
  rw [hsql, dropped?_alterTable]
  refine altered?_append (ends_blank rfl _) ?_
  rw [member?_append (by simp)]
  rfl

theorem dropped?_dropIndex (table name : String) :
    dropped? ("DROP INDEX " ++ quoteQualified table ++ "." ++ quote name).toList =
      some ⟨Text.splitOn '.' table.toList, some (.index, name.toList)⟩ := by
  have hsql : ("DROP INDEX " ++ quoteQualified table ++ "." ++ quote name).toList =
      "DROP INDEX ".toList ++ ((quoteQualified table ++ "." ++ quote name).toList ++ []) := by
    simp only [String.toList_append, List.append_assoc, List.append_nil]
  have htable (s : List Char) : table? "DROP TABLE " ("DROP INDEX ".toList ++ s) = none := rfl
  have haltered (s : List Char) : altered? " DROP CONSTRAINT " " DROP COLUMN "
      ("DROP INDEX ".toList ++ s) = none := rfl
  have hindex : droppedIndex? ("DROP INDEX ".toList ++
      ((quoteQualified table ++ "." ++ quote name).toList ++ [])) =
        some ⟨Text.splitOn '.' table.toList, some (.index, name.toList)⟩ := by
    have hread : readQualified? ((quoteQualified table ++ "." ++ quote name).toList ++ []) =
        some (Text.splitOn '.' table.toList ++ [name.toList], []) :=
      Identifier.readQualified?_quoteQualified_dot ends_nil
    simp only [droppedIndex?, dropPrefix?_append, hread, Option.bind_eq_bind, Option.bind_some,
      List.getLast?_concat, List.dropLast_concat]
    rfl
  rw [hsql, dropped?, hindex, htable, haltered]
  rfl

end Address

/-! ### Inferred ways down -/

/-- **What an inferred way down drops.**  An operation that has an inverse adds a table, or a member
of a table, under a name of one part, and the inverse drops the member of the same kind and name, or
the table.  It names the same table, except that an operation that creates a table or adds an index
is reverted in the table that has the dot-separated parts of the name; so the tables agree exactly
if the operation is one of the other two or the name has no dot. -/
theorem inferred_address_iff {op inv : Operation} (h : op.inverse? = some inv) :
    ∃ up down name member, op.compile = [.sql up] ∧ inv.compile = [.sql down] ∧
      Address.added? up.toList = some ⟨[name], member⟩ ∧
      ∃ table, Address.dropped? down.toList = some ⟨table, member⟩ ∧
        table = (if op.kind = .createTable ∨ op.kind = .addIndex then Text.splitOn '.' name
          else [name]) ∧
        (table = [name] ↔ op.kind = .addColumn ∨ op.kind = .addForeignKey ∨ '.' ∉ name) := by
  -- tables and indexes are dropped by the parts of their names, columns and keys by the whole
  cases op with
  | createTable t =>
    obtain rfl := Option.some.inj h
    refine ⟨_, _, _, _, rfl, rfl, Address.added?_createTable t, _,
      Address.dropped?_dropTable t.name, by simp [Operation.kind], ?_⟩
    rw [Text.splitOn_eq_singleton_iff]
    simp [Operation.kind]
  | addColumn c =>
    rw [Operation.inverse?_addColumn] at h
    obtain ⟨first, hfirst, rfl⟩ := Option.map_eq_some_iff.mp h
    refine ⟨_, _, _, _, rfl, rfl, Address.added?_addColumn hfirst, _,
      Address.dropped?_removeColumn ⟨c.table, first.name⟩, by simp [Operation.kind], ?_⟩
    simp [Operation.kind]
  | addForeignKey k =>
    obtain rfl := Option.some.inj h
    refine ⟨_, _, _, _, rfl, rfl, Address.added?_foreignKey k, _,
      Address.dropped?_dropConstraint ⟨k.source.table, k.name⟩, by simp [Operation.kind], ?_⟩
    simp [Operation.kind]
  | addIndex i =>
    obtain rfl := Option.some.inj h
    refine ⟨_, _, _, _, rfl, rfl, Address.added?_index i, _,
      Address.dropped?_dropIndex i.table i.name, by simp [Operation.kind], ?_⟩
    rw [Text.splitOn_eq_singleton_iff]
    simp [Operation.kind]
  | dropTable | removeColumn | changeColumn | dropConstraint | removeIndex | execute | raw =>
    cases h

/-- An index on a table with brackets in its name is dropped where it was added. -/
theorem inferred_address_of_bracketed_name :
    let index : Index := ⟨"[a]]b", ["c ]d"]⟩
    (Operation.addIndex index).inverse? = some (.removeIndex index) ∧
      ∃ up down address, (Operation.addIndex index).compile = [.sql up] ∧
        (Operation.removeIndex index).compile = [.sql down] ∧
        Address.added? up.toList = some address ∧ Address.dropped? down.toList = some address := by
  intro index
  have hinverse : (Operation.addIndex index).inverse? = some (.removeIndex index) := rfl
  obtain ⟨up, down, name, member, hup, hdown, hadded, table, hdropped, -, hiff⟩ :=
    inferred_address_iff hinverse
  obtain rfl : name = "[a]]b".toList := by
    obtain rfl := Statement.sql.inj (List.cons.inj hup).1
    rw [Address.added?_index] at hadded
    exact (List.cons.inj (Address.mk.inj (Option.some.inj hadded)).1).1.symm
  have htable := hiff.mpr (.inr (.inr (by decide +kernel)))
  rw [htable] at hdropped
  exact ⟨rfl, up, down, _, hup, hdown, hadded, hdropped⟩

/-- A document creates a table whose name has a dot, and the inferred way down drops a table of
another schema. -/
theorem inferred_drop_of_another_table :
    let document : Document := .mapping
      [(.string "create_table", .mapping [(.string "name", .string "dbo.Users")])]
    let op : Operation := .createTable ⟨"dbo.Users", false, []⟩
    let inverse : Operation := .dropTable "dbo.Users"
    (Operation.ofDocument document).toOption = some op ∧ op.inverse? = some inverse ∧
      (op.compile.map fun s => Address.added? s.text.toList) =
        [some ⟨["dbo.Users".toList], none⟩] ∧
      (inverse.compile.map fun s => Address.dropped? s.text.toList) =
        [some ⟨["dbo".toList, "Users".toList], none⟩] := by
  decide +kernel

end SchemaMigration
