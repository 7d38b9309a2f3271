import SchemaMigration.Proofs.Database.Calm
import SchemaMigration.Proofs.Text.Search
import SchemaMigration.Proofs.Text.SignedNumeral
import Mathlib.Logic.Function.Basic

/-!
# Databases of tables

Statements and queries on version tables are read out of their SQL text word by word: which table is
meant, and which number (`TableStatement.Reads`, `TableQuery.Reads`).  What is written for a version
table is read as meant for the table of exactly this name (`VersionTable.reads_updateSql` and the
like), and nothing is read in two ways (`TableStatement.Reads.unique`, `TableQuery.Reads.unique`).

`Database.Tabulates` states that a database gives all that can be read its usual meaning.  A
database in memory without rules is such a database (`MemoryDatabase.tabulates`).
-/

namespace SchemaMigration

/-- The tables of a database: the rows of the table with a name, or `none` if there is no such
table. -/
abbrev Tables := String → Option (List Json)

/-! ### Statements -/

/-- A statement on a version table. -/
inductive TableStatement where
  | create (table : String)
  | insertZero (table : String)
  | update (table : String) (value : Nat)

namespace TableStatement

/-- The tables after the statement.  A table can only be made if it is missing, and only be filled
if it is there. -/
def run? (tables : Tables) : TableStatement → Option Tables
  | create table =>
    if (tables table).isNone then some (Function.update tables table (some [])) else none
  | insertZero table =>
    (tables table).map fun rows => Function.update tables table (some (rows ++ [.nat 0]))
  | update table value =>
    (tables table).map fun rows =>
      Function.update tables table (some (rows.map fun _ => .nat value))

theorem run?_create {tables : Tables} {table : String} (h : tables table = none) :
    (create table).run? tables = some (Function.update tables table (some [])) := by
  rw [run?, h]
  rfl

theorem run?_insertZero {tables : Tables} {table : String} {rows : List Json}
    (h : tables table = some rows) :
    (insertZero table).run? tables =
      some (Function.update tables table (some (rows ++ [.nat 0]))) := by
  rw [run?, h, Option.map_some]

theorem run?_update {tables : Tables} {table : String} {rows : List Json}
    (h : tables table = some rows) (value : Nat) :
    (update table value).run? tables =
      some (Function.update tables table (some (rows.map fun _ => .nat value))) := by
  rw [run?, h, Option.map_some]

/-- The words of a text are those of a statement on a table, with a number that fits into 64 bits
with a sign. -/
inductive Reads (sql : String) : TableStatement → Prop
  | create {table : String} (hname : Config.isIdentifier table = true)
      (hwords : Text.split sql ' ' = ["CREATE", "TABLE", table, "(Version", "INT)"]) :
    Reads sql (create table)
  | insertZero {table : String} (hname : Config.isIdentifier table = true)
      (hwords : Text.split sql ' ' = ["INSERT", "INTO", table, "(Version)", "VALUES", "(0)"]) :
    Reads sql (insertZero table)
  | update {table digits : String} {value : Nat} (hname : Config.isIdentifier table = true)
      (hwords : Text.split sql ' ' = ["UPDATE", table, "SET", "Version", "=", digits])
      (hvalue : Numeral.read? digits.toList = some value) (hfits : value < 2 ^ 63) :
    Reads sql (update table value)

/-- A text is read in one way only. -/
theorem Reads.unique {sql : String} {st st' : TableStatement} (h : Reads sql st)
    (h' : Reads sql st') : st = st' := by
  -- the first word tells what the statement is
  cases h with
  | create _ hwords => cases h' <;> simp_all
  | insertZero _ hwords => cases h' <;> simp_all
  | update _ hwords hvalue => cases h' <;> simp_all

end TableStatement

/-! ### Queries -/

/-- A query about a version table. -/
inductive TableQuery where
  /-- how many tables have the name -/
  | count (table : String)
  /-- the value in the first row -/
  | version (table : String)

namespace TableQuery

/-- The answer to the query, if it is an integer of 64 bits. -/
def answer? (tables : Tables) : TableQuery → Option Int
  | count table => some (if (tables table).isSome then 1 else 0)
  | version table =>
    (((tables table).bind List.head?).bind Json.int?).filter fun n => n < 2 ^ 63

theorem answer?_version {tables : Tables} {table : String} {value : Nat} {rest : List Json}
    (h : tables table = some (.nat value :: rest)) (hfits : value < 2 ^ 63) :
    (version table).answer? tables = some (value : Int) := by
  rw [answer?, h]
  exact Option.filter_eq_some_iff.mpr ⟨rfl, decide_eq_true (mod_cast hfits)⟩

/-- The words of a text are those of a query about a table. -/
inductive Reads (sql : String) : TableQuery → Prop
  | count {table : String} (hname : Config.isIdentifier table = true)
      (hwords : Text.split sql ' ' = ["SELECT", "COUNT(*)", "FROM", "INFORMATION_SCHEMA.TABLES",
        "WHERE", "TABLE_NAME", "=", "'" ++ table ++ "'"]) :
    Reads sql (count table)
  | version {table : String} (hname : Config.isIdentifier table = true)
      (hwords : Text.split sql ' ' = ["SELECT", "Version", "FROM", table]) :
    Reads sql (version table)

/-- A text is read in one way only. -/
theorem Reads.unique {sql : String} {q q' : TableQuery} (h : Reads sql q) (h' : Reads sql q') :
    q = q' := by
  -- the second word tells what the query is
  cases h with
  | count _ hwords => cases h' <;> simp_all
  | version _ hwords => cases h' <;> simp_all

end TableQuery

/-- As long as it is calm, the database gives the statements and queries on version tables their
usual meaning, where `tables` gives the tables in a state. -/
structure Database.Tabulates {σ : Type} (d : Database σ) (tables : σ → Tables) (calm : σ → Prop) :
    Prop where
  /-- a statement that has a meaning is taken, and changes the tables accordingly -/
  execute : ∀ {sql statement s after}, calm s → TableStatement.Reads sql statement →
    statement.run? (tables s) = some after →
    ∃ n s', d.execute sql s = (.ok n, s') ∧ calm s' ∧ tables s' = after
  /-- a query that has an answer is answered, and changes no table -/
  query : ∀ {sql query s value}, calm s → TableQuery.Reads sql query →
    query.answer? (tables s) = some value →
    ∃ s', d.query sql s = (.ok (some value), s') ∧ calm s' ∧ tables s' = tables s

/-! ### The texts of a version table -/

namespace VersionTable

variable {t : VersionTable} (ht : Config.isIdentifier t.name = true)
include ht

theorem split_createSql :
    Text.split t.createSql ' ' = ["CREATE", "TABLE", t.name, "(Version", "INT)"] := by
  have hstart : Text.split "CREATE TABLE " ' ' = ["CREATE", "TABLE"] ++ [""] := by decide +kernel
  have hfinish : Text.split " (Version INT)" ' ' = "" :: ["(Version", "INT)"] := by decide +kernel
  have hwords := Text.split_around hstart (MemoryDatabase.blank_notMem ht) hfinish
  rwa [String.empty_append, String.append_empty] at hwords

theorem split_initSql :
    Text.split t.initSql ' ' = ["INSERT", "INTO", t.name, "(Version)", "VALUES", "(0)"] := by
  have hstart : Text.split "INSERT INTO " ' ' = ["INSERT", "INTO"] ++ [""] := by decide +kernel
  have hfinish : Text.split " (Version) VALUES (0)" ' ' =
      "" :: ["(Version)", "VALUES", "(0)"] := by decide +kernel
  have hwords := Text.split_around hstart (MemoryDatabase.blank_notMem ht) hfinish
  rwa [String.empty_append, String.append_empty] at hwords

theorem split_update {digits : String} (hdigits : ' ' ∉ digits.toList) :
    Text.split ("UPDATE " ++ t.name ++ " SET Version = " ++ digits) ' ' =
      ["UPDATE", t.name, "SET", "Version", "=", digits] := by
  have hstart : Text.split "UPDATE " ' ' = ["UPDATE"] ++ [""] := by decide +kernel
  have hmiddle : Text.split " SET Version = " ' ' = ["", "SET", "Version", "="] ++ [""] := by
    decide +kernel
  have hfinish := Text.split_append_eq hmiddle (Text.split_eq_singleton hdigits)
  have hwords := Text.split_around hstart (MemoryDatabase.blank_notMem ht) hfinish
  rwa [String.empty_append, String.empty_append, String.append_empty, ← String.append_assoc]
    at hwords

theorem split_existsSql : Text.split t.existsSql ' ' = ["SELECT", "COUNT(*)", "FROM",
    "INFORMATION_SCHEMA.TABLES", "WHERE", "TABLE_NAME", "=", "'" ++ t.name ++ "'"] := by
  have hstart :
      Text.split "SELECT COUNT(*) FROM INFORMATION_SCHEMA.TABLES WHERE TABLE_NAME = '" ' ' =
        ["SELECT", "COUNT(*)", "FROM", "INFORMATION_SCHEMA.TABLES", "WHERE", "TABLE_NAME", "="] ++
          ["'"] := by decide +kernel
  have hfinish : Text.split "'" ' ' = "'" :: [] := by decide +kernel
  exact Text.split_around hstart (MemoryDatabase.blank_notMem ht) hfinish

theorem split_readSql : Text.split t.readSql ' ' = ["SELECT", "Version", "FROM", t.name] := by
  have hstart : Text.split "SELECT Version FROM " ' ' = ["SELECT", "Version", "FROM"] ++ [""] := by
    decide +kernel
  have hname := Text.split_eq_singleton (MemoryDatabase.blank_notMem ht)
  have hwords := Text.split_append_eq hstart hname
  rwa [String.empty_append] at hwords

theorem reads_createSql : TableStatement.Reads t.createSql (.create t.name) :=
  .create ht (split_createSql ht)

theorem reads_initSql : TableStatement.Reads t.initSql (.insertZero t.name) :=
  .insertZero ht (split_initSql ht)

theorem reads_updateSql {version : Nat} (hversion : version < 2 ^ 63) :
    TableStatement.Reads (t.updateSql version) (.update t.name version) := by
  have hdigits : ' ' ∉ (Numeral.ofNat version).toList := by
    rw [Numeral.ofNat, String.toList_ofList]
    exact fun hmem => absurd (Numeral.isDigit_of_mem_digits hmem) (by decide)
  refine .update ht (split_update ht hdigits) ?_ hversion
  rw [Numeral.ofNat, String.toList_ofList, Numeral.read?_digits]

theorem reads_existsSql : TableQuery.Reads t.existsSql (.count t.name) :=
  .count ht (split_existsSql ht)

theorem reads_readSql : TableQuery.Reads t.readSql (.version t.name) :=
  .version ht (split_readSql ht)

end VersionTable

/-! ### In memory -/

namespace MemoryDatabase

variable {db : MemoryDatabase} {sql : String}

theorem rows?_setRows_eq (db : MemoryDatabase) (table : String) (rows : List Json) :
    (db.setRows table rows).rows? = Function.update db.rows? table (some rows) := by
  funext other
  rw [rows?_setRows, Function.update_apply]

/-- What can be read is known. -/
theorem exists_apply {statement : TableStatement} {after : Tables}
    (hreads : TableStatement.Reads sql statement) (hafter : statement.run? db.rows? = some after) :
    ∃ known next, known? sql = some known ∧ db.apply known = .ok next ∧ next.rules = db.rules ∧
      next.rows? = after := by
  cases hreads with
  | @create table hname hwords =>
    -- the text of the statement is determined by its words
    obtain rfl : sql = VersionTable.createSql ⟨table⟩ :=
      Text.eq_of_split_eq (hwords.trans (VersionTable.split_createSql (t := ⟨table⟩) hname).symm)
    obtain ⟨hmissing, hafter⟩ := Option.ite_none_right_eq_some.mp hafter
    have hnone : db.rows? table = none := Option.isNone_iff_eq_none.mp hmissing
    refine ⟨_, db.setRows table [], known?_createSql ⟨table⟩, ?_, rules_setRows .., ?_⟩
    · simp only [apply, hnone]
    · rw [rows?_setRows_eq, Option.some.inj hafter]
  | @insertZero table hname hwords =>
    obtain rfl : sql = VersionTable.initSql ⟨table⟩ :=
      Text.eq_of_split_eq (hwords.trans (VersionTable.split_initSql (t := ⟨table⟩) hname).symm)
    obtain ⟨rows, hrows, rfl⟩ := Option.map_eq_some_iff.mp hafter
    refine ⟨_, db.setRows table (rows ++ [.nat 0]), known?_initSql ⟨table⟩, ?_,
      rules_setRows .., rows?_setRows_eq ..⟩
    simp only [apply, hrows]
    rfl
  | @update table digits value hname hwords hvalue hfits =>
    -- the digits are one of the words, so there is no blank in them
    have hmem : digits ∈ Text.split sql ' ' := by simp [hwords]
    have hdigits : ' ' ∉ digits.toList := (Text.notMem_of_mem_split hmem).1
    have hsplit := VersionTable.split_update (t := ⟨table⟩) hname hdigits
    obtain rfl : sql = "UPDATE " ++ table ++ " SET Version = " ++ digits :=
      Text.eq_of_split_eq (hwords.trans hsplit.symm)
    obtain ⟨rows, hrows, rfl⟩ := Option.map_eq_some_iff.mp hafter
    refine ⟨.update table value, db.setRows table (rows.map fun _ => .nat value), ?_, ?_,
      rules_setRows .., rows?_setRows_eq ..⟩
    · exact (known?_update hname hvalue).trans (if_pos hfits)
    · simp only [apply, hrows]
      rfl

/-- A query that has an answer is answered. -/
theorem query_eq (h : db.rules = []) {query : TableQuery} {value : Int}
    (hreads : TableQuery.Reads sql query) (hvalue : query.answer? db.rows? = some value) :
    db.query sql = .ok (some value) := by
  cases hreads with
  | @count table hname hwords =>
    obtain rfl : sql = VersionTable.existsSql ⟨table⟩ :=
      Text.eq_of_split_eq (hwords.trans (VersionTable.split_existsSql (t := ⟨table⟩) hname).symm)
    rw [query_existsSql_of_calm h, ← Option.some.inj hvalue]
  | @version table hname hwords =>
    obtain rfl : sql = VersionTable.readSql ⟨table⟩ :=
      Text.eq_of_split_eq (hwords.trans (VersionTable.split_readSql (t := ⟨table⟩) hname).symm)
    -- an answer is the integer in the first row
    obtain ⟨hcell, hfits⟩ := Option.filter_eq_some_iff.mp hvalue
    obtain ⟨row, hrow, hint⟩ := Option.bind_eq_some_iff.mp hcell
    obtain ⟨rows, hrows, hhead⟩ := Option.bind_eq_some_iff.mp hrow
    obtain ⟨rest, rfl⟩ := List.head?_eq_some_iff.mp hhead
    obtain rfl := Json.int?_eq_some_iff.mp hint
    have hscalar : scalar (.int value) = .ok (some value) := if_pos (by simpa using hfits)
    rw [query_readSql_of_calm (t := ⟨table⟩) h hrows, firstScalar, hscalar]
    rfl

/-- **Tables in memory**: without rules, a database in memory gives statements and queries on
version tables their usual meaning. -/
theorem tabulates : database.Tabulates rows? fun db => db.rules = [] where
  execute {sql statement db after} hcalm hreads hafter := by
    obtain ⟨known, next, hknown, happly, hrules, hrows⟩ := exists_apply hreads hafter
    refine ⟨1, { next with executed := next.executed ++ [sql] }, ?_, hrules.trans hcalm, hrows⟩
    simp only [database, execute_of_calm hcalm hknown happly]
  query {sql query db value} hcalm hreads hvalue := by
    refine ⟨db, ?_, hcalm, rfl⟩
    simp only [database, query_eq hcalm hreads hvalue]
    rfl

end MemoryDatabase
end SchemaMigration
