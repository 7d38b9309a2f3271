import SchemaMigration.Proofs.Operation.Address

/-!
# Statements that hold names only

The statements that drop a table, a column or a constraint, that add a foreign key and that create
an index hold nothing but names between fixed words.  Whatever characters the names have, the
operation can be read off the text of its statement (`recover?_compile`), so two such operations
with one statement are one operation (`compile_injective_of_names`).
-/

namespace SchemaMigration
open Identifier (quote quoteList quoteQualified read? read?_quote)
open Address (dropPrefix?_append ends_blank toList_foreignKeySql toList_indexSql)

/-! ### Lists of identifiers -/

namespace Identifier

/-- Reads identifiers between brackets, each with some words behind it and with commas between them,
up to a closing parenthesis; `fuel` bounds their number. -/
def readListed (words : List Char) : (fuel : Nat) → List Char → Option (List String × List Char)
  | 0, _ => none
  | fuel + 1, s => do
    let (name, s) ← read? s
    let s ← s.dropPrefix? words
    match s with
    | ')' :: rest => pure ([String.ofList name], rest)
    | s => do
      let s ← s.dropPrefix? ", ".toList
      let (names, rest) ← readListed words fuel s
      pure (String.ofList name :: names, rest)

/-- Reads a list of identifiers, which may be empty, up to its closing parenthesis. -/
def readList? (words : List Char) : List Char → Option (List String × List Char)
  | ')' :: rest => some ([], rest)
  | s => readListed words s.length s

/-- The identifiers of a list, each with some words behind it. -/
def listed (words : String) (names : List String) : List Char :=
  (Text.joinWith ", " (names.map fun name => quote name ++ words)).toList

variable {words : String} {names : List String} {rest : List Char}

theorem listed_singleton (words name : String) :
    listed words [name] = (quote name).toList ++ words.toList := String.toList_append

theorem listed_cons_cons (words name name' : String) (names : List String) :
    listed words (name :: name' :: names) =
      (quote name).toList ++ (words.toList ++ (", ".toList ++ listed words (name' :: names))) := by
  simp only [listed, List.map_cons, Text.joinWith_cons_cons, String.toList_append,
    List.append_assoc]

theorem listed_eq_quoteList (names : List String) : listed "" names = (quoteList names).toList := by
  simp only [listed, quoteList, String.append_empty]

/-- A list of identifiers begins with a bracket. -/
theorem exists_listed_cons (words name : String) (names : List String) :
    ∃ s, listed words (name :: names) = '[' :: s := by
  cases names with
  | nil => exact ⟨_, by rw [listed_singleton, toList_quote, bracketed, List.cons_append]⟩
  | cons name' names =>
    exact ⟨_, by rw [listed_cons_cons, toList_quote, bracketed, List.cons_append]⟩

/-- A list of identifiers is at least as long as they are many. -/
theorem length_le_listed (words : String) (names : List String) :
    names.length ≤ (listed words names).length := by
  induction names with
  | nil => exact Nat.zero_le _
  | cons name names ih =>
    cases names with
    | nil =>
      rw [listed_singleton, toList_quote, bracketed]
      simp
    | cons name' names =>
      rw [listed_cons_cons, List.length_append, List.length_append, List.length_append,
        toList_quote, bracketed]
      simp only [List.length_cons] at ih ⊢
      omega

theorem head?_append_cons (hwords : words.toList.head? ≠ some ']') {c : Char} (hc : c ≠ ']')
    (rest : List Char) : (words.toList ++ c :: rest).head? ≠ some ']' := by
  cases hchars : words.toList with
  | nil => simpa using hc
  | cons d chars => simpa [hchars] using hwords

theorem readListed_listed (hwords : words.toList.head? ≠ some ']') (hnames : names ≠ [])
    {fuel : Nat} (hfuel : names.length ≤ fuel) :
    readListed words.toList fuel (listed words names ++ ')' :: rest) = some (names, rest) := by
  induction names generalizing fuel with
  | nil => exact absurd rfl hnames
  | cons name names ih =>
    obtain ⟨fuel, rfl⟩ : ∃ k, fuel = k + 1 := ⟨fuel - 1, by simp at hfuel; omega⟩
    cases names with
    | nil =>
      have hparenthesis : ')' ≠ ']' := by decide
      have hread : read? ((quote name).toList ++ (words.toList ++ ')' :: rest)) =
          some (name.toList, words.toList ++ ')' :: rest) :=
        read?_quote (head?_append_cons hwords hparenthesis rest)
      rw [listed_singleton, List.append_assoc, readListed]
      simp only [hread, dropPrefix?_append, Option.bind_eq_bind, Option.bind_some,
        String.ofList_toList]
      rfl
    | cons name' names =>
      have hcomma : ',' ≠ ']' := by decide
      have hread (s : List Char) : read? ((quote name).toList ++ (words.toList ++ ',' :: s)) =
          some (name.toList, words.toList ++ ',' :: s) :=
        read?_quote (head?_append_cons hwords hcomma s)
      have hshorter : (name' :: names).length ≤ fuel := by simp at hfuel ⊢; omega
      have hrest := ih (List.cons_ne_nil _ _) hshorter
      have hsplit : listed words (name :: name' :: names) ++ ')' :: rest = (quote name).toList ++
          (words.toList ++ ',' :: ' ' :: (listed words (name' :: names) ++ ')' :: rest)) := by
        rw [listed_cons_cons, List.append_assoc, List.append_assoc, List.append_assoc]
        rfl
      have hnext : (',' :: ' ' :: (listed words (name' :: names) ++ ')' :: rest)).dropPrefix?
          ", ".toList = some (listed words (name' :: names) ++ ')' :: rest) :=
        dropPrefix?_append ", ".toList _
      rw [hsplit, readListed]
      simp only [hread, dropPrefix?_append, Option.bind_eq_bind, Option.bind_some,
        String.ofList_toList]
      -- no parenthesis comes next, but a comma
      show (List.dropPrefix? _ ", ".toList).bind (fun s => (readListed words.toList fuel s).bind
        fun result => pure (name :: result.1, result.2)) = _
      rw [hnext, Option.bind_some, hrest]
      rfl

/-- **Reading back**: a list of identifiers is read up to its closing parenthesis. -/
theorem readList?_listed (hwords : words.toList.head? ≠ some ']') :
    readList? words.toList (listed words names ++ ')' :: rest) = some (names, rest) := by
  cases names with
  | nil => rfl
  | cons name names =>
    obtain ⟨s, hs⟩ := exists_listed_cons words name names
    have hlength : (name :: names).length ≤ (listed words (name :: names) ++ ')' :: rest).length :=
      Nat.le_trans (length_le_listed words _) (by simp)
    have hread : readListed words.toList _ (listed words (name :: names) ++ ')' :: rest) = _ :=
      readListed_listed hwords (List.cons_ne_nil name names) hlength
    rw [hs] at hread ⊢
    exact hread

theorem readList?_quoteList :
    readList? [] ((quoteList names).toList ++ ')' :: rest) = some (names, rest) := by
  have hwords : "".toList.head? ≠ some ']' := by decide
  rw [← listed_eq_quoteList]
  exact readList?_listed hwords

end Identifier

/-! ### Reading statements -/

namespace Operation
open Identifier (readList? readList?_listed readList?_quoteList)

/-- The operation that drops what has an address; a member is dropped from a table whose name is
quoted as a whole. -/
def dropping? : Address → Option Operation
  | ⟨parts, none⟩ => some (.dropTable (Text.joinWith "." (parts.map String.ofList)))
  | ⟨[table], some (.column, name)⟩ =>
    some (.removeColumn ⟨String.ofList table, String.ofList name⟩)
  | ⟨[table], some (.constraint, name)⟩ =>
    some (.dropConstraint ⟨String.ofList table, String.ofList name⟩)
  | _ => none

/-- The foreign key that a statement adds. -/
def foreignKey? (s : List Char) : Option ForeignKey := do
  let s ← s.dropPrefix? "ALTER TABLE ".toList
  let (table, s) ← read? s
  let s ← s.dropPrefix? " ADD CONSTRAINT ".toList
  let (name, s) ← read? s
  let s ← s.dropPrefix? " FOREIGN KEY (".toList
  let (columns, s) ← readList? [] s
  let s ← s.dropPrefix? " REFERENCES ".toList
  let (target, s) ← read? s
  let s ← s.dropPrefix? " (".toList
  let (targetColumns, _) ← readList? [] s
  pure ⟨String.ofList name, ⟨String.ofList table, columns⟩, ⟨String.ofList target, targetColumns⟩⟩

/-- The index that a statement creates. -/
def index? (s : List Char) : Option Index := do
  let s ← s.dropPrefix? "CREATE NONCLUSTERED INDEX ".toList
  let (_, s) ← read? s
  let s ← s.dropPrefix? " ON ".toList
  let (table, s) ← read? s
  let s ← s.dropPrefix? " (".toList
  let (columns, _) ← readList? " ASC".toList s
  pure ⟨String.ofList table, columns⟩

/-- The operation whose statement, which holds names only, has a text. -/
def recover? (sql : String) : Option Operation :=
  ((Address.dropped? sql.toList).bind dropping? <|>
    (foreignKey? sql.toList).map .addForeignKey) <|> (index? sql.toList).map .addIndex

/-! ### Reading back -/

theorem recover?_dropTable (name : String) :
    recover? ("DROP TABLE " ++ quoteQualified name) = some (.dropTable name) := by
  have hjoin : Text.joinWith "." ((Text.splitOn '.' name.toList).map String.ofList) = name :=
    Text.joinWith_split name '.'
  rw [recover?, Address.dropped?_dropTable, Option.bind_some, dropping?, hjoin]
  rfl

theorem recover?_removeColumn (m : Member) :
    recover? (alterTable m.table ++ " DROP COLUMN " ++ quote m.name) = some (.removeColumn m) := by
  rw [recover?, Address.dropped?_removeColumn, Option.bind_some, dropping?, String.ofList_toList,
    String.ofList_toList]
  rfl

theorem recover?_dropConstraint (m : Member) :
    recover? (alterTable m.table ++ " DROP CONSTRAINT " ++ quote m.name) =
      some (.dropConstraint m) := by
  rw [recover?, Address.dropped?_dropConstraint, Option.bind_some, dropping?, String.ofList_toList,
    String.ofList_toList]
  rfl

theorem foreignKey?_foreignKeySql (k : ForeignKey) :
    foreignKey? (foreignKeySql k).toList = some k := by
  -- each reader stops where the next word of the statement starts
  have htable (s : List Char) :
      read? ((quote k.source.table).toList ++ (" ADD CONSTRAINT ".toList ++ s)) =
        some (k.source.table.toList, " ADD CONSTRAINT ".toList ++ s) :=
    read?_quote (ends_blank rfl s).1
  have hname (s : List Char) : read? ((quote k.name).toList ++ (" FOREIGN KEY (".toList ++ s)) =
      some (k.name.toList, " FOREIGN KEY (".toList ++ s) := read?_quote (ends_blank rfl s).1
  have hcolumns (s : List Char) :
      readList? [] ((quoteList k.source.columns).toList ++ (") REFERENCES ".toList ++ s)) =
        some (k.source.columns, " REFERENCES ".toList ++ s) := readList?_quoteList
  have htarget (s : List Char) : read? ((quote k.target.table).toList ++ (" (".toList ++ s)) =
      some (k.target.table.toList, " (".toList ++ s) := read?_quote (ends_blank rfl s).1
  have htargetColumns : readList? [] ((quoteList k.target.columns).toList ++ ")".toList) =
      some (k.target.columns, []) := readList?_quoteList
  simp only [foreignKey?, toList_foreignKeySql, dropPrefix?_append, htable, hname, hcolumns,
    htarget, htargetColumns, Option.bind_eq_bind, Option.bind_some, String.ofList_toList]
  rfl

theorem index?_indexSql (i : Index) : index? (indexSql i).toList = some i := by
  have hname (s : List Char) : read? ((quote i.name).toList ++ (" ON ".toList ++ s)) =
      some (i.name.toList, " ON ".toList ++ s) := read?_quote (ends_blank rfl s).1
  have htable (s : List Char) : read? ((quote i.table).toList ++ (" (".toList ++ s)) =
      some (i.table.toList, " (".toList ++ s) := read?_quote (ends_blank rfl s).1
  have hcolumns : readList? " ASC".toList
      ((Text.joinWith ", " (i.columns.map fun c => quote c ++ " ASC")).toList ++ ")".toList) =
        some (i.columns, []) := readList?_listed (by decide)
  simp only [index?, toList_indexSql, dropPrefix?_append, hname, htable, hcolumns,
    Option.bind_eq_bind, Option.bind_some, String.ofList_toList]
  rfl

/-- A statement that adds a foreign key drops nothing. -/
theorem dropped?_foreignKeySql (k : ForeignKey) :
    Address.dropped? (foreignKeySql k).toList = none := by
  have htable (s : List Char) : Identifier.readQualified? ((quote k.source.table).toList ++
      (" ADD CONSTRAINT ".toList ++ s)) =
        some ([k.source.table.toList], " ADD CONSTRAINT ".toList ++ s) :=
    Identifier.readQualified?_quote (ends_blank rfl s)
  rw [toList_foreignKeySql, Address.dropped?_alterTable]
  simp only [Address.altered?, dropPrefix?_append, htable, Option.bind_eq_bind, Option.bind_some]
  rfl

theorem recover?_addForeignKey (k : ForeignKey) :
    recover? (foreignKeySql k) = some (.addForeignKey k) := by
  rw [recover?, dropped?_foreignKeySql, foreignKey?_foreignKeySql]
  rfl

theorem recover?_addIndex (i : Index) : recover? (indexSql i) = some (.addIndex i) := by
  -- the first words of the statement are those of no other
  have hdropped : Address.dropped? (indexSql i).toList = none := by
    rw [toList_indexSql]
    rfl
  have hkey : foreignKey? (indexSql i).toList = none := by
    rw [toList_indexSql]
    rfl
  rw [recover?, hdropped, hkey, index?_indexSql]
  rfl

/-- The kinds of operations whose statements hold names only. -/
def namesOnly : List OperationKind :=
  [.dropTable, .removeColumn, .dropConstraint, .addForeignKey, .addIndex]

/-- **Reading back**: an operation whose statement holds names only is read off its statement. -/
theorem recover?_compile {op : Operation} (h : op.kind ∈ namesOnly) :
    ∃ sql, op.compile = [.sql sql] ∧ recover? sql = some op := by
  cases op with
  | dropTable name => exact ⟨_, rfl, recover?_dropTable name⟩
  | removeColumn m => exact ⟨_, rfl, recover?_removeColumn m⟩
  | dropConstraint m => exact ⟨_, rfl, recover?_dropConstraint m⟩
  | addForeignKey k => exact ⟨_, rfl, recover?_addForeignKey k⟩
  | addIndex i => exact ⟨_, rfl, recover?_addIndex i⟩
  | createTable | addColumn | changeColumn | removeIndex | execute | raw =>
    exact absurd h (by simp [kind, namesOnly])

/-- **Statements of names cannot be confused**: two operations whose statements hold names only, be
they of one kind or of two, are one operation if their statements are the same, whatever characters
the names have and however many columns there are. -/
theorem compile_injective_of_names {op op' : Operation} (h : op.kind ∈ namesOnly)
    (h' : op'.kind ∈ namesOnly) (hsql : op.compile = op'.compile) : op = op' := by
  obtain ⟨sql, hcompile, hrecover⟩ := recover?_compile h
  obtain ⟨sql', hcompile', hrecover'⟩ := recover?_compile h'
  rw [hcompile, hcompile'] at hsql
  obtain rfl := Statement.sql.inj (List.cons.inj hsql).1
  exact Option.some.inj (hrecover.symm.trans hrecover')

/-- A foreign key whose names hold brackets, commas and the words of the statement, and one of whose
lists of columns is empty. -/
theorem compile_injective_of_hostile_names :
    let key : ForeignKey :=
      ⟨"] FOREIGN KEY (", ⟨"a] ADD CONSTRAINT [b", ["c], [d", "", ")"]⟩, ⟨"t.[u]", []⟩⟩
    let op : Operation := .addForeignKey key
    op.kind ∈ namesOnly ∧ recover? (foreignKeySql key) = some op ∧ op = .addForeignKey key := by
  intro key op
  have hkind : op.kind ∈ namesOnly := by decide
  exact ⟨hkind, recover?_addForeignKey key, compile_injective_of_names hkind hkind rfl⟩

end Operation
end SchemaMigration
