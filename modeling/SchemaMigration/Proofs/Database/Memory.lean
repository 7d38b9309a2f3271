import SchemaMigration.Config
import SchemaMigration.Database.Memory
import SchemaMigration.Proofs.Result
import SchemaMigration.Proofs.Text.Numeral
import SchemaMigration.Proofs.VersionTable

/-!
# A database in memory serves the version table

The database in memory reads back each statement that the version table writes, whatever accepted
name the table has (`known?_createSql`, `known?_initSql`, `known?_updateSql`).  It takes an update
that it cannot read for a statement on other tables; `strict` refuses those, and so it serves every
version table (`served_strict`).
-/

namespace SchemaMigration.MemoryDatabase

/-! ### Reading statements back -/

/-- What is put between two texts is found between them. -/
theorem between?_append (start finish x : String) :
    between? start finish (start ++ x ++ finish) = some x := by
  have hprefix : start.toList.isPrefixOf (start ++ x ++ finish).toList = true := by
    rw [List.isPrefixOf_iff_prefix, String.toList_append, String.toList_append, List.append_assoc]
    exact List.prefix_append _ _
  have hsuffix : finish.toList.isSuffixOf (start ++ x ++ finish).toList = true := by
    rw [List.isSuffixOf_iff_suffix, String.toList_append]
    exact List.suffix_append _ _
  have hlength : start.toList.length + finish.toList.length ≤
      (start ++ x ++ finish).toList.length := by
    simp only [String.toList_append, List.length_append]
    omega
  simp only [between?, hprefix, hsuffix, hlength, Bool.and_self, decide_true, if_true]
  simp

/-- Nothing is found between two texts where another text stands at the beginning. -/
theorem between?_eq_none {start finish other text : String}
    (hne : (start.toList.isPrefixOf other.toList || other.toList.isPrefixOf start.toList) = false)
    (htext : other.toList <+: text.toList) : between? start finish text = none := by
  rw [Bool.or_eq_false_iff] at hne
  have hprefix : start.toList.isPrefixOf text.toList = false := by
    rw [Bool.eq_false_iff, ne_eq, List.isPrefixOf_iff_prefix]
    intro hstart
    obtain h | h := List.prefix_or_prefix_of_prefix hstart htext
    · rw [List.isPrefixOf_iff_prefix.mpr h] at hne
      cases hne.1
    · rw [List.isPrefixOf_iff_prefix.mpr h] at hne
      cases hne.2
  simp only [between?, hprefix, Bool.false_and, Bool.false_eq_true, if_false]

theorem prefix_toList_append (s x : String) : s.toList <+: (s ++ x).toList := by
  rw [String.toList_append]
  exact List.prefix_append _ _

/-- A pattern is found in front of its first character's first place. -/
theorem cutAt_append {c : Char} {p before rest : List Char} (h : c ∉ before) :
    cutAt (c :: p) (before ++ (c :: p) ++ rest) = some (before, rest) := by
  -- the pattern cannot begin earlier, for its first character does not stand in front of it
  induction before with
  | nil =>
    have hprefix : (c :: p).isPrefixOf (c :: (p ++ rest)) = true := by
      rw [List.isPrefixOf_iff_prefix]
      exact List.prefix_append (c :: p) rest
    rw [List.nil_append, List.cons_append, cutAt, if_pos hprefix]
    simp
  | cons a before ih =>
    obtain ⟨hca, hbefore⟩ := List.ne_and_not_mem_of_not_mem_cons h
    have hprefix : ¬ (c :: p).isPrefixOf (a :: (before ++ (c :: p) ++ rest)) = true := by
      rw [List.isPrefixOf_iff_prefix, List.cons_prefix_cons]
      exact fun hp => hca hp.1
    rw [List.cons_append, List.cons_append, cutAt, if_neg hprefix, ih hbefore, Option.map_some]

theorem integer?_of_read? {s : List Char} {n : Nat} (h : Numeral.read? s = some n) :
    integer? s = if n < 0x8000000000000000 then some (n : Int) else none := by
  rw [integer?, Numeral.readSigned?_of_read? h, Option.filter_some]
  simp only [decide_eq_true_eq]
  congr 1
  rw [eq_iff_iff]
  omega

/-- A name that the configuration accepts has no blank in it. -/
theorem blank_notMem {name : String} (h : Config.isIdentifier name = true) :
    ' ' ∉ name.toList := by
  intro hmem
  rw [Config.isIdentifier, Bool.and_eq_true, List.all_eq_true] at h
  exact absurd (h.2 ' ' hmem) (by decide)

variable {t : VersionTable}

theorem known?_createSql (t : VersionTable) : known? t.createSql = some (.create t.name) := by
  rw [known?, VersionTable.createSql, between?_append]

theorem known?_initSql (t : VersionTable) : known? t.initSql = some (.insertZero t.name) := by
  have hinit : "INSERT INTO ".toList <+: t.initSql.toList := by
    rw [VersionTable.initSql, String.append_assoc]
    exact prefix_toList_append _ _
  have hcreate : between? "CREATE TABLE " " (Version INT)" t.initSql = none :=
    between?_eq_none (by decide +kernel) hinit
  rw [known?, hcreate, VersionTable.initSql, between?_append]

theorem prefix_update (table digits : String) :
    "UPDATE ".toList <+: ("UPDATE " ++ table ++ " SET Version = " ++ digits).toList := by
  rw [String.append_assoc, String.append_assoc]
  exact prefix_toList_append _ _

/-- An update of a table with a text for the number. -/
theorem known?_update {table digits : String} {version : Nat}
    (htable : Config.isIdentifier table = true)
    (hdigits : Numeral.read? digits.toList = some version) :
    known? ("UPDATE " ++ table ++ " SET Version = " ++ digits) =
      if version < 0x8000000000000000 then some (.update table version) else none := by
  have happend := between?_append "UPDATE " "" (table ++ " SET Version = " ++ digits)
  rw [String.append_empty, ← String.append_assoc, ← String.append_assoc] at happend
  -- what starts like an update is neither of the two other statements
  have hprefix := prefix_update table digits
  have hcreate : between? "CREATE TABLE " " (Version INT)"
      ("UPDATE " ++ table ++ " SET Version = " ++ digits) = none :=
    between?_eq_none (by decide +kernel) hprefix
  have hinsert : between? "INSERT INTO " " (Version) VALUES (0)"
      ("UPDATE " ++ table ++ " SET Version = " ++ digits) = none :=
    between?_eq_none (by decide +kernel) hprefix
  -- a table name has no blank in it, so the text is cut behind it
  have hcut : cutAt " SET Version = ".toList (table ++ " SET Version = " ++ digits).toList =
      some (table.toList, digits.toList) := by
    simp only [String.toList_append]
    exact cutAt_append (blank_notMem htable)
  simp only [known?, hcreate, hinsert, update?, happend, hcut, integer?_of_read? hdigits, bind,
    Option.bind_some, pure, String.ofList_toList]
  split
  · rfl
  · rfl

theorem known?_updateSql (ht : Config.isIdentifier t.name = true) (version : Nat) :
    known? (t.updateSql version) =
      if version < 0x8000000000000000 then some (.update t.name version) else none := by
  refine known?_update ht ?_
  rw [Numeral.ofNat, String.toList_ofList, Numeral.read?_digits]

theorem between?_existsSql (t : VersionTable) :
    between? countTablesStart "'" t.existsSql = some t.name :=
  between?_append ..

theorem between?_readSql (t : VersionTable) :
    between? "SELECT Version FROM " "" t.readSql = some t.name := by
  have happend := between?_append "SELECT Version FROM " "" t.name
  rwa [String.append_empty] at happend

/-- The query for the version does not count tables. -/
theorem between?_countTables_readSql (t : VersionTable) :
    between? countTablesStart "'" t.readSql = none :=
  between?_eq_none (by decide +kernel) (prefix_toList_append "SELECT Version FROM " t.name)

/-! ### Tables -/

theorem lookup_map (tables : List (String × List Json)) (table other : String) (rows : List Json) :
    (tables.map fun t => if t.1 == table then (t.1, rows) else t).lookup other =
      if other = table then (tables.lookup other).map fun _ => rows else tables.lookup other := by
  induction tables with
  | nil => simp
  | cons head rest ih =>
    obtain ⟨name, cells⟩ := head
    rw [List.map_cons, List.lookup_cons, List.lookup_cons, ih]
    -- a table of another name is passed over on both sides
    by_cases hother : other = name
    · obtain rfl := hother
      by_cases hname : other = table <;> simp [hname]
    · have hbeq : (other == name) = false := beq_eq_false_iff_ne.mpr hother
      have hbeq' :
          (other == (if name == table then (name, rows) else (name, cells)).1) = false := by
        split <;> exact hbeq
      simp only [hbeq, hbeq']

/-- A table has the rows that it was given last. -/
theorem rows?_setRows (db : MemoryDatabase) (table other : String) (rows : List Json) :
    (db.setRows table rows).rows? other = if other = table then some rows else db.rows? other := by
  -- a table that is there is changed in its place, and a new one is put behind all others
  unfold setRows
  split
  · next hthere =>
    rw [rows?, lookup_map]
    by_cases hother : other = table
    · obtain ⟨cells, hcells⟩ := Option.isSome_iff_exists.mp hthere
      rw [rows?] at hcells
      simp [hother, hcells]
    · simp [hother, rows?]
  · next hthere =>
    rw [Option.not_isSome_iff_eq_none, rows?] at hthere
    by_cases hother : other = table
    · simp [rows?, List.lookup_append, hother, hthere]
    · have hbeq : (other == table) = false := beq_eq_false_iff_ne.mpr hother
      simp [rows?, List.lookup_append, List.lookup_cons, hother, hbeq]

/-! ### Calls -/

variable {db next : MemoryDatabase} {sql : String} {n : Nat} {cause : DatabaseError}

/-- A statement that is run and known has changed the tables as it says. -/
theorem rows?_of_execute_known {known : Known} (hknown : known? sql = some known)
    (h : db.execute sql = .ok next) :
    ∃ changed, db.apply known = .ok changed ∧ next.rows? = changed.rows? := by
  unfold execute at h
  split at h
  · cases h
  · simp only [hknown, bind, Except.bind] at h
    cases happly : db.apply known with
    | error e => rw [happly] at h; cases h
    | ok changed =>
      rw [happly] at h
      obtain rfl := Except.ok.inj h
      exact ⟨changed, rfl, rfl⟩

/-- A statement that is run and not known has changed no table. -/
theorem rows?_of_execute_unknown (hunknown : known? sql = none) (h : db.execute sql = .ok next) :
    next.rows? = db.rows? := by
  unfold execute at h
  split at h
  · cases h
  · simp only [hunknown, bind, Except.bind] at h
    obtain rfl := Except.ok.inj h
    rfl

theorem execute_of_database_ok (h : database.execute sql db = (.ok n, next)) :
    db.execute sql = .ok next := by
  simp only [database] at h
  cases hexecute : db.execute sql with
  | ok changed =>
    rw [hexecute] at h
    exact congrArg Except.ok (Prod.mk.inj h).2
  | error e =>
    rw [hexecute] at h
    cases (Prod.mk.inj h).1

theorem eq_of_database_error (h : database.execute sql db = (.error cause, next)) : next = db := by
  simp only [database] at h
  cases hexecute : db.execute sql with
  | ok changed =>
    rw [hexecute] at h
    cases (Prod.mk.inj h).1
  | error e =>
    rw [hexecute] at h
    exact (Prod.mk.inj h).2.symm

/-! ### Serving a version table -/

/-- The database in memory that refuses the updates that it cannot read. -/
def strict : Database MemoryDatabase where
  execute sql db :=
    if "UPDATE ".toList.isPrefixOf sql.toList && (known? sql).isNone then
      (.error ⟨.execution, "unreadable update: " ++ sql⟩, db)
    else database.execute sql db
  query := database.query

theorem execute_of_strict_ok (h : strict.execute sql db = (.ok n, next)) :
    db.execute sql = .ok next := by
  simp only [strict] at h
  split at h
  · cases (Prod.mk.inj h).1
  · exact execute_of_database_ok h

theorem eq_of_strict_error (h : strict.execute sql db = (.error cause, next)) : next = db := by
  simp only [strict] at h
  split at h
  · exact (Prod.mk.inj h).2.symm
  · exact eq_of_database_error h

theorem strict_refuses_updateSql (ht : Config.isIdentifier t.name = true) {version : Nat}
    (h : ¬ version < 0x8000000000000000) :
    strict.execute (t.updateSql version) db ≠ (.ok n, next) := by
  have hprefix : "UPDATE ".toList.isPrefixOf (t.updateSql version).toList = true :=
    List.isPrefixOf_iff_prefix.mpr (prefix_update ..)
  simp only [strict, known?_updateSql ht, if_neg h, hprefix, Option.isNone_none, Bool.and_self,
    if_true]
  intro habs
  cases (Prod.mk.inj habs).1

theorem query_of_strict_ok {answer : Option Int} (h : strict.query sql db = (.ok answer, next)) :
    db.query sql = .ok answer := by
  simp only [strict, database] at h
  cases hquery : db.query sql with
  | ok value =>
    rw [hquery] at h
    have hanswer : (Except.ok value : Except DatabaseError (Option Int)) = .ok answer :=
      (Prod.mk.inj h).1
    rw [Except.ok.inj hanswer]
  | error e =>
    rw [hquery] at h
    cases (Prod.mk.inj h).1

/-- The tables with the name of the version table are counted. -/
theorem query_existsSql {count : Option Int} (h : db.query t.existsSql = .ok count) :
    count = some (if (db.rows? t.name).isSome then 1 else 0) := by
  obtain ⟨row, hfetch, rfl⟩ := Except.map_eq_ok_iff.mp h
  unfold fetch at hfetch
  split at hfetch
  · cases hfetch
  · rw [between?_existsSql] at hfetch
    rw [← Except.ok.inj hfetch]
    rfl

/-- The value in the first row of the version table is read. -/
theorem query_readSql {cells : List Json} {value : Option Int}
    (hrows : db.rows? t.name = some cells) (h : db.query t.readSql = .ok value) :
    value = cells.head?.bind Json.int? := by
  obtain ⟨first, hfetch, rfl⟩ := Except.map_eq_ok_iff.mp h
  unfold fetch at hfetch
  split at hfetch
  · cases hfetch
  · simp only [between?_countTables_readSql, between?_readSql, hrows] at hfetch
    cases cells with
    | nil =>
      rw [← Except.ok.inj hfetch]
      rfl
    | cons row rest =>
      -- the value in the row is an integer or null
      obtain ⟨value, hscalar, rfl⟩ := Except.map_eq_ok_iff.mp hfetch
      simp only [scalar] at hscalar
      split at hscalar
      · exact (Except.ok.inj hscalar).symm
      · split at hscalar
        · exact (Except.ok.inj hscalar).symm
        · cases hscalar
      · cases hscalar

/-- **The version table in memory**: the strict database in memory serves every version table whose
name the configuration accepts. -/
theorem served_strict (ht : Config.isIdentifier t.name = true) :
    t.Served strict fun db => db.rows? t.name where
  rows_query h := by rw [(Prod.mk.inj h).2]
  rows_refused h := by rw [eq_of_strict_error h]
  count_pos {db _ _} h := by
    rw [query_existsSql (query_of_strict_ok h)]
    cases db.rows? t.name <;> simp
  value_eq hrows h := query_readSql hrows (query_of_strict_ok h)
  rows_create hrows h := by
    obtain ⟨changed, happly, hnext⟩ :=
      rows?_of_execute_known (known?_createSql t) (execute_of_strict_ok h)
    simp only [apply, hrows] at happly
    rw [hnext, ← Except.ok.inj happly, rows?_setRows, if_pos rfl]
  rows_init hrows h := by
    obtain ⟨changed, happly, hnext⟩ :=
      rows?_of_execute_known (known?_initSql t) (execute_of_strict_ok h)
    simp only [apply, hrows] at happly
    rw [hnext, ← Except.ok.inj happly, rows?_setRows, if_pos rfl]
    rfl
  rows_update {version _ _ _ _} hrows h := by
    -- an update to a version of 64 bits or more is not known, so it is refused
    by_cases hversion : version < 0x8000000000000000
    · have hknown := known?_updateSql ht version
      rw [if_pos hversion] at hknown
      obtain ⟨changed, happly, hnext⟩ := rows?_of_execute_known hknown (execute_of_strict_ok h)
      simp only [apply, hrows] at happly
      rw [hnext, ← Except.ok.inj happly, rows?_setRows, if_pos rfl]
      rfl
    · exact absurd h (strict_refuses_updateSql ht hversion)

/-- A statement that is not known changes no table. -/
theorem leavesAlone_strict {table : String} (h : known? sql = none) :
    VersionTable.LeavesAlone strict (fun db => db.rows? table) sql := by
  intro db
  cases hexecute : strict.execute sql db with
  | mk answer next =>
    cases answer with
    | ok n => exact congrFun (rows?_of_execute_unknown h (execute_of_strict_ok hexecute)) table
    | error cause => rw [eq_of_strict_error hexecute]

end SchemaMigration.MemoryDatabase
