import SchemaMigration.Database.Stored
import SchemaMigration.Proofs.Database.Memory

/-!
# The version table in a database that refuses nothing

`VersionTable.DrivenWhile t d rows calm` states what a driver gives for the calls that open a
version table as long as it is `calm`, which is when it refuses none of them.  The query for the
version alone may still have no answer that it can give: `VersionTable.Fetches` says what a driver
makes of the contents of the first row.  `VersionTable.ServedWhile` states the same of a database,
and the database behind such a driver has it (`DrivenWhile.servedWhile`), because the errors of the
driver are told apart in the right way (`Fetches.reads`).

The driver of a database in memory is calm when there are no rules and no file
(`StoredDatabase.drivenWhile`).
-/

namespace SchemaMigration

namespace VersionTable

variable {σ : Type}

/-! ### Drivers -/

/-- What a driver gives when it is asked for the first value of a row as an integer.  It has an
error of its own for a row that is not there, and errors about the value for what is no integer of
64 bits; a null is no error. -/
inductive Fetches : Option Json → Except DriverError (Option Int) → Prop
  | missing {text : String} : Fetches none (.error ⟨.noRows, text⟩)
  | null : Fetches (some .null) (.ok none)
  | integer {n : Int} (h : n < 0x8000000000000000) : Fetches (some (.int n)) (.ok (some n))
  | other {cell : Json} {e : DriverError} (hkind : e.kind ≠ .noRows ∧ e.kind ≠ .other)
      (hnull : cell ≠ .null)
      (h : ∀ n : Int, -0x8000000000000000 ≤ n → n < 0x8000000000000000 → cell ≠ .int n) :
    Fetches (some cell) (.error e)

/-- As long as it is calm, the driver refuses no call that opens the version table: `rows` gives
the rows of the table, or `none` if there is no such table. -/
structure DrivenWhile (t : VersionTable) (d : Driver σ) (rows : σ → Option (List Json))
    (calm : σ → Prop) : Prop where
  /-- the connection can be used -/
  unlocked : ∀ {s}, calm s → d.poisoned? s = none
  /-- the tables of this name are counted -/
  queryRow_existsSql : ∀ {s}, calm s → ∃ count, d.queryRow t.existsSql s = (.ok count, s) ∧
    (0 < count.getD 0 ↔ (rows s).isSome)
  /-- the first row is fetched -/
  queryRow_readSql : ∀ {s cells}, calm s → rows s = some cells →
    ∃ fetched, d.queryRow t.readSql s = (fetched, s) ∧ Fetches cells.head? fetched
  /-- a table that is not there is made, without rows -/
  execute_createSql : ∀ {s}, calm s → rows s = none →
    ∃ n s', d.execute t.createSql s = (.ok n, s') ∧ calm s' ∧ rows s' = some []
  /-- the first version is put after all rows -/
  execute_initSql : ∀ {s cells}, calm s → rows s = some cells →
    ∃ n s', d.execute t.initSql s = (.ok n, s') ∧ calm s' ∧ rows s' = some (cells ++ [.nat 0])

/-! ### Databases -/

/-- What a database answers when it is asked for the integer in a row.  There is none without a row
or in a null, and what is no integer of 64 bits cannot be answered. -/
inductive Reads : Option Json → Except DatabaseError (Option Int) → Prop
  | missing : Reads none (.ok none)
  | null : Reads (some .null) (.ok none)
  | integer {n : Int} (h : n < 0x8000000000000000) : Reads (some (.int n)) (.ok (some n))
  | other {cell : Json} {detail : String} (hnull : cell ≠ .null)
      (h : ∀ n : Int, -0x8000000000000000 ≤ n → n < 0x8000000000000000 → cell ≠ .int n) :
    Reads (some cell) (.error ⟨.unexpectedResult, detail⟩)

/-- As long as it is calm, the database refuses no call that opens the version table: `rows` gives
the rows of the table, or `none` if there is no such table. -/
structure ServedWhile (t : VersionTable) (d : Database σ) (rows : σ → Option (List Json))
    (calm : σ → Prop) : Prop where
  /-- the tables of this name are counted -/
  query_existsSql : ∀ {s}, calm s → ∃ count, d.query t.existsSql s = (.ok count, s) ∧
    (0 < count.getD 0 ↔ (rows s).isSome)
  /-- the first row is read -/
  query_readSql : ∀ {s cells}, calm s → rows s = some cells →
    ∃ answer, d.query t.readSql s = (answer, s) ∧ Reads cells.head? answer
  /-- a table that is not there is made, without rows -/
  execute_createSql : ∀ {s}, calm s → rows s = none →
    ∃ n s', d.execute t.createSql s = (.ok n, s') ∧ calm s' ∧ rows s' = some []
  /-- the first version is put after all rows -/
  execute_initSql : ∀ {s cells}, calm s → rows s = some cells →
    ∃ n s', d.execute t.initSql s = (.ok n, s') ∧ calm s' ∧ rows s' = some (cells ++ [.nat 0])

/-! ### The database behind a driver -/

/-- The errors of a driver are told apart: no row is no value, and an error about the value is a
result that is not expected. -/
theorem Fetches.reads {row : Option Json} {fetched : Except DriverError (Option Int)}
    (h : Fetches row fetched) (sql : String) : Reads row (Driver.scalar sql fetched) := by
  cases h with
  | missing => exact .missing
  | null => exact .null
  | integer hn => exact .integer hn
  | @other cell e hkind hnull hother =>
    have hscalar : Driver.scalar sql (.error e) = .error ⟨.unexpectedResult, e.textFor sql⟩ := by
      obtain ⟨hrows, hrest⟩ := hkind
      unfold Driver.scalar
      cases hkind : e.kind <;> simp_all
    rw [hscalar]
    exact .other hnull hother

theorem query_of_queryRow {d : Driver σ} {sql : String} {s s' : σ}
    {fetched : Except DriverError (Option Int)} (hlock : d.poisoned? s = none)
    (h : d.queryRow sql s = (fetched, s')) :
    d.database.query sql s = (Driver.scalar sql fetched, s') := by
  simp only [Driver.database, Driver.locked, hlock, h]

theorem execute_of_driver {d : Driver σ} {sql : String} {s s' : σ} {n : Nat}
    (hlock : d.poisoned? s = none) (h : d.execute sql s = (.ok n, s')) :
    d.database.execute sql s = (.ok n, s') := by
  simp only [Driver.database, Driver.locked, hlock, h, Driver.affected]

/-- **The database behind a driver**: as long as the driver is calm, the database serves the version
table. -/
theorem DrivenWhile.servedWhile {t : VersionTable} {d : Driver σ} {rows : σ → Option (List Json)}
    {calm : σ → Prop} (h : t.DrivenWhile d rows calm) : t.ServedWhile d.database rows calm where
  query_existsSql hs := by
    obtain ⟨count, hquery, hcount⟩ := h.queryRow_existsSql hs
    exact ⟨count, query_of_queryRow (h.unlocked hs) hquery, hcount⟩
  query_readSql hs hrows := by
    obtain ⟨fetched, hquery, hfetched⟩ := h.queryRow_readSql hs hrows
    exact ⟨_, query_of_queryRow (h.unlocked hs) hquery, hfetched.reads t.readSql⟩
  execute_createSql hs hrows := by
    obtain ⟨n, s', hexecute, hcreated⟩ := h.execute_createSql hs hrows
    exact ⟨n, s', execute_of_driver (h.unlocked hs) hexecute, hcreated⟩
  execute_initSql hs hrows := by
    obtain ⟨n, s', hexecute, hfilled⟩ := h.execute_initSql hs hrows
    exact ⟨n, s', execute_of_driver (h.unlocked hs) hexecute, hfilled⟩

end VersionTable

/-! ### In memory -/

namespace MemoryDatabase

variable {db next : MemoryDatabase} {t : VersionTable} {sql : String} {cells : List Json}

theorem failing?_eq_none (h : db.rules = []) (call sql : String) : db.failing? call sql = none := by
  rw [failing?, h]
  rfl

theorem fetch_existsSql_of_calm (h : db.rules = []) (t : VersionTable) :
    db.fetch t.existsSql = .ok (some (some (if (db.rows? t.name).isSome then 1 else 0))) := by
  rw [fetch, failing?_eq_none h, between?_existsSql]

/-- The integer in the first of some rows. -/
def firstScalar : List Json → Except MemoryFailure (Option (Option Int))
  | [] => .ok none
  | row :: _ => (scalar row).map some

theorem fetch_readSql_of_calm (h : db.rules = []) (hrows : db.rows? t.name = some cells) :
    db.fetch t.readSql = firstScalar cells := by
  rw [fetch, failing?_eq_none h, between?_countTables_readSql, between?_readSql]
  simp only [hrows]
  cases cells <;> rfl

theorem query_existsSql_of_calm (h : db.rules = []) (t : VersionTable) :
    db.query t.existsSql = .ok (some (if (db.rows? t.name).isSome then 1 else 0)) := by
  rw [query, fetch_existsSql_of_calm h]
  rfl

theorem query_readSql_of_calm (h : db.rules = []) (hrows : db.rows? t.name = some cells) :
    db.query t.readSql = (firstScalar cells).map Option.join := by
  rw [query, fetch_readSql_of_calm h hrows]

/-- A row is null, an integer of 64 bits, or something else, and only the last has no answer. -/
theorem scalar_cases (row : Json) :
    (row = .null ∧ scalar row = .ok none) ∨
      (∃ n : Int, row = .int n ∧ n < 0x8000000000000000 ∧ scalar row = .ok (some n)) ∨
      ∃ text, row ≠ .null ∧
        (∀ n : Int, -0x8000000000000000 ≤ n → n < 0x8000000000000000 → row ≠ .int n) ∧
        scalar row = .error (.noInteger text) := by
  cases row with
  | null => exact .inl ⟨rfl, rfl⟩
  | number x =>
    -- the other values are not integers at all
    cases x with
    | int n =>
      by_cases hn : n < 0x8000000000000000
      · exact .inr (.inl ⟨n, rfl, hn, if_pos hn⟩)
      · refine .inr (.inr ⟨_, by simp, fun k _ hk heq => hn ?_, if_neg hn⟩)
        obtain rfl : n = k := by simpa [Json.int] using heq
        exact hk
    | float x => exact .inr (.inr ⟨_, by simp, by simp [Json.int], rfl⟩)
  | _ => exact .inr (.inr ⟨_, by simp, by simp [Json.int], rfl⟩)

theorem execute_of_calm (h : db.rules = []) {known : Known} (hknown : known? sql = some known)
    (happly : db.apply known = .ok next) :
    db.execute sql = .ok { next with executed := next.executed ++ [sql] } := by
  rw [execute, failing?_eq_none h]
  simp only [hknown, happly]
  rfl

theorem rules_setRows (db : MemoryDatabase) (table : String) (rows : List Json) :
    (db.setRows table rows).rules = db.rules := by
  unfold setRows
  split <;> rfl

/-- Without rules, a version table that is not there is made. -/
theorem exists_execute_createSql (h : db.rules = []) (hrows : db.rows? t.name = none) :
    ∃ next, db.execute t.createSql = .ok next ∧ next.rules = [] ∧
      next.rows? t.name = some [] := by
  have happly : db.apply (.create t.name) = .ok (db.setRows t.name []) := by
    simp only [apply, hrows]
  refine ⟨_, execute_of_calm h (known?_createSql t) happly, (rules_setRows ..).trans h, ?_⟩
  exact (rows?_setRows ..).trans (if_pos rfl)

/-- Without rules, the first version is put into a version table that is there. -/
theorem exists_execute_initSql (h : db.rules = []) (hrows : db.rows? t.name = some cells) :
    ∃ next, db.execute t.initSql = .ok next ∧ next.rules = [] ∧
      next.rows? t.name = some (cells ++ [.nat 0]) := by
  have happly : db.apply (.insertZero t.name) = .ok (db.setRows t.name (cells ++ [.nat 0])) := by
    simp only [apply, hrows]
    rfl
  refine ⟨_, execute_of_calm h (known?_initSql t) happly, (rules_setRows ..).trans h, ?_⟩
  exact (rows?_setRows ..).trans (if_pos rfl)

end MemoryDatabase

/-! ### Behind a driver without a file -/

namespace StoredDatabase

variable {x : StoredDatabase × FileTree} {cells : List Json}

/-- The driver has an error of its own for each way in which there is no integer. -/
theorem fetches_firstScalar (cells : List Json) :
    VersionTable.Fetches cells.head? (fetched (MemoryDatabase.firstScalar cells)) := by
  cases cells with
  | nil => exact .missing
  | cons row rest =>
    obtain ⟨rfl, h⟩ | ⟨n, rfl, hn, h⟩ | ⟨text, hnull, hother, h⟩ :=
      MemoryDatabase.scalar_cases row
    · rw [MemoryDatabase.firstScalar, h]
      exact .null
    · rw [MemoryDatabase.firstScalar, h]
      exact .integer hn
    · rw [MemoryDatabase.firstScalar, h]
      exact .other ⟨by simp [errorOf], by simp [errorOf]⟩ hnull hother

theorem queryRow_existsSql_of_calm (h : x.1.memory.rules = []) (t : VersionTable) :
    ∃ count, driver.queryRow t.existsSql x = (.ok count, x) ∧
      (0 < count.getD 0 ↔ (x.1.memory.rows? t.name).isSome) := by
  refine ⟨_, congrArg (fetched ·, x) (MemoryDatabase.fetch_existsSql_of_calm h t), ?_⟩
  cases x.1.memory.rows? t.name <;> simp

theorem queryRow_readSql_of_calm {t : VersionTable} (h : x.1.memory.rules = [])
    (hrows : x.1.memory.rows? t.name = some cells) :
    ∃ fetched, driver.queryRow t.readSql x = (fetched, x) ∧
      VersionTable.Fetches cells.head? fetched :=
  ⟨_, congrArg (fetched ·, x) (MemoryDatabase.fetch_readSql_of_calm h hrows),
    fetches_firstScalar cells⟩

/-- The rows of a table. -/
def rowsOf (table : String) (x : StoredDatabase × FileTree) : Option (List Json) :=
  x.1.memory.rows? table

/-- A driver without rules is calm as long as it can keep the states that it gets to. -/
theorem drivenWhile_of {calm : StoredDatabase × FileTree → Prop}
    (hrules : ∀ {x}, calm x → x.1.memory.rules = [])
    (hexecute : ∀ {x sql memory}, calm x → x.1.memory.execute sql = .ok memory →
      memory.rules = [] → ∃ y, driver.execute sql x = (.ok 1, y) ∧ calm y ∧ y.1.memory = memory)
    (t : VersionTable) : t.DrivenWhile driver (rowsOf t.name) calm where
  unlocked _ := rfl
  queryRow_existsSql h := queryRow_existsSql_of_calm (hrules h) t
  queryRow_readSql h hrows := queryRow_readSql_of_calm (hrules h) hrows
  execute_createSql {x} h hrows := by
    obtain ⟨_, hmemory, hcalm, hrows'⟩ :=
      MemoryDatabase.exists_execute_createSql (hrules h) hrows
    obtain ⟨y, hy, hcalm', rfl⟩ := hexecute h hmemory hcalm
    exact ⟨1, y, hy, hcalm', hrows'⟩
  execute_initSql {x cells} h hrows := by
    obtain ⟨_, hmemory, hcalm, hrows'⟩ := MemoryDatabase.exists_execute_initSql (hrules h) hrows
    obtain ⟨y, hy, hcalm', rfl⟩ := hexecute h hmemory hcalm
    exact ⟨1, y, hy, hcalm', hrows'⟩

/-- A driver without a file has no state to keep. -/
theorem drivenWhile (t : VersionTable) : t.DrivenWhile driver (rowsOf t.name)
    fun x => x.1.path = none ∧ x.1.memory.rules = [] := by
  refine drivenWhile_of (fun h => h.2) (fun {x sql memory} h hmemory hrules => ?_) t
  refine ⟨({ x.1 with memory }, x.2), ?_, ⟨h.1, hrules⟩, rfl⟩
  simp only [driver, hmemory, save, h.1]

end StoredDatabase
end SchemaMigration
