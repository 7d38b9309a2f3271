import SchemaMigration.Json
import SchemaMigration.Proofs.Database.Transcript
import SchemaMigration.VersionTable

/-!
# The version table in a database

`VersionTable.Served t d rows` states what a database `d` gives for the statements and queries of
the version table `t`, where `rows` are the rows of the table in a state, or `none` if there is no
such table.  Any call may be refused, at any moment and for any reason, and then it changes nothing
in the table; a call that is served has its usual meaning.

`ensure_cases` and `read_cases` list what comes of making and of reading the table on any database,
and `Served.rows_ensure_some`, `Served.rows_ensure_none` and `Served.read_version` what this means
where the table is served.
-/

namespace SchemaMigration

theorem Json.int?_eq_some_iff {v : Json} {n : Int} : v.int? = some n ↔ v = .int n := by
  unfold Json.int?
  split
  · simp [Json.int]
  · next hother =>
    constructor
    · intro h
      cases h
    · intro h
      exact absurd h (hother n)

namespace VersionTable

variable {σ : Type} {d : Database σ} {t : VersionTable} {s s' : σ}

/-! ### Making and reading the table -/

/-- What may come of making the table in state `s`, on any database. -/
inductive Ensures (d : Database σ) (t : VersionTable) (s : σ) (result : Except EngineError Bool)
    (s' : σ) : Prop where
  /-- the database does not say whether the table is there -/
  | unknown {cause : DatabaseError} (hquery : d.query t.existsSql s = (.error cause, s'))
      (hresult : result = .error (t.engineError cause))
  /-- the table is there -/
  | present {count : Option Int} (hquery : d.query t.existsSql s = (.ok count, s'))
      (hcount : 0 < count.getD 0) (hresult : result = .ok false)
  /-- the table has been made -/
  | created {count : Option Int} {s₁ : σ} (hquery : d.query t.existsSql s = (.ok count, s₁))
      (hcount : ¬ 0 < count.getD 0) (haccepts : d.Accepts [t.createSql, t.initSql] s₁ s')
      (hresult : result = .ok true)
  /-- the database refuses to make the table -/
  | uncreated {count : Option Int} {s₁ : σ} {cause : DatabaseError}
      (hquery : d.query t.existsSql s = (.ok count, s₁)) (hcount : ¬ 0 < count.getD 0)
      (hstops : d.StopsAt [] t.createSql cause s₁ s')
      (hresult : result = .error (t.engineError cause))
  /-- the database makes the table, but refuses to put the first version into it -/
  | unfilled {count : Option Int} {s₁ : σ} {cause : DatabaseError}
      (hquery : d.query t.existsSql s = (.ok count, s₁)) (hcount : ¬ 0 < count.getD 0)
      (hstops : d.StopsAt [t.createSql] t.initSql cause s₁ s')
      (hresult : result = .error (t.engineError cause))

theorem ensure_cases {result : Except EngineError Bool} {log : List LogRecord}
    (h : t.ensure d s = (result, log, s')) : t.Ensures d s result s' := by
  -- the calls are taken in the order in which they come: the query, then the two statements
  unfold ensure isThere ask at h
  cases hquery : d.query t.existsSql s with
  | mk answer s₁ =>
    rw [hquery] at h
    cases answer with
    | error cause =>
      obtain ⟨rfl, hrest⟩ := Prod.mk.inj h
      obtain ⟨-, rfl⟩ := Prod.mk.inj hrest
      exact .unknown hquery rfl
    | ok count =>
      by_cases hcount : 0 < count.getD 0
      · simp only [hcount, decide_true] at h
        obtain ⟨rfl, hrest⟩ := Prod.mk.inj h
        obtain ⟨-, rfl⟩ := Prod.mk.inj hrest
        exact .present hquery hcount rfl
      · simp only [hcount, decide_false] at h
        unfold create send at h
        cases hcreate : d.execute t.createSql s₁ with
        | mk answer s₂ =>
          rw [hcreate] at h
          cases answer with
          | error cause =>
            obtain ⟨rfl, hrest⟩ := Prod.mk.inj h
            obtain ⟨-, rfl⟩ := Prod.mk.inj hrest
            exact .uncreated hquery hcount (Database.stopsAt_nil hcreate) rfl
          | ok n =>
            cases hinit : d.execute t.initSql s₂ with
            | mk answer s₃ =>
              simp only [hinit] at h
              cases answer with
              | error cause =>
                obtain ⟨rfl, hrest⟩ := Prod.mk.inj h
                obtain ⟨-, rfl⟩ := Prod.mk.inj hrest
                exact .unfilled hquery hcount ⟨s₂, .single hcreate, hinit⟩ rfl
              | ok n =>
                obtain ⟨rfl, hrest⟩ := Prod.mk.inj h
                obtain ⟨-, rfl⟩ := Prod.mk.inj hrest
                exact .created hquery hcount (.cons hcreate (.single hinit)) rfl

theorem read_cases {result : Except EngineError Nat} (h : t.read d s = (result, s')) :
    (∃ value, d.query t.readSql s = (.ok value, s') ∧ result = t.version value) ∨
    ∃ cause, d.query t.readSql s = (.error cause, s') ∧ result = .error (t.engineError cause) := by
  unfold read ask at h
  cases hquery : d.query t.readSql s with
  | mk answer s₁ =>
    rw [hquery] at h
    cases answer with
    | ok value =>
      obtain ⟨rfl, rfl⟩ := Prod.mk.inj h
      exact .inl ⟨value, rfl, rfl⟩
    | error cause =>
      obtain ⟨rfl, rfl⟩ := Prod.mk.inj h
      exact .inr ⟨cause, rfl, rfl⟩

/-- The version is read from a value that is a natural number, and from no other. -/
theorem version_eq_ok {value : Option Int} {v : Nat} :
    t.version value = .ok v ↔ value = some (v : Int) := by
  cases value with
  | none => simp [version]
  | some i =>
    -- a negative value is refused, so that `toNat` loses nothing
    by_cases hi : i < 0
    · simp only [version, hi, if_true, reduceCtorEq, Option.some.injEq, false_iff]
      omega
    · simp only [version, hi, if_false, Except.ok.injEq, Option.some.injEq]
      omega

/-- Only an answer that is no integer makes the table corrupt. -/
theorem engineError_eq (t : VersionTable) (e : DatabaseError) :
    t.engineError e =
      if e.kind = .unexpectedResult then .corruptVersion t.name e.detail
      else .versionTable t.name e := by
  unfold engineError
  cases e.kind <;> rfl

theorem createSql_ne_initSql (t : VersionTable) : t.createSql ≠ t.initSql := by
  intro h
  have hhead := congrArg (fun sql => sql.toList.head?) h
  simp [createSql, initSql] at hhead

theorem updateSql_ne_initSql (t : VersionTable) (version : Nat) :
    t.updateSql version ≠ t.initSql := by
  intro h
  have hhead := congrArg (fun sql => sql.toList.head?) h
  simp [updateSql, initSql] at hhead

/-! ### Databases that serve the table -/

/-- The database `d` serves the version table: `rows` gives its rows, or `none` if there is no such
table.  What is asked of `d` is what the statements mean when they are accepted, and that nothing
else changes the table. -/
structure Served (t : VersionTable) (d : Database σ) (rows : σ → Option (List Json)) : Prop where
  /-- a query changes nothing -/
  rows_query : ∀ {sql s answer s'}, d.query sql s = (answer, s') → rows s' = rows s
  /-- a statement that is refused changes nothing -/
  rows_refused : ∀ {sql s cause s'}, d.execute sql s = (.error cause, s') → rows s' = rows s
  /-- the tables of this name are counted -/
  count_pos : ∀ {s count s'}, d.query t.existsSql s = (.ok count, s') →
    (0 < count.getD 0 ↔ (rows s).isSome)
  /-- the value in the first row is read -/
  value_eq : ∀ {s cells value s'}, rows s = some cells → d.query t.readSql s = (.ok value, s') →
    value = cells.head?.bind Json.int?
  /-- a table that is made is empty -/
  rows_create : ∀ {s n s'}, rows s = none → d.execute t.createSql s = (.ok n, s') →
    rows s' = some []
  /-- the first version is put after all rows -/
  rows_init : ∀ {s cells n s'}, rows s = some cells → d.execute t.initSql s = (.ok n, s') →
    rows s' = some (cells ++ [.nat 0])
  /-- a version is recorded in all rows -/
  rows_update : ∀ {version s cells n s'}, rows s = some cells →
    d.execute (t.updateSql version) s = (.ok n, s') →
    rows s' = some (cells.map fun _ => .nat version)

/-- A statement leaves the rows of a table as they are, whether it is accepted or not. -/
def LeavesAlone (d : Database σ) (rows : σ → Option (List Json)) (sql : String) : Prop :=
  ∀ s, rows (d.execute sql s).2 = rows s

namespace Served

variable {rows : σ → Option (List Json)} {cells : List Json} (hd : t.Served d rows)

theorem rows_accepts {sqls : List String} (hsqls : ∀ sql ∈ sqls, LeavesAlone d rows sql)
    (h : d.Accepts sqls s s') : rows s' = rows s := by
  induction h with
  | nil => rfl
  | @cons sql rest s s₁ s₂ n hfirst _ ih =>
    have hsql := hsqls sql (List.mem_cons_self ..) s
    rw [hfirst] at hsql
    rw [ih fun sql hrest => hsqls sql (List.mem_cons_of_mem _ hrest), hsql]

include hd

theorem rows_stopsAt {before : List String} {sql : String} {cause : DatabaseError}
    (hbefore : ∀ sql ∈ before, LeavesAlone d rows sql) (h : d.StopsAt before sql cause s s') :
    rows s' = rows s := by
  obtain ⟨s₁, haccepts, hsql⟩ := h
  rw [hd.rows_refused hsql, rows_accepts hbefore haccepts]

/-- Making a table that is there changes nothing. -/
theorem rows_ensure_some {result : Except EngineError Bool} (h : t.Ensures d s result s')
    (hrows : rows s = some cells) : rows s' = some cells := by
  -- the table is there, so the database does not say that it is missing
  have habsent {count s₁} (hquery : d.query t.existsSql s = (.ok count, s₁))
      (hcount : ¬ 0 < count.getD 0) : False := by
    rw [hd.count_pos hquery, hrows] at hcount
    exact hcount rfl
  cases h with
  | unknown hquery => rw [hd.rows_query hquery, hrows]
  | present hquery => rw [hd.rows_query hquery, hrows]
  | created hquery hcount => exact (habsent hquery hcount).elim
  | uncreated hquery hcount => exact (habsent hquery hcount).elim
  | unfilled hquery hcount => exact (habsent hquery hcount).elim

/-- A table that is not there is made with the version zero in it.  If this fails it may be left
without a row, and then the database has refused to put the version into it. -/
theorem rows_ensure_none {result : Except EngineError Bool} (h : t.Ensures d s result s')
    (hrows : rows s = none) :
    (result = .ok true ∧ rows s' = some [.nat 0]) ∨
      (∃ e, result = .error e) ∧ (rows s' = none ∨ rows s' = some []) := by
  -- what is there afterwards depends on how many of the two statements were accepted
  cases h with
  | unknown hquery hresult => exact .inr ⟨⟨_, hresult⟩, .inl (by rw [hd.rows_query hquery, hrows])⟩
  | present hquery hcount =>
    rw [hd.count_pos hquery, hrows] at hcount
    exact absurd hcount (by decide)
  | created hquery _ haccepts hresult =>
    refine .inl ⟨hresult, ?_⟩
    have hrows₁ := (hd.rows_query hquery).trans hrows
    obtain _ | ⟨hcreate, _ | ⟨hinit, _ | _⟩⟩ := haccepts
    exact hd.rows_init (hd.rows_create hrows₁ hcreate) hinit
  | uncreated hquery _ hstops hresult =>
    refine .inr ⟨⟨_, hresult⟩, .inl ?_⟩
    rw [hd.rows_stopsAt (by simp) hstops, hd.rows_query hquery, hrows]
  | unfilled hquery _ hstops hresult =>
    refine .inr ⟨⟨_, hresult⟩, .inr ?_⟩
    have hrows₁ := (hd.rows_query hquery).trans hrows
    obtain ⟨s₂, _ | ⟨hcreate, _ | _⟩, hinit⟩ := hstops
    rw [hd.rows_refused hinit, hd.rows_create hrows₁ hcreate]

theorem rows_read {result : Except EngineError Nat} (h : t.read d s = (result, s')) :
    rows s' = rows s := by
  obtain ⟨value, hquery, -⟩ | ⟨cause, hquery, -⟩ := read_cases h
  · exact hd.rows_query hquery
  · exact hd.rows_query hquery

/-- A version that is read is the number in the first row. -/
theorem read_version {v : Nat} (h : t.read d s = (.ok v, s')) (hrows : rows s = some cells) :
    cells.head?.bind Json.int? = some (v : Int) := by
  obtain ⟨value, hquery, hresult⟩ | ⟨cause, -, hresult⟩ := read_cases h
  · rw [← hd.value_eq hrows hquery]
    exact version_eq_ok.mp hresult.symm
  · cases hresult

/-! ### Databases over one that serves the table -/

theorem transcribed : t.Served d.transcribed fun x => rows x.1 where
  rows_query h := hd.rows_query (Database.query_of_transcribed h).1
  rows_refused h := hd.rows_refused (Database.execute_of_transcribed_error h).1
  count_pos h := hd.count_pos (Database.query_of_transcribed h).1
  value_eq hrows h := hd.value_eq hrows (Database.query_of_transcribed h).1
  rows_create hrows h := hd.rows_create hrows (Database.execute_of_transcribed_ok h).1
  rows_init hrows h := hd.rows_init hrows (Database.execute_of_transcribed_ok h).1
  rows_update hrows h := hd.rows_update hrows (Database.execute_of_transcribed_ok h).1

theorem disrupted (refuses : Nat → Option DatabaseError) :
    t.Served (d.disrupted refuses) fun x => rows x.1 where
  rows_query {_ x _ y} h := by
    obtain h | ⟨-, h⟩ := Database.query_of_disrupted h
    · exact hd.rows_query h
    · exact congrArg rows h
  rows_refused {_ x _ y} h := by
    obtain h | ⟨-, h⟩ := Database.execute_of_disrupted h
    · exact hd.rows_refused h
    · exact congrArg rows h
  count_pos h := hd.count_pos (Database.query_of_disrupted_ok h)
  value_eq hrows h := hd.value_eq hrows (Database.query_of_disrupted_ok h)
  rows_create hrows h := hd.rows_create hrows (Database.execute_of_disrupted_ok h)
  rows_init hrows h := hd.rows_init hrows (Database.execute_of_disrupted_ok h)
  rows_update hrows h := hd.rows_update hrows (Database.execute_of_disrupted_ok h)

end Served

namespace LeavesAlone

variable {rows : σ → Option (List Json)} {sql : String} (h : LeavesAlone d rows sql)
include h

theorem transcribed : LeavesAlone d.transcribed (fun x => rows x.1) sql := fun x => h x.1

theorem disrupted (refuses : Nat → Option DatabaseError) :
    LeavesAlone (d.disrupted refuses) (fun x => rows x.1) sql := by
  intro x
  obtain hcall | ⟨-, hcall⟩ := Database.execute_of_disrupted
    (Prod.eta ((d.disrupted refuses).execute sql x)).symm
  · have hx := h x.1
    rw [hcall] at hx
    exact hx
  · exact congrArg rows hcall

end LeavesAlone

end VersionTable
end SchemaMigration
