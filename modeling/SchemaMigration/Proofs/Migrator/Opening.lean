import SchemaMigration.Migrator
import SchemaMigration.Proofs.Database.Calm
import SchemaMigration.Proofs.Result

/-!
# Opening a migrator on a database that refuses nothing

What comes of opening a migrator depends only on the version table, and here on nothing but its
first row.  `VersionTable.Classifies` is the verdict on such a row, and `bind_classifies` puts
together the verdicts on all states that a database can be in, with and without making the table.
The calls are read off the transcript, so that a state that is only looked at is seen to be left as
it is.  `opening_classifies` says this of the database behind a driver, from what the driver
fetches.
-/

namespace SchemaMigration

namespace VersionTable

variable {σ : Type} {d : Database σ} {t : VersionTable} {rows : σ → Option (List Json)}
  {calm : σ → Prop} {s s' : σ} {cells : List Json} {sql : String} {calls : List Exchange}

/-! ### Single calls -/

theorem ask_transcribed {answer : Except DatabaseError (Option Int)}
    (h : d.query sql s = (answer, s')) :
    t.ask d.transcribed sql (s, calls) =
      (answer.mapError t.engineError, s', calls ++ [⟨.query sql, Database.refusal? answer⟩]) := by
  simp only [ask, Database.transcribed, h]
  cases answer <;> rfl

theorem send_transcribed {n : Nat} (h : d.execute sql s = (.ok n, s')) :
    t.send d.transcribed sql (s, calls) = (.ok (), s', calls ++ [.accepted sql]) := by
  simp only [send, Database.transcribed, h]
  rfl

/-! ### The verdict on a row -/

/-- The verdict on the first row of a version table: a number that 64 bits with a sign can hold is
the version, and anything else is corrupt. -/
structure Classifies (t : VersionTable) (row : Option Json) (verdict : Except EngineError Nat) :
    Prop where
  ok_iff : ∀ v, verdict = .ok v ↔ row = some (.nat v) ∧ v < 0x8000000000000000
  corrupt : ∀ e, verdict = .error e → ∃ found, e = .corruptVersion t.name found

theorem classifies_of_corrupt {row : Option Json} (found : String)
    (h : ∀ v : Nat, v < 0x8000000000000000 → row ≠ some (.nat v)) :
    t.Classifies row (.error (.corruptVersion t.name found)) where
  ok_iff v := ⟨nofun, fun ⟨hrow, hv⟩ => absurd hrow (h v hv)⟩
  corrupt _ he := ⟨found, (Except.error.inj he).symm⟩

/-- An integer is the version unless it is negative. -/
theorem classifies_int {n : Int} (hn : n < 0x8000000000000000) :
    t.Classifies (some (.int n)) (t.version (some n)) := by
  by_cases hneg : n < 0
  · rw [version, if_pos hneg]
    refine classifies_of_corrupt _ fun v _ hv => ?_
    have hnv : n = v := by simpa [Json.nat, Json.int] using hv
    omega
  · rw [version, if_neg hneg]
    constructor
    · intro v
      simp only [Except.ok.injEq, Option.some.injEq, Json.nat, Json.int, Json.number.injEq,
        Number.int.injEq]
      omega
    · intro e he
      cases he

/-- The verdict on a row is passed on what the database answers when it is asked for it. -/
theorem Reads.classifies {row : Option Json} {answer : Except DatabaseError (Option Int)}
    (h : Reads row answer) : t.Classifies row (answer.mapError t.engineError >>= t.version) := by
  cases h with
  | missing => exact classifies_of_corrupt _ fun _ _ => nofun
  | null => exact classifies_of_corrupt _ fun _ _ => nofun
  | integer hn => exact classifies_int hn
  | other hnull hother =>
    refine classifies_of_corrupt _ fun v hv hrow => ?_
    exact hother v (by omega) (by omega) (Option.some.inj hrow)

namespace ServedWhile

variable (hd : t.ServedWhile d rows calm)
include hd

/-! ### Using the table -/

/-- Whether the table is there is found out with one query. -/
theorem isThere_transcribed (hs : calm s) :
    t.isThere d.transcribed (s, []) = (.ok (rows s).isSome, s, [⟨.query t.existsSql, none⟩]) := by
  obtain ⟨count, hquery, hcount⟩ := hd.query_existsSql hs
  have hdecide : decide (0 < count.getD 0) = (rows s).isSome := by
    rw [Bool.eq_iff_iff, decide_eq_true_iff]
    exact hcount
  rw [isThere, ask_transcribed hquery]
  simp only [Except.mapError, hdecide]
  rfl

/-- The verdict on the first row comes of one query. -/
theorem read_transcribed (hs : calm s) (hrows : rows s = some cells) (calls : List Exchange) :
    ∃ verdict refusal, t.Classifies cells.head? verdict ∧ t.read d.transcribed (s, calls) =
      (verdict, s, calls ++ [⟨.query t.readSql, refusal⟩]) := by
  obtain ⟨answer, hquery, hreads⟩ := hd.query_readSql hs hrows
  refine ⟨_, Database.refusal? answer, hreads.classifies, ?_⟩
  rw [read, ask_transcribed hquery]
  cases answer <;> rfl

/-- A table that is there is not made. -/
theorem ensure_present (hs : calm s) (hrows : rows s = some cells) :
    t.ensure d.transcribed (s, []) = (.ok false, [], s, [⟨.query t.existsSql, none⟩]) := by
  rw [ensure, hd.isThere_transcribed hs, hrows]
  rfl

/-- A table that is not there is made with version zero in its only row. -/
theorem ensure_absent (hs : calm s) (hrows : rows s = none) :
    ∃ s', calm s' ∧ rows s' = some [.nat 0] ∧
      t.ensure d.transcribed (s, []) = (.ok true, [t.createRecord], s',
        [⟨.query t.existsSql, none⟩, .accepted t.createSql, .accepted t.initSql]) := by
  obtain ⟨n, s₁, hcreate, hcalm₁, hrows₁⟩ := hd.execute_createSql hs hrows
  obtain ⟨n', s₂, hinit, hcalm₂, hrows₂⟩ := hd.execute_initSql hcalm₁ hrows₁
  refine ⟨s₂, hcalm₂, hrows₂, ?_⟩
  rw [ensure, hd.isThere_transcribed hs, hrows]
  simp only [Option.isSome_none, create, send_transcribed hcreate, send_transcribed hinit]
  rfl

end ServedWhile
end VersionTable

namespace Migrator

variable {σ : Type} {d : Database σ} {t : VersionTable} {rows : σ → Option (List Json)}
  {calm : σ → Prop} {s : σ} {cells : List Json} {ds : List Descriptor} {bootstrap : Bool}

/-! ### Opening -/

/-- A migrator is opened on a table that is there by two queries, which give the verdict on its
first row, in the same way whether a missing table would be made or not. -/
theorem bind_present (hd : t.ServedWhile d rows calm) (hs : calm s) (hrows : rows s = some cells)
    (ds : List Descriptor) (bootstrap : Bool) :
    ∃ verdict log refusal, t.Classifies cells.head? verdict ∧
      bind d.transcribed ds t bootstrap (s, []) = (verdict.map fun v => ⟨t, ds, v, true⟩, log, s,
        [⟨.query t.existsSql, none⟩, ⟨.query t.readSql, refusal⟩]) := by
  obtain ⟨verdict, refusal, hverdict, hread⟩ :=
    hd.read_transcribed hs hrows [⟨.query t.existsSql, none⟩]
  have hstored : storedVersion d.transcribed t bootstrap (s, []) =
      (verdict.map some, [], s, [⟨.query t.existsSql, none⟩, ⟨.query t.readSql, refusal⟩]) := by
    -- with a table that is there both ways of opening make the same two calls
    cases bootstrap with
    | true =>
      simp only [storedVersion, if_true, hd.ensure_present hs hrows, hread]
      cases verdict <;> rfl
    | false =>
      simp only [storedVersion, Bool.false_eq_true, if_false, hd.isThere_transcribed hs, hrows,
        Option.isSome_some, hread]
      cases verdict <;> rfl
  rw [bind, hstored]
  cases verdict with
  | error e => exact ⟨.error e, _, refusal, hverdict, rfl⟩
  | ok v => exact ⟨.ok v, _, refusal, hverdict, rfl⟩

/-- A missing table that is made holds version zero, and this is read back. -/
theorem bind_made_calm (hd : t.ServedWhile d rows calm) (hs : calm s) (hrows : rows s = none)
    (ds : List Descriptor) :
    ∃ log s' refusal, calm s' ∧ rows s' = some [.nat 0] ∧ bind d.transcribed ds t true (s, []) =
      (.ok ⟨t, ds, 0, true⟩, log, s', [⟨.query t.existsSql, none⟩, .accepted t.createSql,
        .accepted t.initSql, ⟨.query t.readSql, refusal⟩]) := by
  obtain ⟨s', hcalm, hrows', hensure⟩ := hd.ensure_absent hs hrows
  obtain ⟨verdict, refusal, hverdict, hread⟩ := hd.read_transcribed hcalm hrows'
    [⟨.query t.existsSql, none⟩, .accepted t.createSql, .accepted t.initSql]
  -- what has been written is the version zero
  obtain rfl : verdict = .ok 0 := (hverdict.ok_iff 0).mpr ⟨rfl, by decide⟩
  have hstored : storedVersion d.transcribed t true (s, []) =
      (.ok (some 0), [t.createRecord], s', [⟨.query t.existsSql, none⟩, .accepted t.createSql,
        .accepted t.initSql, ⟨.query t.readSql, refusal⟩]) := by
    simp only [storedVersion, if_true, hensure, hread]
    rfl
  rw [bind, hstored]
  exact ⟨_, s', refusal, hcalm, hrows', rfl⟩

theorem bind_made (hd : t.ServedWhile d rows calm) (hs : calm s) (hrows : rows s = none)
    (ds : List Descriptor) :
    ∃ log s' refusal, rows s' = some [.nat 0] ∧ bind d.transcribed ds t true (s, []) =
      (.ok ⟨t, ds, 0, true⟩, log, s', [⟨.query t.existsSql, none⟩, .accepted t.createSql,
        .accepted t.initSql, ⟨.query t.readSql, refusal⟩]) := by
  obtain ⟨log, s', refusal, -, hmade⟩ := bind_made_calm hd hs hrows ds
  exact ⟨log, s', refusal, hmade⟩

/-- A missing table that is not made counts as version zero. -/
theorem bind_unmade (hd : t.ServedWhile d rows calm) (hs : calm s) (hrows : rows s = none)
    (ds : List Descriptor) :
    ∃ log, bind d.transcribed ds t false (s, []) =
      (.ok ⟨t, ds, 0, false⟩, log, s, [⟨.query t.existsSql, none⟩]) := by
  have hstored : storedVersion d.transcribed t false (s, []) =
      (.ok none, [], s, [⟨.query t.existsSql, none⟩]) := by
    simp only [storedVersion, Bool.false_eq_true, if_false, hd.isThere_transcribed hs, hrows,
      Option.isSome_none]
  rw [bind, hstored]
  exact ⟨_, rfl⟩

/-- The verdicts on all states, for a database whose answers are the right ones. -/
theorem bind_classifies (hd : t.ServedWhile d rows calm) (ds : List Descriptor)
    (bootstrap : Bool) (hs : calm s) :
    let b := bind d.transcribed ds t bootstrap (s, [])
    (∀ v, (∃ m, b.1 = .ok m ∧ m.version = v) ↔
      (rows s = none ∧ v = 0) ∨
        ∃ rest, rows s = some (.nat v :: rest) ∧ v < 0x8000000000000000) ∧
    (∀ m, b.1 = .ok m → m = ⟨t, ds, m.version, bootstrap || (rows s).isSome⟩) ∧
    (∀ e, b.1 = .error e → (∃ found, e = .corruptVersion t.name found) ∧ b.2.2.1 = s) ∧
    (rows s = none → bootstrap = true → rows b.2.2.1 = some [.nat 0] ∧
      Exchange.sent b.2.2.2 = [t.createSql, t.initSql]) ∧
    ((rows s).isSome ∨ bootstrap = false → b.2.2.1 = s ∧ Exchange.sent b.2.2.2 = []) := by
  intro b
  -- without a table there is one way to go for each way of opening; else the row gives the verdict
  cases hrows : rows s with
  | some cells =>
    obtain ⟨verdict, log, refusal, hverdict, hb⟩ := bind_present hd hs hrows ds bootstrap
    rw [show b = _ from hb]
    have hfirst (v : Nat) : cells.head? = some (.nat v) ↔ ∃ rest, cells = .nat v :: rest := by
      cases cells <;> simp
    refine ⟨fun v => ?_, ?_, ?_, nofun, fun _ => ⟨rfl, rfl⟩⟩
    · simp only [reduceCtorEq, false_and, false_or, Option.some.injEq, exists_and_right, ← hfirst,
        ← hverdict.ok_iff]
      cases verdict with
      | error e => simp [Except.map]
      | ok version => simp [Except.map]
    · intro m hm
      obtain ⟨v, -, rfl⟩ := Except.map_eq_ok_iff.mp hm
      simp
    · intro e he
      exact ⟨hverdict.corrupt e (Except.map_eq_error_iff.mp he), rfl⟩
  | none =>
    cases bootstrap with
    | true =>
      obtain ⟨log, s', refusal, hrows', hb⟩ := bind_made hd hs hrows ds
      rw [show b = _ from hb]
      refine ⟨fun v => ?_, ?_, fun _ => nofun, fun _ _ => ⟨hrows', rfl⟩, nofun⟩
      · simp [eq_comm]
      · simp
    | false =>
      obtain ⟨log, hb⟩ := bind_unmade hd hs hrows ds
      rw [show b = _ from hb]
      refine ⟨fun v => ?_, ?_, fun _ => nofun, fun _ => nofun, fun _ => ⟨rfl, rfl⟩⟩
      · simp [eq_comm]
      · simp

/-- **Opening classifies every stored state.**  Behind a driver that refuses no call, a migrator is
opened at version `v` exactly if there is no version table and `v` is zero, or if the first row is
`v` and 64 bits with a sign can hold it, however many migrations there are.  Otherwise the error
says that the table is corrupt, and the database is as it was.  It changes in one case only, when a
missing table is made, and then the table has the version zero in its only row; in all others no
statement is sent. -/
theorem opening_classifies {d : Driver σ} (hd : t.DrivenWhile d rows calm) (ds : List Descriptor)
    (bootstrap : Bool) (hs : calm s) :
    let b := bind d.database.transcribed ds t bootstrap (s, [])
    (∀ v, (∃ m, b.1 = .ok m ∧ m.version = v) ↔
      (rows s = none ∧ v = 0) ∨
        ∃ rest, rows s = some (.nat v :: rest) ∧ v < 0x8000000000000000) ∧
    (∀ m, b.1 = .ok m → m = ⟨t, ds, m.version, bootstrap || (rows s).isSome⟩) ∧
    (∀ e, b.1 = .error e → (∃ found, e = .corruptVersion t.name found) ∧ b.2.2.1 = s) ∧
    (rows s = none → bootstrap = true → rows b.2.2.1 = some [.nat 0] ∧
      Exchange.sent b.2.2.2 = [t.createSql, t.initSql]) ∧
    ((rows s).isSome ∨ bootstrap = false → b.2.2.1 = s ∧ Exchange.sent b.2.2.2 = []) :=
  bind_classifies hd.servedWhile ds bootstrap hs

/-- Behind a driver without a file, a version past all migrations is taken as it is. -/
theorem opening_of_later_version :
    let t : VersionTable := ⟨"SchemaInfo"⟩
    let s : StoredDatabase × FileTree :=
      (⟨none, { tables := [("SchemaInfo", [.nat 7, .string "x"])] }⟩, .fresh)
    let b := bind StoredDatabase.driver.database.transcribed [] t true (s, [])
    b.1 = .ok ⟨t, [], 7, true⟩ ∧ b.2.2.1 = s ∧ Exchange.sent b.2.2.2 = [] := by
  intro t s b
  have hrows : s.1.memory.rows? t.name = some [.nat 7, .string "x"] := List.lookup_cons_self
  have hopens := opening_classifies (StoredDatabase.drivenWhile t) [] true (s := s) ⟨rfl, rfl⟩
  -- from here on the opening stands for itself
  have hb : bind StoredDatabase.driver.database.transcribed [] t true (s, []) = b := rfl
  rw [hb] at hopens
  clear_value b
  obtain ⟨hversion, hmigrator, -, -, hunchanged⟩ := hopens
  obtain ⟨m, hm, hseven⟩ := (hversion 7).mpr (.inr ⟨[.string "x"], hrows, by decide⟩)
  have hready : m = ⟨t, [], 7, true⟩ := by rw [hmigrator m hm, hseven]; rfl
  exact ⟨hm.trans (congrArg Except.ok hready), hunchanged (.inl (Option.isSome_of_eq_some hrows))⟩

end Migrator
end SchemaMigration
