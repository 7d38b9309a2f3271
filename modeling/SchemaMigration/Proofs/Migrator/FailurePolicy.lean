import SchemaMigration.Proofs.Migrator.Binding
import SchemaMigration.Proofs.Migrator.Projection
import SchemaMigration.Proofs.Migrator.Recorded

/-!
# What a migration leaves behind

A migrator that was opened where the version table has one row is `Settled`: the row holds its
version.  It stays settled through all migrations, whatever the database refuses
(`Settled.migrateEach`).  `migrate_leaves` says what such a migration has sent, reported and left
behind when it returns: after a failure the steps before the one that failed are recorded, the error
names the call that was refused, and no call comes after it.
-/

namespace SchemaMigration.Migrator

variable {σ : Type} {d : Database σ} {t : VersionTable} {rows : σ → Option (List Json)}
  {ds : List Descriptor} {m m' : Migrator} {target : Int} {s s' : σ}
  {result : Except EngineError Report} {done : List Step}

/-! ### Several migrations -/

/-- The migrator and the database after migrations to some versions in order, whatever comes of
each. -/
def migrateEach (d : Database σ) : List Int → Migrator → σ → Migrator × σ
  | [], m, s => (m, s)
  | target :: rest, m, s =>
    let r := (migrate d m target s).2
    migrateEach d rest r.migrator r.database

/-- The version table has one row, and that is the version of a migrator that knows the table. -/
structure Settled (rows : σ → Option (List Json)) (t : VersionTable) (ds : List Descriptor)
    (m : Migrator) (s : σ) : Prop where
  table_eq : m.table = t
  descriptors_eq : m.descriptors = ds
  ready : m.ready = true
  rows_eq : rows s = some [.nat m.version]

namespace Settled

theorem outcome (hd : t.Served d rows) (hsql : LeaveAlone d rows ds) (h : Settled rows t ds m s)
    (houtcome : Outcome d m target s result done m' s') : Settled rows t ds m' s' where
  table_eq := houtcome.table_eq.trans h.table_eq
  descriptors_eq := houtcome.descriptors_eq.trans h.descriptors_eq
  ready := houtcome.ready_of_ready h.ready
  rows_eq := by
    obtain ⟨rfl, rfl, -, hrows⟩ := h
    exact rows_migrate hd hsql houtcome (n := 1) hrows

theorem migrateEach (hd : t.Served d rows) (hsql : LeaveAlone d rows ds)
    (h : Settled rows t ds m s) (targets : List Int) :
    Settled rows t ds (migrateEach d targets m s).1 (migrateEach d targets m s).2 := by
  induction targets generalizing m s with
  | nil => exact h
  | cons target rest ih => exact ih (h.outcome hd hsql (migrate_outcome (Prod.eta _).symm))

/-- A migrator that is opened where the table has one row. -/
theorem of_bind (hd : t.Served d rows) {cell : Json} {log : List LogRecord}
    (hrows : rows s = some [cell]) (h : bind d ds t true s = (.ok m, log, s')) :
    Settled rows t ds m s' := by
  obtain ⟨hrows', hok⟩ := bind_rows_some hd h hrows
  obtain ⟨v, rfl, hvalue⟩ := hok m rfl
  refine ⟨rfl, rfl, rfl, ?_⟩
  have hcell : cell = .nat v := Json.int?_eq_some_iff.mp hvalue
  rw [hrows', hcell]

end Settled

/-! ### What is left behind -/

theorem steps_eq_nil_iff (m : Migrator) (target : Int) :
    (m.plan target).steps = [] ↔ m.clamp target = m.version := by
  rw [← List.length_eq_zero_iff, plan, Plan.length_build]
  omega

/-- What a migration of `m` to `target` leaves behind, when it returns `result` in the run `r` after
the calls of `transcript` and has completed the steps `done`. -/
structure Leaves (rows : σ → Option (List Json)) (t : VersionTable) (m : Migrator) (target : Int)
    (result : Except EngineError Report) (r : Run σ) (transcript : List Exchange)
    (done : List Step) : Prop where
  /-- the steps that are completed begin the plan -/
  isPrefix : done <+: (m.plan target).steps
  /-- the migrator has the version after the last of them -/
  version_eq : r.migrator.version = reached done m.version
  /-- the version table has the version of the migrator -/
  rows_eq : rows r.database = some [.nat r.migrator.version]
  /-- success means that all steps have been sent, completed and reported -/
  of_ok : ∀ report, result = .ok report →
    r.migrator.version = m.clamp target ∧
    report.start = m.version ∧ report.goal = r.migrator.version ∧
    report.keys = (m.plan target).steps.filterMap Step.key ∧
    (report.direction = none ↔ r.migrator.version = m.version) ∧
    done = (m.plan target).steps ∧ transcript = (done.flatMap (Step.sql t)).map .accepted
  /-- failure means that a call was refused in the next step, and that it was the last call -/
  of_error : ∀ e, result = .error e →
    ∃ step later before sql cause, (m.plan target).steps = done ++ step :: later ∧
      transcript = (done.flatMap (Step.sql t) ++ before).map .accepted ++ [.refused sql cause] ∧
      ((∃ key after, step.key = some key ∧ step.migrationSql = before ++ sql :: after ∧
          e = .statementFailed step.version key.text step.direction.name sql cause) ∨
        (before = step.migrationSql ∧ sql = t.updateSql step.versionAfter ∧
          e = if cause.kind = .unexpectedResult then .corruptVersion t.name cause.detail
            else .versionTable t.name cause))

/-- **The failure policy.**  Let a migrator be opened where the version table has one row, and let
it be used for any migrations before.  When it returns from a migration, with success or not, the
row and the migrator have the version after the last completed step, and the answer says how far it
got. -/
theorem migrate_leaves (hd : t.Served d rows) (hsql : LeaveAlone d rows ds) {cell : Json}
    {log : List LogRecord} {opened : Migrator} {s₁ s₂ : σ} (hrows : rows s = some [cell])
    (hbind : bind d ds t true s = (.ok opened, log, s₁)) {earlier : List Int}
    (hearlier : migrateEach d earlier opened s₁ = (m, s₂)) {r : Run σ}
    (h : migrate d m target s₂ = (result, r)) :
    ∃ done, Leaves rows t m target result r (transcript d m target s₂) done := by
  have hsettled : Settled rows t ds m s₂ := by
    have heach := (Settled.of_bind hd hrows hbind).migrateEach hd hsql earlier
    rwa [hearlier] at heach
  have hleft := hsettled.outcome hd hsql (migrate_outcome h)
  obtain rfl := hsettled.table_eq
  -- what has been called is read off the same migration with a transcript
  obtain ⟨r', h', hmigrator, hdatabase⟩ := migrate_transcribed h
  have houtcome := migrate_outcome h'
  rw [hmigrator, hdatabase] at houtcome
  have hversion := houtcome.version_eq
  obtain ⟨rest, hrest⟩ := houtcome.exists_rest
  refine ⟨_, ⟨rest, hrest.symm⟩, hversion, hleft.rows_eq, fun report hreport => ?_, fun e he => ?_⟩
  · obtain ⟨hresult, hdone, haccepts⟩ | ⟨_, _, _, _, _, _, hresult, -⟩ :=
      houtcome.cases_of_ready hsettled.ready
    · rw [hdone] at hversion ⊢
      have hgoal : r.migrator.version = m.clamp target := hversion.trans (Plan.reached_build ..)
      obtain rfl : report = reportOf (m.plan target) := Except.ok.inj (hreport.symm.trans hresult)
      refine ⟨hgoal, rfl, hversion.symm, rfl, ?_, rfl, haccepts.transcript.2⟩
      rw [hgoal, ← steps_eq_nil_iff]
      show (m.plan target).steps.head?.map Step.direction = none ↔ _
      rw [Option.map_eq_none_iff, List.head?_eq_none_iff]
    · rw [hreport] at hresult
      cases hresult
  · obtain ⟨hresult, -⟩ | ⟨step, later, before, sql, cause, e', hresult, hplan, hstops, hblames⟩ :=
      houtcome.cases_of_ready hsettled.ready
    · rw [he] at hresult
      cases hresult
    · obtain rfl : e = e' := Except.error.inj (he.symm.trans hresult)
      refine ⟨step, later, before, sql, cause, hplan, hstops.transcript.2, ?_⟩
      cases hblames with
      | statement hkey hparts he' => exact .inl ⟨_, _, hkey, hparts, he'⟩
      | record hbefore hrecord he' =>
        rw [VersionTable.engineError_eq] at he'
        exact .inr ⟨hbefore, hrecord, he'⟩

/-- In memory, the migration that has been reverted is applied again, and the call that would record
this is refused: version zero is left. -/
theorem migrate_leaves_of_refused_record :
    let d := MemoryDatabase.strict.disrupted fun call =>
      if call = 5 then some ⟨.unexpectedResult, "refused"⟩ else none
    let opened : Migrator := ⟨⟨"SchemaInfo"⟩, [Descriptor.probe], 1, true⟩
    let b := bind d [Descriptor.probe] ⟨"SchemaInfo"⟩ true
      (({ tables := [("SchemaInfo", [.nat 1])] } : MemoryDatabase), 0)
    let x := migrateEach d [0] opened b.2.2
    let y := migrate d x.1 1 x.2
    b.1 = .ok opened ∧ y.1.toOption = none ∧ y.2.migrator.version = 0 ∧
      ∃ done, Leaves (fun z => z.1.rows? "SchemaInfo") ⟨"SchemaInfo"⟩ x.1 1 y.1 y.2
        (transcript d x.1 1 x.2) done := by
  intro d opened b x y
  obtain ⟨hopened, hfails, hversion⟩ : b.1.toOption = some opened ∧ y.1.toOption = none ∧
      y.2.migrator.version = 0 := by decide +kernel
  have hopened := Except.eq_ok_of_toOption hopened
  -- from here on the runs stand for themselves
  have hb : bind d [Descriptor.probe] ⟨"SchemaInfo"⟩ true
    (({ tables := [("SchemaInfo", [.nat 1])] } : MemoryDatabase), 0) = b := rfl
  have hx : migrateEach d [0] opened b.2.2 = x := rfl
  have hy : migrate d x.1 1 x.2 = y := rfl
  clear_value y x b
  obtain ⟨_, log, s₁⟩ := b
  obtain rfl := hopened
  have hserved := (MemoryDatabase.served_strict (t := ⟨"SchemaInfo"⟩) (by decide +kernel)).disrupted
    fun call => if call = 5 then some ⟨.unexpectedResult, "refused"⟩ else none
  exact ⟨rfl, hfails, hversion,
    migrate_leaves hserved ((leaveAlone_probe _).disrupted _) rfl hb hx hy⟩

end SchemaMigration.Migrator
