import SchemaMigration.Proofs.Migrator.FailurePolicy

/-!
# Making the version table late

A migrator that is opened without making the version table makes it before its first step, in two
statements: one creates the table and one puts version zero into it.  When the second is refused
the table is left without a row; the next attempt finds the table, takes it for ready, and from then
on records versions in no row at all.  `Deferred` tells the three situations apart, and
`deferred_recorded_iff` says that a version is recorded exactly when that statement has never been
refused.
-/

namespace SchemaMigration.Migrator

variable {σ : Type} {d : Database σ} {t : VersionTable} {rows : σ → Option (List Json)}
  {ds : List Descriptor} {m m' : Migrator} {target : Int} {s s' : σ} {x y : σ × List Exchange}
  {result : Except EngineError Report} {done : List Step}

/-! ### The statement that puts in the first version -/

/-- The database has refused to put the first version into the table. -/
def InitRefused (t : VersionTable) (transcript : List Exchange) : Prop :=
  ∃ cause, .refused t.initSql cause ∈ transcript

theorem initRefused_append {xs ys : List Exchange} :
    InitRefused t (xs ++ ys) ↔ InitRefused t xs ∨ InitRefused t ys := by
  simp only [InitRefused, List.mem_append, exists_or]

theorem not_initRefused_accepted (sqls : List String) : ¬ InitRefused t (sqls.map .accepted) := by
  rintro ⟨cause, hmem⟩
  cases Exchange.refusal_of_mem_accepted hmem

theorem initRefused_refused {sql : String} {cause : DatabaseError} :
    InitRefused t [.refused sql cause] ↔ sql = t.initSql := by
  constructor
  · rintro ⟨cause', hmem⟩
    have hsql := congrArg Exchange.sql? (List.mem_singleton.mp hmem)
    exact (Option.some.inj hsql).symm
  · rintro rfl
    exact ⟨cause, List.mem_singleton_self _⟩

theorem not_initRefused_query (sql : String) (refusal : Option DatabaseError) :
    ¬ InitRefused t [⟨.query sql, refusal⟩] := by
  rintro ⟨cause, hmem⟩
  cases congrArg Exchange.call (List.mem_singleton.mp hmem)

/-- Where the first version has been put into the table, no migration is the statement that does
so. -/
theorem initSql_notMem (hd : t.Served d rows) (hsql : LeaveAlone d rows ds)
    (h : t.Ensures d s (.ok true) s') (hrows : rows s = none) :
    ∀ desc ∈ ds, t.initSql ∉ desc.sql := by
  intro desc hdesc hmem
  cases h with
  | unknown _ hresult => cases hresult
  | present _ _ hresult => cases hresult
  | created hquery _ haccepts _ =>
    obtain _ | @⟨_, _, _, z, _, _, hcreate, _ | ⟨hinit, _ | _⟩⟩ := haccepts
    -- the statement has just changed the rows, which a migration's statement must not do
    have hempty := hd.rows_create ((hd.rows_query hquery).trans hrows) hcreate
    have hfilled := hd.rows_init hempty hinit
    have halone := hsql desc hdesc t.initSql hmem
    have hunchanged := halone z
    rw [hinit, hfilled, hempty] at hunchanged
    cases hunchanged
  | uncreated _ _ _ hresult => cases hresult
  | unfilled _ _ _ hresult => cases hresult

/-! ### Three situations -/

/-- What holds between the migrations of a migrator that has been opened where there was no version
table. -/
inductive Deferred (rows : σ → Option (List Json)) (t : VersionTable) (ds : List Descriptor)
    (m : Migrator) (x : σ × List Exchange) : Prop where
  /-- there still is no version table -/
  | unmade (hm : m = ⟨t, ds, 0, false⟩) (hrows : rows x.1 = none) (hinit : ¬ InitRefused t x.2)
  /-- the table has the version of the migrator -/
  | filled (hsettled : Settled rows t ds m x.1) (hnotMem : ∀ desc ∈ ds, t.initSql ∉ desc.sql)
      (hinit : ¬ InitRefused t x.2)
  /-- the table has no row -/
  | hollow (htable : m.table = t) (hdescriptors : m.descriptors = ds) (hrows : rows x.1 = some [])
      (hinit : InitRefused t x.2)

/-- A table that was not there is made, or is not, or is left without a row. -/
theorem ensures_unmade (hd : t.Served d rows) {made : Except EngineError Bool}
    (h : t.Ensures d.transcribed x made y) (hrows : rows x.1 = none) (hinit : ¬ InitRefused t x.2) :
    (made = .ok true ∧ rows y.1 = some [.nat 0] ∧ ¬ InitRefused t y.2) ∨
    (∃ e, made = .error e) ∧ rows y.1 = none ∧ ¬ InitRefused t y.2 ∨
    (∃ e, made = .error e) ∧ rows y.1 = some [] ∧ InitRefused t y.2 := by
  -- asking whether the table is there neither makes it nor is a refusal that counts
  have hasked {answer : Except DatabaseError (Option Int)} {z : σ × List Exchange}
      (hquery : d.transcribed.query t.existsSql x = (answer, z)) :
      rows z.1 = none ∧ ¬ InitRefused t z.2 := by
    refine ⟨(hd.transcribed.rows_query hquery).trans hrows, ?_⟩
    rw [(Database.query_of_transcribed hquery).2, initRefused_append, not_or]
    exact ⟨hinit, not_initRefused_query _ _⟩
  cases h with
  | unknown hquery hresult => exact .inr (.inl ⟨⟨_, hresult⟩, hasked hquery⟩)
  | present hquery hcount =>
    rw [hd.transcribed.count_pos hquery, hrows] at hcount
    cases hcount
  | created hquery _ haccepts hresult =>
    obtain ⟨hrows₁, hinit₁⟩ := hasked hquery
    refine .inl ⟨hresult, ?_, ?_⟩
    · obtain _ | ⟨hcreate, _ | ⟨hfill, _ | _⟩⟩ := haccepts
      exact hd.transcribed.rows_init (hd.transcribed.rows_create hrows₁ hcreate) hfill
    · rw [haccepts.transcript.2, initRefused_append, not_or]
      exact ⟨hinit₁, not_initRefused_accepted _⟩
  | uncreated hquery _ hstops hresult =>
    obtain ⟨hrows₁, hinit₁⟩ := hasked hquery
    have hrows₂ := (hd.transcribed.rows_stopsAt (by simp) hstops).trans hrows₁
    refine .inr (.inl ⟨⟨_, hresult⟩, hrows₂, ?_⟩)
    rw [hstops.transcript.2, initRefused_append, initRefused_append, initRefused_refused, not_or,
      not_or]
    exact ⟨⟨hinit₁, not_initRefused_accepted _⟩, t.createSql_ne_initSql⟩
  | unfilled hquery _ hstops hresult =>
    refine .inr (.inr ⟨⟨_, hresult⟩, ?_, ?_⟩)
    · obtain ⟨z, _ | ⟨hcreate, _ | _⟩, hfill⟩ := hstops
      rw [hd.transcribed.rows_refused hfill, hd.transcribed.rows_create (hasked hquery).1 hcreate]
    · rw [hstops.transcript.2, initRefused_append]
      exact .inr (initRefused_refused.mpr rfl)

/-! ### What a migration makes of them -/

/-- Making the table only adds to the transcript. -/
theorem transcript_isPrefix_of_ensures {made : Except EngineError Bool}
    (h : t.Ensures d.transcribed x made y) : x.2 <+: y.2 := by
  have hasked {answer : Except DatabaseError (Option Int)} {z : σ × List Exchange}
      (hquery : d.transcribed.query t.existsSql x = (answer, z)) : x.2 <+: z.2 := by
    rw [(Database.query_of_transcribed hquery).2]
    exact List.prefix_append _ _
  cases h with
  | unknown hquery => exact hasked hquery
  | present hquery => exact hasked hquery
  | created hquery _ haccepts =>
    rw [haccepts.transcript.2]
    exact (hasked hquery).trans (List.prefix_append _ _)
  | uncreated hquery _ hstops =>
    rw [hstops.transcript.2, List.append_assoc]
    exact (hasked hquery).trans (List.prefix_append _ _)
  | unfilled hquery _ hstops =>
    rw [hstops.transcript.2, List.append_assoc]
    exact (hasked hquery).trans (List.prefix_append _ _)

/-- A migration only adds to the transcript. -/
theorem Outcome.transcript_isPrefix (h : Outcome d.transcribed m target x result done m' y) :
    x.2 <+: y.2 := by
  have hprepared {z : σ × List Exchange} (hprepares : m.Prepares d.transcribed x z) :
      x.2 <+: z.2 := by
    obtain ⟨-, rfl⟩ | ⟨-, made, hensures⟩ := hprepares
    · exact List.prefix_rfl
    · exact transcript_isPrefix_of_ensures hensures
  cases h with
  | idle _ _ _ _ hs => exact hs ▸ List.prefix_rfl
  | unprepared _ _ hensures => exact transcript_isPrefix_of_ensures hensures
  | complete _ hprepares haccepts =>
    rw [haccepts.transcript.2]
    exact (hprepared hprepares).trans (List.prefix_append _ _)
  | stopped hprepares _ hstops =>
    rw [hstops.transcript.2, List.append_assoc]
    exact (hprepared hprepares).trans (List.prefix_append _ _)

namespace Deferred

/-- A table with the version of the migrator keeps it, and its first version is not put in again. -/
theorem outcome_filled (hd : t.Served d rows) (hsql : LeaveAlone d rows ds)
    (hsettled : Settled rows t ds m x.1) (hnotMem : ∀ desc ∈ ds, t.initSql ∉ desc.sql)
    (hinit : ¬ InitRefused t x.2) (h : Outcome d.transcribed m target x result done m' y) :
    Deferred rows t ds m' y := by
  have hsettled' : Settled (fun z : σ × List Exchange => rows z.1) t ds m x :=
    ⟨hsettled.table_eq, hsettled.descriptors_eq, hsettled.ready, hsettled.rows_eq⟩
  have hleft := hsettled'.outcome hd.transcribed hsql.transcribed h
  refine .filled ⟨hleft.table_eq, hleft.descriptors_eq, hleft.ready, hleft.rows_eq⟩ hnotMem ?_
  obtain ⟨-, -, haccepts⟩ | ⟨step, later, before, sql, cause, e, -, hplan, hstops, hblames⟩ :=
    h.cases_of_ready hsettled.ready
  · rw [haccepts.transcript.2, initRefused_append, not_or]
    exact ⟨hinit, not_initRefused_accepted _⟩
  · rw [hstops.transcript.2, initRefused_append, initRefused_append, initRefused_refused, not_or,
      not_or]
    refine ⟨⟨hinit, not_initRefused_accepted _⟩, ?_⟩
    -- what has been refused is a statement of a migration or an update, and so not that one
    cases hblames with
    | statement _ hparts =>
      rintro rfl
      have hstep : step ∈ (m.plan target).steps := by rw [hplan]; simp
      have hmem : t.initSql ∈ step.migrationSql := by rw [hparts]; simp
      obtain ⟨desc, hdesc, hdescSql⟩ := Plan.exists_of_mem_migrationSql hstep hmem
      exact hnotMem desc (hsettled.descriptors_eq ▸ hdesc) hdescSql
    | record _ hrecord =>
      rw [hrecord, hsettled.table_eq]
      exact t.updateSql_ne_initSql _

/-- Every migration keeps to the three situations. -/
theorem outcome (hd : t.Served d rows) (hsql : LeaveAlone d rows ds)
    (hdeferred : Deferred rows t ds m x) (h : Outcome d.transcribed m target x result done m' y) :
    Deferred rows t ds m' y := by
  cases hdeferred with
  | unmade hm hrows hinit =>
    obtain rfl := hm
    by_cases hplan : (plan ⟨t, ds, 0, false⟩ target).steps = []
    · obtain ⟨rfl, rfl⟩ := h.eq_of_nil hplan
      exact .unmade rfl hrows hinit
    · obtain ⟨e, -, hensures, rfl⟩ | ⟨made, z, hensures, hprepared⟩ :=
        h.cases_of_unready rfl hplan
      · obtain ⟨habs, -⟩ | ⟨-, hrows', hinit'⟩ | ⟨-, hrows', hinit'⟩ :=
          ensures_unmade hd hensures hrows hinit
        · cases habs
        · exact .unmade rfl hrows' hinit'
        · exact .hollow rfl rfl hrows' hinit'
      · -- the table has been made, and the steps run as they would for a migrator that knows it
        obtain ⟨hmade, hrows₁, hinit₁⟩ | ⟨⟨e, habs⟩, -⟩ | ⟨⟨e, habs⟩, -⟩ :=
          ensures_unmade hd hensures hrows hinit
        · rw [hmade] at hensures
          have hnotMem := initSql_notMem hd.transcribed hsql.transcribed hensures hrows
          exact outcome_filled hd hsql ⟨rfl, rfl, rfl, hrows₁⟩ hnotMem hinit₁ hprepared
        · cases habs
        · cases habs
  | filled hsettled hnotMem hinit => exact outcome_filled hd hsql hsettled hnotMem hinit h
  | hollow htable hdescriptors hrows hinit =>
    -- what is recorded is recorded in all rows, and there are none
    obtain rfl := htable
    obtain rfl := hdescriptors
    refine .hollow h.table_eq h.descriptors_eq ?_ ?_
    · exact rows_migrate hd.transcribed hsql.transcribed h (n := 0) hrows
    · obtain ⟨cause, hmem⟩ := hinit
      exact ⟨cause, h.transcript_isPrefix.subset hmem⟩

theorem migrateEach (hd : t.Served d rows) (hsql : LeaveAlone d rows ds)
    (h : Deferred rows t ds m x) (targets : List Int) :
    Deferred rows t ds (migrateEach d.transcribed targets m x).1
      (migrateEach d.transcribed targets m x).2 := by
  induction targets generalizing m x with
  | nil => exact h
  | cons target rest ih => exact ih (h.outcome hd hsql (migrate_outcome (Prod.eta _).symm))

end Deferred

/-! ### When a version is recorded -/

/-- **When a version is recorded.**  Let a migrator be opened without making the version table that
is missing, and let it run any migrations.  When one that has steps to run succeeds, the table has
the version that is reported exactly if the database has never refused to put the first version into
it.  Then a migrator that is opened next starts at that version, unless a call is refused.
Otherwise the table has no row, and no migrator can be opened. -/
theorem deferred_recorded_iff (hd : t.Served d rows) (hsql : LeaveAlone d rows ds)
    {log : List LogRecord} {opened : Migrator} {s₁ : σ} (hrows : rows s = none)
    (hbind : bind d ds t false s = (.ok opened, log, s₁)) {earlier : List Int}
    (hearlier : migrateEach d.transcribed earlier opened (s₁, []) = (m, x)) {report : Report}
    {r : Run (σ × List Exchange)} (h : migrate d.transcribed m target x = (.ok report, r))
    (hplan : (m.plan target).steps ≠ []) :
    (rows r.database.1 = some [.nat report.goal] ↔ ¬ InitRefused t r.database.2) ∧
    (rows r.database.1 = some [.nat report.goal] →
      ∀ bootstrap, let b := bind d.transcribed ds t bootstrap (r.database.1, [])
        (∀ y ∈ b.2.2.2, y.refusal = none) → b.1 = .ok ⟨t, ds, report.goal, true⟩) ∧
    (InitRefused t r.database.2 → rows r.database.1 = some [] ∧
      ∀ bootstrap, let b := bind d.transcribed ds t bootstrap (r.database.1, [])
        ∃ e, b.1 = .error e) := by
  have hunmade : Deferred rows t ds opened (s₁, []) := by
    obtain ⟨cause, -, habs⟩ | ⟨count, hquery, -, hopened⟩ | ⟨count, z, hquery, hcount, -⟩ :=
      bind_without_cases hbind
    · cases habs
    · refine .unmade (Except.ok.inj hopened) ((hd.rows_query hquery).trans hrows) ?_
      rintro ⟨cause, hmem⟩
      cases hmem
    · rw [hd.count_pos hquery, hrows] at hcount
      cases hcount
  have hbefore : Deferred rows t ds m x := by
    have heach := hunmade.migrateEach hd hsql earlier
    rwa [hearlier] at heach
  have houtcome := migrate_outcome h
  obtain ⟨hready, hversion⟩ := houtcome.of_ok hplan
  have hopens (hrecorded : rows r.database.1 = some [.nat report.goal]) (bootstrap : Bool) :
      let b := bind d.transcribed ds t bootstrap (r.database.1, [])
      (∀ y ∈ b.2.2.2, y.refusal = none) → b.1 = .ok ⟨t, ds, report.goal, true⟩ := by
    intro b haccepted
    exact bind_succeeds hd (Prod.eta b).symm hrecorded rfl haccepted
  -- a success leaves a migrator that knows the table, and the table with one row or with none
  cases hbefore.outcome hd hsql houtcome with
  | unmade hm =>
    rw [hm] at hready
    cases hready
  | filled hsettled _ hinit =>
    have hrecorded := hsettled.rows_eq
    rw [hversion] at hrecorded
    exact ⟨⟨fun _ => hinit, fun _ => hrecorded⟩, hopens, fun habs => absurd habs hinit⟩
  | hollow _ _ hempty hinit =>
    refine ⟨⟨fun hrecorded => ?_, fun habs => absurd hinit habs⟩, hopens, fun _ => ⟨hempty, ?_⟩⟩
    · rw [hempty] at hrecorded
      cases hrecorded
    · -- a row that is not there is no version, and opening does not put one in
      intro bootstrap b
      obtain ⟨-, hok⟩ := bind_rows_some hd.transcribed (Prod.eta b).symm hempty
      cases hresult : b.1 with
      | error e => exact ⟨e, rfl⟩
      | ok m₂ =>
        obtain ⟨v, -, habs⟩ := hok m₂ hresult
        cases habs

/-- In memory, the statement that creates the table is refused and the migration is tried again. -/
theorem deferred_recorded_after_refused_create :
    let d := MemoryDatabase.strict.disrupted fun call =>
      if call = 2 then some ⟨.execution, "refused"⟩ else none
    let opened : Migrator := ⟨⟨"SchemaInfo"⟩, [Descriptor.probe], 0, false⟩
    let b := bind d [Descriptor.probe] ⟨"SchemaInfo"⟩ false (({} : MemoryDatabase), 0)
    let x := migrateEach d.transcribed [1] opened (b.2.2, [])
    let y := migrate d.transcribed x.1 1 x.2
    let report : Report := ⟨0, 1, some .up, [Descriptor.probe.key]⟩
    b.1 = .ok opened ∧ y.1 = .ok report ∧
      (y.2.database.1.1.rows? "SchemaInfo" = some [.nat report.goal] ↔
        ¬ InitRefused ⟨"SchemaInfo"⟩ y.2.database.2) := by
  intro d opened b x y report
  obtain ⟨hopened, hreport, hplan⟩ : b.1.toOption = some opened ∧ y.1.toOption = some report ∧
      (x.1.plan 1).steps ≠ [] := by decide +kernel
  have hopened := Except.eq_ok_of_toOption hopened
  have hreport := Except.eq_ok_of_toOption hreport
  -- from here on the runs stand for themselves
  have hb : bind d [Descriptor.probe] ⟨"SchemaInfo"⟩ false (({} : MemoryDatabase), 0) = b := rfl
  have hx : migrateEach d.transcribed [1] opened (b.2.2, []) = x := rfl
  have hy : migrate d.transcribed x.1 1 x.2 = y := rfl
  clear_value y x b
  obtain ⟨_, log, s₁⟩ := b
  obtain ⟨_, r⟩ := y
  obtain rfl := hopened
  obtain rfl := hreport
  have hserved := (MemoryDatabase.served_strict (t := ⟨"SchemaInfo"⟩) (by decide +kernel)).disrupted
    fun call => if call = 2 then some ⟨.execution, "refused"⟩ else none
  exact ⟨rfl, rfl,
    (deferred_recorded_iff hserved ((leaveAlone_probe _).disrupted _) rfl hb hx hy hplan).1⟩

/-- In memory, the statement that puts in the first version is refused and the migration is tried
again: it succeeds, but no version is recorded and no migrator can be opened. -/
theorem deferred_version_lost :
    let d := MemoryDatabase.strict.disrupted fun call =>
      if call = 3 then some ⟨.execution, "refused"⟩ else none
    let opened : Migrator := ⟨⟨"SchemaInfo"⟩, [Descriptor.probe], 0, false⟩
    let b := bind d [Descriptor.probe] ⟨"SchemaInfo"⟩ false (({} : MemoryDatabase), 0)
    let x := migrateEach d [1] opened b.2.2
    let y := migrate d x.1 1 x.2
    b.1.toOption = some opened ∧
      y.1.toOption = some ⟨0, 1, some .up, [Descriptor.probe.key]⟩ ∧
      (y.2.database.1.rows? "SchemaInfo").map List.length = some 0 ∧
      (bind d [Descriptor.probe] ⟨"SchemaInfo"⟩ true y.2.database).1.toOption = none := by
  decide +kernel

end SchemaMigration.Migrator
