import SchemaMigration.Proofs.CommandLine.Session
import SchemaMigration.Proofs.CommandLine.Target
import SchemaMigration.Proofs.Database.Stored
import SchemaMigration.Proofs.Migrator.Arrival

/-!
# Going to a version

The text after `goto --to` is read as a target (`read_goto`).  Of the versions that there are, the
one nearest to the target is meant (`TargetVersion.nearest`, `clamp_resolve`), and this is the
version at which the command ends on a database that refuses nothing (`run_goto`), from whatever
version it starts (`goto_ends_at_nearest`).
-/

namespace SchemaMigration

/-- The version that a target means if there are `latest` versions: a number past either end means
that end. -/
def TargetVersion.nearest (latest : Nat) : TargetVersion → Int
  | .latest => latest
  | .version v => min (max v 0) latest

/-- A migrator goes to the version that is meant, as long as the versions can be counted with 64
bits and a sign. -/
theorem Migrator.clamp_resolve (m : Migrator) (target : TargetVersion)
    (h : (m.latest : Int) ≤ 2 ^ 63 - 1) :
    (m.clamp (target.resolve m.latest) : Int) = target.nearest m.latest := by
  cases target with
  | latest =>
    simp only [clamp, TargetVersion.resolve, TargetVersion.greatest, TargetVersion.nearest]
    omega
  | version v =>
    simp only [clamp, TargetVersion.resolve, TargetVersion.nearest]
    omega

namespace CommandLine

/-! ### Reading the arguments -/

theorem take_to : Reading.take CommandKind.goto.level {} "--to" .unknownArgument =
    .ok { pending := some (.wanted, none) } := rfl

/-- Whatever comes after `--to` is its value, also after a dash. -/
theorem take_wanted (text : String) :
    Reading.take CommandKind.goto.level { pending := some (.wanted, none) } text .unknownArgument =
      .ok { pending := some (.wanted, some text) } := by
  unfold Reading.take
  simp only [Reading.awaiting?, Bool.false_eq_true, if_false]
  split
  · next hoption _ =>
    cases hoption
    rfl
  · next hoption _ =>
    cases hoption
    rfl
  -- in the other cases no value is awaited
  all_goals contradiction

theorem settle_wanted (text : String) :
    ({ pending := some (.wanted, some text) } : Reading).settle =
      match TargetVersion.ofText? text with
      | some target => .ok { settings := [.wanted target] }
      | none => .error .valueValidation := by
  simp only [Reading.settle, Reading.add, List.any_nil, Bool.false_eq_true, if_false,
    OptionName.withValue]
  cases TargetVersion.ofText? text <;> rfl

/-- The text after `goto --to` is read as a target, and nothing else is asked for. -/
theorem read_goto (text : String) : read ["goto", "--to", text] =
    match TargetVersion.ofText? text with
    | some target => .ok { command := .goto target }
    | none => .error .valueValidation := by
  have hread : read ["goto", "--to", text] = readCommand {} .goto ["--to", text] := rfl
  rw [hread, readCommand, Reading.all, List.foldlM_cons, take_to, Except.ok_bind, List.foldlM_cons,
    take_wanted, Except.ok_bind, List.foldlM_nil, Except.pure_eq_ok, Except.ok_bind, settle_wanted]
  cases TargetVersion.ofText? text <;> rfl

/-! ### Running the command -/

open VersionTable (Holds IsAt)

section
variable {σ : Type} {b : Backend σ} {i : Invocation} {target : TargetVersion} {p : Project}
  {state : σ} {ds : List Descriptor} {s s₁ : Session σ} {rows : σ → Option (List Json)}
  {calm : σ → Prop} {v : Nat}

/-- The command prints the report of the migration, and leaves its database. -/
theorem goto_of_migrate {s₀ s₂ : Session σ} {m : Migrator} {state₁ : σ}
    (hopen : openMigrator b p i.target true s₀ = (.ok (m, state₁), s₂)) {report : Report}
    {r : Migrator.Run σ}
    (hmigrate : Migrator.migrate b.database m (target.resolve m.latest) state₁ =
      (.ok report, r)) :
    ∃ s', goto b p i.target target s₀ = (.ok (), s') ∧ s'.database = some r.database ∧
      s'.tree = b.tree r.database ∧ s'.output = s₂.output ++ reportText report := by
  simp only [goto, hopen, hmigrate]
  exact ⟨_, rfl, rfl, rfl, by simp [Session.print, Session.reach]⟩

/-- On a database that refuses nothing, the command ends at the version that is meant, and says
so. -/
theorem run_goto (now : Timestamp) (hcommand : i.command = .goto target)
    (hopens : opened? b i s = some (p, state, ds, s₁))
    (hd : (VersionTable.mk p.config.versionTable).Obliges b.database ds rows calm)
    (hcalm : calm state) (hv : (v : Int) ≤ 2 ^ 63 - 1) (hstart : IsAt rows v state)
    (hlatest : (ds.length : Int) ≤ 2 ^ 63 - 1) :
    ∃ (version : Nat) (report : Report) (state' : σ) (s' : Session σ),
      (version : Int) = target.nearest ds.length ∧ runOn b i now s = (.ok (), s') ∧
      s'.database = some state' ∧ s'.tree = b.tree state' ∧
      calm state' ∧ Holds rows version state' ∧
      report.start = v ∧ report.goal = version ∧ s'.output = s₁.output ++ reportText report := by
  have hv' : v < 0x8000000000000000 := by omega
  have hlatest' : ds.length < 0x8000000000000000 := by omega
  -- the migrator is opened at the version of the database
  let m : Migrator := ⟨⟨p.config.versionTable⟩, ds, v, true⟩
  obtain ⟨log, state₁, hbind, hcalm', hholds⟩ :=
    Migrator.bind_arrives hd.toServedWhile ds hcalm hv' hstart
  obtain ⟨s₀, s₂, hproject, hopen, -, houtput⟩ := exists_openMigrator hopens hbind
  obtain ⟨r, hmigrate, -, hcalm'', hholds'⟩ := Migrator.migrate_arrives hd (m := m)
    (target.resolve m.latest) rfl rfl rfl hv' hlatest' hcalm' hholds
  obtain ⟨s', hgoto, hdatabase, htree, houtput'⟩ := goto_of_migrate hopen hmigrate
  rw [houtput, ← output_of_opened hopens] at houtput'
  refine ⟨_, _, r.database, s', m.clamp_resolve target hlatest, ?_, hdatabase, htree, hcalm'',
    hholds', rfl, Plan.reached_build .., houtput'⟩
  simp only [runOn, hproject, hcommand, hgoto]

end

/-- **Going to a version.**  A text is read as a target exactly if it spells one; other texts are
refused.  Of a target that is spelled, a migrator takes the version that is meant: the highest one,
or the number, brought between zero and the highest one.  On a database that refuses nothing this is
the version at which a migration ends, and the command with it, whatever the version at the start,
also if it is past the last migration. -/
theorem goto_ends_at_nearest (text : String) :
    (∀ target, TargetVersion.ofText? text = some target ↔ TargetVersion.Spells text target) ∧
    ((∀ target, ¬ TargetVersion.Spells text target) →
      read ["goto", "--to", text] = .error .valueValidation) ∧
    ∀ target, TargetVersion.Spells text target →
      read ["goto", "--to", text] = .ok { command := .goto target } ∧
      (∀ m : Migrator, (m.latest : Int) ≤ 2 ^ 63 - 1 →
        (m.clamp (target.resolve m.latest) : Int) = target.nearest m.latest) ∧
      (∀ {σ : Type} {d : Database σ} {t : VersionTable} {ds : List Descriptor}
        {rows : σ → Option (List Json)} {calm : σ → Prop} {s : σ} {v : Nat},
        t.Obliges d ds rows calm → calm s → IsAt rows v s → (v : Int) ≤ 2 ^ 63 - 1 →
        (ds.length : Int) ≤ 2 ^ 63 - 1 →
        ∃ (version : Nat) (m : Migrator) (log : List LogRecord) (s₁ : σ) (report : Report)
          (r : Migrator.Run σ), (version : Int) = target.nearest ds.length ∧
          Migrator.bind d ds t true s = (.ok m, log, s₁) ∧ m.version = v ∧
          Migrator.migrate d m (target.resolve m.latest) s₁ = (.ok report, r) ∧
          r.migrator.version = version ∧ Holds rows version r.database) ∧
      ∀ {σ : Type} {b : Backend σ} {i : Invocation} {p : Project} {state : σ}
        {ds : List Descriptor} {s s₁ : Session σ} {rows : σ → Option (List Json)}
        {calm : σ → Prop} {v : Nat} (now : Timestamp),
        i.command = .goto target → opened? b i s = some (p, state, ds, s₁) →
        (VersionTable.mk p.config.versionTable).Obliges b.database ds rows calm →
        calm state → IsAt rows v state → (v : Int) ≤ 2 ^ 63 - 1 →
        (ds.length : Int) ≤ 2 ^ 63 - 1 →
        ∃ (version : Nat) (report : Report) (state' : σ) (s' : Session σ),
          (version : Int) = target.nearest ds.length ∧ runOn b i now s = (.ok (), s') ∧
          s'.database = some state' ∧ s'.tree = b.tree state' ∧
          calm state' ∧ Holds rows version state' ∧
          report.start = v ∧ report.goal = version ∧
          s'.output = s₁.output ++ reportText report := by
  refine ⟨fun _ => TargetVersion.ofText?_eq_some_iff, fun hnone => ?_, fun target hspells => ?_⟩
  · -- the reader takes all spellings and nothing else, so a text that is none is refused
    rw [read_goto]
    cases htext : TargetVersion.ofText? text with
    | none => rfl
    | some target => exact absurd (TargetVersion.ofText?_eq_some_iff.mp htext) (hnone target)
  · refine ⟨?_, fun m => m.clamp_resolve target, ?_, ?_⟩
    · rw [read_goto, TargetVersion.ofText?_eq_some_iff.mpr hspells]
    · intro σ d t ds rows calm s v hd hcalm hstart hv hlatest
      have hv' : v < 0x8000000000000000 := by omega
      have hlatest' : ds.length < 0x8000000000000000 := by omega
      -- opening gives the stored version, and the migration starts from there
      let m : Migrator := ⟨t, ds, v, true⟩
      obtain ⟨log, s₁, hbind, hcalm', hholds⟩ :=
        Migrator.bind_arrives hd.toServedWhile ds hcalm hv' hstart
      obtain ⟨r, hmigrate, hmigrator, -, hholds'⟩ := Migrator.migrate_arrives hd (m := m)
        (target.resolve m.latest) rfl rfl rfl hv' hlatest' hcalm' hholds
      exact ⟨_, m, log, s₁, _, r, m.clamp_resolve target hlatest, hbind, rfl, hmigrate,
        congrArg Migrator.version hmigrator, hholds'⟩
    · intro σ b i p state ds s s₁ rows calm v now hcommand hopens hd hcalm hstart hv hlatest
      exact run_goto now hcommand hopens hd hcalm hv hstart hlatest

/-- The state of a database in a file is saved when it has been opened, and the tree has the room
that it had. -/
theorem saved_of_connect {p : Project} {name : Option String}
    {s s' : Session (StoredDatabase × FileTree)} {state : StoredDatabase × FileTree}
    (h : connect StoredDatabase.connector.backend p name s = (.ok state, s')) :
    StoredDatabase.Saved state ∧ state.2.faults = s.tree.faults := by
  obtain ⟨⟨path, hopen⟩, -⟩ := connect_eq_ok h
  exact StoredDatabase.saved_of_open hopen

/-- The database is seven versions on, and there is one migration: the command goes back to it. -/
theorem goto_ends_at_the_last :
    let tree := ((FileTree.fresh.place "manatee.yml"
        (.file (.text "name: a\ndatabase:\n  path: db\n"))).place "db"
        (.file (.text "\x7b\"tables\":\x7b\"SchemaInfo\":[7]\x7d\x7d"))).place "migrations/1_a.json"
        (.file (.text "\x7b\"up\":[\x7b\"execute\":\"SELECT 1\"\x7d]\x7d"))
    let now : Timestamp := ⟨2026, 1, 1, 0, 0, 0⟩
    ∃ i db s', read ["goto", "--to", " +0099\n"] = .ok i ∧ run i now { tree } = (.ok (), s') ∧
      StoredDatabase.Saved (db, s'.tree) ∧
      Holds (StoredDatabase.rowsOf "SchemaInfo") 1 (db, s'.tree) := by
  intro tree now
  let i : Invocation := { command := .goto (.version 99) }
  let b := StoredDatabase.connector.backend
  have hopens : (opened? b i { tree }).map (fun x =>
      (x.1.config.versionTable, x.2.1.1.memory.rules,
        ((x.2.1.1.memory.rows? "SchemaInfo").bind List.head?).bind Json.int?, x.2.2.1.length,
        x.2.2.1.all fun desc => desc.sql.all fun sql => (MemoryDatabase.known? sql).isNone)) =
      some ("SchemaInfo", [], some 7, 1, true) := by decide +kernel
  obtain ⟨⟨p, state, ds, s₁⟩, hopened, hx⟩ := Option.map_eq_some_iff.mp hopens
  obtain ⟨htable, hrules, hrow, hlength, hsql⟩ : p.config.versionTable = "SchemaInfo" ∧
      state.1.memory.rules = [] ∧
      ((state.1.memory.rows? "SchemaInfo").bind List.head?).bind Json.int? = some 7 ∧
      ds.length = 1 ∧ ∀ desc ∈ ds, ∀ sql ∈ desc.sql, MemoryDatabase.known? sql = none := by
    simpa [Option.isNone_iff_eq_none] using hx
  have hname : Config.isIdentifier p.config.versionTable = true := by
    rw [htable]
    decide +kernel
  have hd := StoredDatabase.obliges (t := ⟨p.config.versionTable⟩) hname hsql
  -- the tree refuses nothing, so the database can be saved again and again
  obtain ⟨s₀, log, hproject, hconnect, -⟩ := exists_of_opened hopened
  obtain ⟨hsaved, hfaults⟩ := saved_of_connect hconnect
  have htree : s₀.tree = tree := tree_of_loadProject hproject
  have hroom : state.2.IsRoomy := fun location => by
    rw [hfaults, htree]
    simp only [tree, FileTree.faults_place, FileTree.fresh]
  have htext := TargetVersion.ofText?_eq_some_iff.mp
    (show TargetVersion.ofText? " +0099\n" = some (.version 99) by decide +kernel)
  obtain ⟨-, -, hgoto⟩ := goto_ends_at_nearest " +0099\n"
  obtain ⟨hread, -, -, hrun⟩ := hgoto _ htext
  obtain ⟨version, report, state', s', hversion, hdone, -, htree', hcalm, hholds, -⟩ :=
    hrun (v := 7) now rfl hopened hd ⟨hrules, hroom, hsaved⟩
      (.inr (VersionTable.holds_iff.mpr (by simpa [StoredDatabase.rowsOf, htable] using hrow)))
      (by decide) (by rw [hlength]; decide)
  rw [hlength] at hversion
  obtain rfl : version = 1 := by
    simp only [TargetVersion.nearest] at hversion
    omega
  rw [htable] at hholds
  have hstate : (state'.1, s'.tree) = state' := Prod.ext rfl htree'
  refine ⟨i, state'.1, s', hread, hdone, ?_, ?_⟩
  · rw [hstate]
    exact hcalm.saved
  · rw [hstate]
    exact hholds

end CommandLine
end SchemaMigration
