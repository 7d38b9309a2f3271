import SchemaMigration.Proofs.Migrator.Binding
import SchemaMigration.Proofs.Migrator.Recorded
import SchemaMigration.Proofs.Plan.History

/-!
# The lifetime of a database

A `Lifetime` is a database in use: migrators are opened on it one after the other, and each is asked
for any versions in turn.  `Lifetime.Sound` is what holds at every moment of it: the history of the
completed steps is a walk from version zero, and where it has led to is what the table holds and
what the migrator that is open believes.  Every action keeps it (`Sound.act`), so that it holds
after every run (`Sound.run`).

Which calls are refused is a parameter of `lifetime_history`, so that it speaks of every moment
inside an action too: that moment is the end of the same run on a database that refuses all calls
from then on (`Database.lostAfter`).
-/

namespace SchemaMigration

/-! ### Lifetimes -/

/-- What is done with a database: a migrator is opened on it, in place of the one before, or the
one that is open moves it to a version. -/
inductive Action where
  | «open»
  | migrate (target : Int)
  deriving DecidableEq, Repr

/-- A database in use. -/
structure Lifetime (σ : Type) where
  /-- the migrator that is open -/
  migrator : Option Migrator
  database : σ
  /-- the steps that have been completed, the oldest first -/
  history : List Step

namespace Lifetime

variable {σ : Type}

/-- A database that has not been used. -/
def start (s : σ) : Lifetime σ := { migrator := none, database := s, history := [] }

/-- The lifetime after an action.  A migrator that cannot be opened leaves none, and where none is
open nothing can be moved. -/
def act (d : Database σ) (ds : List Descriptor) (t : VersionTable) (x : Lifetime σ) :
    Action → Lifetime σ
  | .open =>
    let (opened, _, s) := Migrator.bind d ds t true x.database
    { x with migrator := opened.toOption, database := s }
  | .migrate target =>
    match x.migrator with
    | none => x
    | some m =>
      let r := (Migrator.migrate d m target x.database).2
      { migrator := some r.migrator
        database := r.database
        history := x.history ++ Migrator.completedBy d m target x.database }

/-- The lifetime after actions in order. -/
def run (d : Database σ) (ds : List Descriptor) (t : VersionTable) (actions : List Action)
    (x : Lifetime σ) : Lifetime σ :=
  actions.foldl (act d ds t) x

/-- What holds at every moment in the life of a database that had no version table. -/
inductive Sound (rows : σ → Option (List Json)) (ds : List Descriptor) (t : VersionTable)
    (x : Lifetime σ) : Prop where
  /-- no version has been recorded yet -/
  | fresh (hrows : rows x.database = none ∨ rows x.database = some []) (hhistory : x.history = [])
      (hmigrator : x.migrator = none)
  /-- the table and the open migrator have the version that the history leads to -/
  | recorded {v : Nat} (hrows : rows x.database = some [.nat v]) (hv : v ≤ ds.length)
      (hwalk : Walk ds 0 x.history v)
      (hsteps : ∀ step ∈ x.history, 1 ≤ step.version ∧ step.version ≤ ds.length)
      (hmigrator : ∀ m, x.migrator = some m → m = ⟨t, ds, v, true⟩)

end Lifetime

/-! ### What every action keeps -/

namespace Lifetime

variable {σ : Type} {d : Database σ} {t : VersionTable} {rows : σ → Option (List Json)}
  {ds : List Descriptor} {x : Lifetime σ}

theorem Sound.open (hd : t.Served d rows) (h : x.Sound rows ds t) :
    (x.act d ds t .open).Sound rows ds t := by
  cases hbind : Migrator.bind d ds t true x.database with
  | mk opened rest =>
    obtain ⟨log, s⟩ := rest
    have hact : x.act d ds t .open = { x with migrator := opened.toOption, database := s } := by
      simp only [act, hbind]
    rw [hact]
    -- opening keeps the history, so only the rows have to be followed
    cases h with
    | fresh hrows hhistory _ =>
      obtain ⟨⟨e, rfl⟩, hrows'⟩ | ⟨hrows', hok⟩ := Migrator.bind_rows_fresh hd hbind hrows
      · exact .fresh hrows' hhistory rfl
      · have hwalk : Walk ds 0 x.history 0 := by
          rw [hhistory]
          exact .nil 0
        exact .recorded hrows' (Nat.zero_le _) hwalk (by simp [hhistory])
          fun m hm => hok m (Except.eq_ok_of_toOption hm)
    | @recorded v hrows hv hwalk hsteps _ =>
      obtain ⟨hrows', hok⟩ := Migrator.bind_rows_some hd hbind hrows
      refine .recorded hrows' hv hwalk hsteps fun m hm => ?_
      obtain ⟨v', hm', hvalue⟩ := hok m (Except.eq_ok_of_toOption hm)
      have hv' : (v : Int) = v' := Option.some.inj hvalue
      rw [hm', show v' = v by omega]

theorem Sound.migrate (hd : t.Served d rows) (hsql : LeaveAlone d rows ds) (h : x.Sound rows ds t)
    (target : Int) : (x.act d ds t (.migrate target)).Sound rows ds t := by
  cases hm : x.migrator with
  | none =>
    have hact : x.act d ds t (.migrate target) = x := by simp only [act, hm]
    rwa [hact]
  | some m =>
    cases h with
    | fresh _ _ hmigrator => rw [hmigrator] at hm; cases hm
    | @recorded v hrows hv hwalk hsteps hmigrator =>
      obtain rfl := hmigrator m hm
      cases hmigrate : Migrator.migrate d ⟨t, ds, v, true⟩ target x.database with
      | mk result r =>
        have houtcome := Migrator.migrate_outcome hmigrate
        have hact : x.act d ds t (.migrate target) =
            { migrator := some r.migrator
              database := r.database
              history := x.history ++
                Migrator.completedBy d ⟨t, ds, v, true⟩ target x.database } := by
          simp only [act, hm, hmigrate]
        rw [hact]
        -- the steps that are completed carry the history on from the version that is recorded
        obtain ⟨hwalk', hle⟩ := houtcome.walk
        refine .recorded (v := r.migrator.version) ?_ (hle hv) (hwalk.append hwalk') ?_ ?_
        · exact Migrator.rows_migrate hd hsql houtcome (n := 1) hrows
        · intro step hstep
          rcases List.mem_append.mp hstep with hold | hnew
          · exact hsteps step hold
          · have hversion := houtcome.version_of_mem hnew
            rwa [Nat.max_eq_right hv] at hversion
        · rintro m' ⟨⟩
          have hready := houtcome.ready_of_ready rfl
          have heq := houtcome.migrator_eq
          rw [← houtcome.version_eq, hready] at heq
          exact heq

theorem Sound.act (hd : t.Served d rows) (hsql : LeaveAlone d rows ds) (h : x.Sound rows ds t)
    (action : Action) : (x.act d ds t action).Sound rows ds t := by
  cases action with
  | «open» => exact h.open hd
  | migrate target => exact h.migrate hd hsql target

theorem Sound.run (hd : t.Served d rows) (hsql : LeaveAlone d rows ds) (h : x.Sound rows ds t)
    (actions : List Action) : (x.run d ds t actions).Sound rows ds t := by
  induction actions generalizing x with
  | nil => exact h
  | cons action rest ih => exact ih (h.act hd hsql action)

end Lifetime

/-- **The history of a database.**  Take a database that serves the version table, has no such table
at first and is used by any actions, and let any of its calls be refused.  Then the steps of each
migration alternate, beginning with `up`; each was completed where its migration was next in its
direction; a row of the table holds the number of the migrations that are applied, which are the
first ones; and the open migrator has that version. -/
theorem lifetime_history {σ : Type} {d : Database σ} {t : VersionTable}
    {rows : σ → Option (List Json)} {ds : List Descriptor} (hd : t.Served d rows)
    (hsql : LeaveAlone d rows ds) {s : σ} (hs : rows s = none) (actions : List Action)
    (refuses : Nat → Option DatabaseError) :
    let x := (Lifetime.start (s, 0)).run (d.disrupted refuses) ds t actions
    (∀ v, Alternating (directions x.history v)) ∧
    (∀ before step after, x.history = before ++ step :: after →
      (1 ≤ step.version ∧ step.version ≤ ds.length) ∧
      ((step = Plan.upStep ds step.version ∧
          ∀ v, Applied before v ↔ 1 ≤ v ∧ v < step.version) ∨
        (step = Plan.downStep ds step.version ∧
          ∀ v, Applied before v ↔ 1 ≤ v ∧ v ≤ step.version))) ∧
    (∀ cells, rows x.database.1 = some cells → cells ≠ [] →
      ∃ v, v ≤ ds.length ∧ cells = [.nat v] ∧ ∀ j, Applied x.history j ↔ 1 ≤ j ∧ j ≤ v) ∧
    (∀ m, x.migrator = some m → rows x.database.1 = some [.nat m.version]) := by
  intro x
  have hstart : (Lifetime.start (s, 0)).Sound (fun y : σ × Nat => rows y.1) ds t :=
    .fresh (.inl hs) rfl rfl
  have hsound : x.Sound (fun y => rows y.1) ds t :=
    hstart.run (hd.disrupted _) (hsql.disrupted _) actions
  -- all that is claimed can be read off the invariant, which every run keeps
  cases hsound with
  | fresh hrows hhistory hmigrator =>
    rw [hhistory, hmigrator]
    refine ⟨fun v => (show Walk ds 0 [] 0 from .nil 0).alternating v, fun before step after h => ?_,
      fun cells hcells hne => ?_, fun m hm => by cases hm⟩
    · exact absurd h (by simp)
    · obtain h | h := hrows
      · rw [h] at hcells
        cases hcells
      · rw [h] at hcells
        exact absurd (Option.some.inj hcells).symm hne
  | @recorded v hrows hv hwalk hsteps hmigrator =>
    refine ⟨hwalk.alternating, fun before step after h => ?_, fun cells hcells hne => ?_,
      fun m hm => ?_⟩
    · rw [h] at hwalk hsteps
      exact ⟨hsteps step (by simp), hwalk.step_of_split⟩
    · exact ⟨v, hv, Option.some.inj (hcells.symm.trans hrows), hwalk.applied_iff⟩
    · rw [hmigrator m hm]
      exact hrows

/-- The connection to a database in memory is lost while a migration is reverted: it stays applied
and recorded. -/
theorem lifetime_history_of_lost_connection :
    let x := (Lifetime.start (({} : MemoryDatabase), 0)).run
      (MemoryDatabase.strict.lostAfter 9 ⟨.connection, "lost"⟩) [Descriptor.probe] ⟨"SchemaInfo"⟩
      [.open, .migrate 1, .open, .migrate 0]
    (∀ v, Alternating (directions x.history v)) ∧
    (∀ before step after, x.history = before ++ step :: after →
      (1 ≤ step.version ∧ step.version ≤ 1) ∧
      ((step = Plan.upStep [Descriptor.probe] step.version ∧
          ∀ v, Applied before v ↔ 1 ≤ v ∧ v < step.version) ∨
        (step = Plan.downStep [Descriptor.probe] step.version ∧
          ∀ v, Applied before v ↔ 1 ≤ v ∧ v ≤ step.version))) ∧
    (∀ cells, x.database.1.rows? "SchemaInfo" = some cells → cells ≠ [] →
      ∃ v, v ≤ 1 ∧ cells = [.nat v] ∧ ∀ j, Applied x.history j ↔ 1 ≤ j ∧ j ≤ v) ∧
    (∀ m, x.migrator = some m → x.database.1.rows? "SchemaInfo" = some [.nat m.version]) ∧
    x.history = [Plan.upStep [Descriptor.probe] 1] := by
  intro x
  obtain ⟨halternating, hsteps, hrow, hmigrator⟩ :=
    lifetime_history (MemoryDatabase.served_strict (t := ⟨"SchemaInfo"⟩) (by decide +kernel))
      (leaveAlone_probe "SchemaInfo") (s := {}) rfl [.open, .migrate 1, .open, .migrate 0]
      fun call => if call < 9 then none else some ⟨.connection, "lost"⟩
  exact ⟨halternating, hsteps, hrow, hmigrator, by decide +kernel⟩

end SchemaMigration
