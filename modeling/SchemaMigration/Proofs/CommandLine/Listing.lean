import SchemaMigration.CommandLine.Listing
import SchemaMigration.Proofs.Plan.UnitSteps

/-!
# Listings and plans

A listing marks migrations by their positions, and a plan has steps between versions; neither is
made from the other.  In a listing the migrations that are marked as applied stand in front of the
others (`filter_applied`, `filter_pending`), and the one that is marked as the current one is the
migration at the version (`filter_current`).  So a listing shows what a migration down to version
zero reverts, what a migration up to the highest version applies, and where the former begins
(`agrees_with_plans`).
-/

namespace SchemaMigration

/-! ### The plans to either end -/

namespace Migrator

theorem clamp_latest (m : Migrator) : m.clamp m.latest = m.latest := by
  rw [clamp, Int.toNat_natCast, Nat.min_self]

theorem clamp_zero (m : Migrator) : m.clamp 0 = 0 := Nat.zero_min m.latest

/-- A migration down to version zero reverts the migrations up to the version, the last one
first. -/
theorem filterMap_key_plan_zero (m : Migrator) : (m.plan 0).steps.filterMap Step.key =
    ((m.descriptors.take m.version).map Descriptor.key).reverse := by
  rw [plan, clamp_zero]
  exact Plan.filterMap_key_build_of_ge m.descriptors (Nat.zero_le m.version)

/-- A migration up to the highest version applies the migrations past the version. -/
theorem map_key_plan_latest (m : Migrator) :
    ((m.plan m.latest).steps.filter fun step => step.direction = .up).map Step.key =
      (m.descriptors.drop m.version).map fun d => some d.key := by
  have hplan : m.plan m.latest = Plan.build m.descriptors m.version m.latest := by
    rw [plan, clamp_latest]
  rcases Nat.le_total m.version m.latest with hup | hdown
  · have hups := Plan.filter_up_build_of_le m.descriptors hup
    rw [← hplan] at hups
    -- there is a migration at every position that is crossed
    have hkeyed : ∀ key ∈ (m.plan m.latest).steps.map Step.key, key.isSome = true := by
      intro key hkey
      obtain ⟨step, hstep, rfl⟩ := List.mem_map.mp hkey
      exact Plan.key_isSome_of_up hstep (of_decide_eq_true (List.filter_eq_self.mp hups step hstep))
    have hrest : (m.descriptors.drop m.version).length ≤ m.latest - m.version := by
      rw [List.length_drop, latest]
    rw [hups, ← List.filter_eq_self.mpr hkeyed, ← List.map_filterMap_some_eq_filter_map_isSome,
      hplan, Plan.filterMap_key_build_of_le _ hup, List.take_of_length_le hrest, List.map_map]
    rfl
  · rw [hplan, Plan.filter_up_build_of_ge _ hdown, List.drop_of_length_le hdown]
    rfl

/-- The first step of a migration down to version zero reverts the migration at the version. -/
theorem head?_plan_zero {m : Migrator} (h : 1 ≤ m.version) :
    (m.plan 0).steps.head? = some (Plan.downStep m.descriptors m.version) := by
  rw [plan, clamp_zero]
  exact Plan.head?_build_of_gt h

end Migrator

namespace Listing

/-! ### Migrations in a row -/

/-- What is said about migrations that stand in a row, from a position on. -/
def entries (version position : Nat) (ds : List Descriptor) : List MigrationInfo :=
  (ds.zipIdx position).map fun (d, k) => info version d k

variable {version position : Nat} {ds : List Descriptor} {e : MigrationInfo}

theorem migrations_ofMigrator (m : Migrator) :
    (ofMigrator m).migrations = entries m.version 0 m.descriptors := rfl

theorem entries_append (version position : Nat) (ds ds' : List Descriptor) :
    entries version position (ds ++ ds') =
      entries version position ds ++ entries version (position + ds.length) ds' := by
  rw [entries, List.zipIdx_append, List.map_append, entries, entries]

theorem entries_cons (d : Descriptor) (ds : List Descriptor) :
    entries version position (d :: ds) =
      info version d position :: entries version (position + 1) ds := rfl

theorem map_version_entries (version position : Nat) (ds : List Descriptor) :
    (entries version position ds).map MigrationInfo.version =
      List.range' (position + 1) ds.length := by
  induction ds generalizing position with
  | nil => rfl
  | cons d ds ih =>
    rw [entries_cons, List.map_cons, ih, List.length_cons, List.range'_succ]
    rfl

theorem map_key_entries (version position : Nat) (ds : List Descriptor) :
    (entries version position ds).map MigrationInfo.key = ds.map fun d => d.key.text := by
  induction ds generalizing position with
  | nil => rfl
  | cons d ds ih =>
    rw [entries_cons, List.map_cons, ih, List.map_cons]
    rfl

theorem version_of_mem (h : e ∈ entries version position ds) :
    position + 1 ≤ e.version ∧ e.version ≤ position + ds.length := by
  have hversion : e.version ∈ (entries version position ds).map MigrationInfo.version :=
    List.mem_map_of_mem h
  rw [map_version_entries, List.mem_range'_1] at hversion
  omega

/-- The marks of a migration compare its own version with the version of the database. -/
theorem marks_of_mem (h : e ∈ entries version position ds) :
    (e.applied = true ↔ e.version ≤ version) ∧ (e.current = true ↔ e.version = version) := by
  obtain ⟨⟨d, k⟩, -, rfl⟩ := List.mem_map.mp h
  constructor
  · show decide (k < version) = true ↔ k + 1 ≤ version
    rw [decide_eq_true_iff, Nat.succ_le_iff]
  · show (k + 1 == version) = true ↔ k + 1 = version
    exact beq_iff_eq

/-! ### The marks of a listing -/

/-- A listing shows the migrations up to the version first, and then the others. -/
theorem entries_eq_append (version : Nat) (ds : List Descriptor) :
    entries version 0 ds = entries version 0 (ds.take version) ++
      entries version (min version ds.length) (ds.drop version) := by
  have hsplit := entries_append version 0 (ds.take version) (ds.drop version)
  rwa [List.take_append_drop, List.length_take, Nat.zero_add] at hsplit

theorem applied_of_mem_take (h : e ∈ entries version 0 (ds.take version)) : e.applied = true := by
  have hversion := version_of_mem h
  rw [List.length_take] at hversion
  rw [(marks_of_mem h).1]
  omega

theorem pending_of_mem_drop
    (h : e ∈ entries version (min version ds.length) (ds.drop version)) : ¬ e.applied = true := by
  have hversion := version_of_mem h
  rw [List.length_drop] at hversion
  rw [(marks_of_mem h).1]
  omega

/-- What is marked as applied are the migrations up to the version. -/
theorem filter_applied : (entries version 0 ds).filter MigrationInfo.applied =
    entries version 0 (ds.take version) := by
  rw [entries_eq_append, List.filter_append,
    List.filter_eq_self.mpr fun e he => applied_of_mem_take he,
    List.filter_eq_nil_iff.mpr fun e he => pending_of_mem_drop he, List.append_nil]

/-- What is not marked as applied are the migrations past the version. -/
theorem filter_pending : (entries version 0 ds).filter (fun e => !e.applied) =
    entries version (min version ds.length) (ds.drop version) := by
  have happlied : ∀ e ∈ entries version 0 (ds.take version), ¬ (!e.applied) = true := by
    intro e he
    simp [applied_of_mem_take he]
  have hpending : ∀ e ∈ entries version (min version ds.length) (ds.drop version),
      (!e.applied) = true := by
    intro e he
    simp [pending_of_mem_drop he]
  rw [entries_eq_append, List.filter_append, List.filter_eq_nil_iff.mpr happlied,
    List.filter_eq_self.mpr hpending, List.nil_append]

/-- The migration at the version is marked as the current one, and no other is. -/
theorem filter_current (h : 1 ≤ version) (h' : version ≤ ds.length) :
    ∃ d, Plan.migrationAt? ds version = some d ∧
      (entries version 0 ds).filter MigrationInfo.current = [info version d (version - 1)] := by
  obtain ⟨k, rfl⟩ : ∃ k, version = k + 1 := ⟨version - 1, by omega⟩
  have hk : k < ds.length := by omega
  -- the entry at the version stands between those before it and those behind it
  have hsplit : ds = ds.take k ++ ds[k] :: ds.drop (k + 1) := by
    rw [← List.drop_eq_getElem_cons hk, List.take_append_drop]
  have hlength : 0 + (ds.take k).length = k := by
    rw [List.length_take]
    omega
  have hbefore : ∀ e ∈ entries (k + 1) 0 (ds.take k), ¬ e.current = true := by
    intro e he
    have hversion := version_of_mem he
    rw [(marks_of_mem he).2]
    omega
  have hbehind : ∀ e ∈ entries (k + 1) (k + 1) (ds.drop (k + 1)), ¬ e.current = true := by
    intro e he
    have hversion := version_of_mem he
    rw [(marks_of_mem he).2]
    omega
  have hcurrent : (info (k + 1) ds[k] k).current = true := beq_self_eq_true _
  refine ⟨ds[k], List.getElem?_eq_getElem hk, ?_⟩
  conv_lhs => rw [hsplit]
  rw [entries_append, hlength, entries_cons, List.filter_append,
    List.filter_eq_nil_iff.mpr hbefore, List.filter_cons_of_pos hcurrent,
    List.filter_eq_nil_iff.mpr hbehind]
  rfl

/-- A migration is marked as the current one only where the version is that of a migration. -/
theorem current_of_mem (h : e ∈ entries version 0 ds) (hcurrent : e.current = true) :
    1 ≤ version ∧ version ≤ ds.length := by
  have hversion := version_of_mem h
  rw [(marks_of_mem h).2] at hcurrent
  omega

/-! ### Main theorem -/

/-- **A listing agrees with the plans of its migrator.**  The migrations are listed in order, with
the versions from one on and with their keys.  Those that are marked as applied are the ones that
the plan to version zero reverts, in the opposite order, and the others are the ones that the plan
to the highest version applies, in order.  One migration is marked as the current one exactly if the
version is that of a migration; it is then the one that the first step of the plan to version zero
reverts, and otherwise none is marked. -/
theorem agrees_with_plans (m : Migrator) :
    let listed := (ofMigrator m).migrations
    let back := (m.plan 0).steps
    let forth := (m.plan m.latest).steps
    listed.map MigrationInfo.version = List.range' 1 m.latest ∧
    listed.map MigrationInfo.key = m.descriptors.map (fun d => d.key.text) ∧
    (listed.filter MigrationInfo.applied).map MigrationInfo.key =
      ((back.filterMap Step.key).map MigrationKey.text).reverse ∧
    ((listed.filter fun e => !e.applied).map MigrationInfo.key).map some =
      ((forth.filter fun step => step.direction = .up).map Step.key).map
        (Option.map MigrationKey.text) ∧
    ((∃ e, listed.filter MigrationInfo.current = [e]) ↔
      1 ≤ m.version ∧ m.version ≤ m.latest) ∧
    (∀ e, listed.filter MigrationInfo.current = [e] → ∃ step key, back.head? = some step ∧
      step.key = some key ∧ e.key = key.text ∧ e.version = step.version) ∧
    (¬ (1 ≤ m.version ∧ m.version ≤ m.latest) → ∀ e ∈ listed, e.current = false) := by
  intro listed back forth
  have hlisted : listed = entries m.version 0 m.descriptors := migrations_ofMigrator m
  -- an entry is marked only if there is a migration at the version
  have hmarked {e : MigrationInfo} (he : listed.filter MigrationInfo.current = [e]) :
      1 ≤ m.version ∧ m.version ≤ m.latest := by
    have hmem : e ∈ listed.filter MigrationInfo.current := by
      rw [he]
      exact List.mem_singleton_self e
    rw [hlisted, List.mem_filter] at hmem
    exact current_of_mem hmem.1 hmem.2
  refine ⟨?_, ?_, ?_, ?_, ?_, ?_, ?_⟩
  · rw [hlisted]
    exact map_version_entries m.version 0 m.descriptors
  · rw [hlisted]
    exact map_key_entries m.version 0 m.descriptors
  · rw [hlisted, filter_applied, map_key_entries, Migrator.filterMap_key_plan_zero,
      List.map_reverse, List.reverse_reverse, List.map_map]
    rfl
  · rw [hlisted, filter_pending, map_key_entries, Migrator.map_key_plan_latest, List.map_map,
      List.map_map]
    rfl
  · constructor
    · rintro ⟨e, he⟩
      exact hmarked he
    · rintro ⟨hlow, hhigh⟩
      obtain ⟨d, -, hd⟩ := filter_current hlow hhigh
      rw [hlisted]
      exact ⟨_, hd⟩
  · intro e he
    obtain ⟨hlow, hhigh⟩ := hmarked he
    obtain ⟨d, hmigration, hd⟩ := filter_current hlow hhigh
    rw [hlisted, hd] at he
    obtain rfl : info m.version d (m.version - 1) = e := List.singleton_inj.mp he
    -- the plan back starts with the step that reverts this very migration
    have hkey : (Plan.downStep m.descriptors m.version).key = some d.key := by
      rw [Plan.downStep, Plan.revertStep, hmigration]
      rfl
    exact ⟨_, d.key, Migrator.head?_plan_zero hlow, hkey, rfl, Nat.sub_add_cancel hlow⟩
  · intro hversion e he
    rw [hlisted] at he
    rw [← Bool.not_eq_true]
    exact fun hcurrent => hversion (current_of_mem he hcurrent)

/-- Two migrations, in a database in which the first is applied and in one that is ahead of both. -/
theorem agrees_with_plans_of_two :
    let first : Descriptor := ⟨⟨"001_a", by decide⟩, "001_a.json", [.raw "SELECT 1"], none⟩
    let second : Descriptor := ⟨⟨"002_b", by decide⟩, "002_b.json", [.raw "SELECT 2"], some []⟩
    let m : Migrator := ⟨⟨"SchemaInfo"⟩, [first, second], 1, true⟩
    let ahead : Migrator := { m with version := 3 }
    (∃ e step key, (ofMigrator m).migrations.filter MigrationInfo.current = [e] ∧
      (m.plan 0).steps.head? = some step ∧ step.key = some key ∧ e.key = key.text ∧
      e.version = step.version) ∧
    ¬ (1 ≤ ahead.version ∧ ahead.version ≤ ahead.latest) ∧
    ∀ e ∈ (ofMigrator ahead).migrations, e.current = false := by
  intro first second m ahead
  obtain ⟨-, -, -, -, hone, hfirst, -⟩ := agrees_with_plans m
  obtain ⟨-, -, -, -, -, -, hnone⟩ := agrees_with_plans ahead
  have hversion : 1 ≤ m.version ∧ m.version ≤ m.latest := by decide
  have hahead : ¬ (1 ≤ ahead.version ∧ ahead.version ≤ ahead.latest) := by decide
  obtain ⟨e, he⟩ := hone.mpr hversion
  obtain ⟨step, key, hstep, hkey, htext, hposition⟩ := hfirst e he
  exact ⟨⟨e, step, key, he, hstep, hkey, htext, hposition⟩, hahead, hnone hahead⟩

end Listing
end SchemaMigration
