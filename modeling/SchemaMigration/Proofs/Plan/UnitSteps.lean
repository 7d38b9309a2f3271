import Mathlib.Data.List.Chain
import SchemaMigration.Migrator
import SchemaMigration.Proofs.Plan.Walk

/-!
# Plans step by step

What the plan between two versions consists of: as many steps as the versions are apart, each of
which moves the version by one towards the goal (`UnitSteps`) and has the key and the statements of
the migration that it crosses, if there is one (`Step.Crosses`).  So the keys of a plan are those of
the migrations between the two versions (`filterMap_key_build_of_le`, `filterMap_key_build_of_ge`).
A plan by way of a version between the two is the same plan, the plan back crosses the same
migrations in the opposite order, and the plan of a migrator goes up only where there are migrations
(`build_unit_steps`).
-/

namespace SchemaMigration

namespace Direction

/-- The version after a step from or to a position. -/
def versionAfter : Direction → Nat → Nat
  | .up, version => version
  | .down, version => version - 1

/-- The statements that apply a migration, or those that revert it. -/
def statements : Direction → Descriptor → List Statement
  | .up, desc => desc.upStatements
  | .down, desc => desc.downStatements

end Direction

/-- The step applies the migration at its position, or reverts it.  It has the key and the
statements of that migration, and neither a key nor statements past the last one. -/
structure Step.Crosses (ds : List Descriptor) (direction : Direction) (step : Step) : Prop where
  direction_eq : step.direction = direction
  one_le_version : 1 ≤ step.version
  versionAfter_eq : step.versionAfter = direction.versionAfter step.version
  carries : ∀ desc, ds[step.version - 1]? = some desc →
    step.key = some desc.key ∧ step.statements = direction.statements desc
  key_eq_none_iff : step.key = none ↔ ds.length < step.version
  statements_eq_nil : step.key = none → step.statements = []

namespace Plan

variable {ds : List Descriptor} {a b c : Nat}

/-! ### Single steps -/

/-- A step that is made from what stands at its position crosses the migration there. -/
theorem crosses_of_migrationAt? {step : Step} (hversion : 1 ≤ step.version)
    (hafter : step.versionAfter = step.direction.versionAfter step.version)
    (hkey : step.key = (migrationAt? ds step.version).map Descriptor.key)
    (hstatements : step.statements =
      ((migrationAt? ds step.version).map step.direction.statements).getD []) :
    step.Crosses ds step.direction := by
  have hmigration : migrationAt? ds step.version = ds[step.version - 1]? := if_neg (by omega)
  rw [hmigration] at hkey hstatements
  have hnone : step.key = none ↔ ds[step.version - 1]? = none := by
    rw [hkey, Option.map_eq_none_iff]
  refine ⟨rfl, hversion, hafter, fun desc hdesc => ?_, ?_, fun h => ?_⟩
  · rw [hkey, hstatements, hdesc]
    exact ⟨rfl, rfl⟩
  · rw [hnone, List.getElem?_eq_none_iff]
    omega
  · rw [hstatements, hnone.mp h]
    rfl

/-- Every step of a plan crosses a migration in the direction of the plan. -/
theorem crosses_of_mem_build {step : Step} (h : step ∈ (build ds a c).steps) :
    step.Crosses ds (if a < c then .up else .down) := by
  by_cases hac : a < c
  · rw [build_steps_of_le (Nat.le_of_lt hac)] at h
    obtain ⟨v, hv, rfl⟩ := List.mem_map.mp h
    rw [positions, List.mem_range'_1] at hv
    have hversion : 1 ≤ (upStep ds v).version := Nat.le_of_add_left_le hv.1
    rw [if_pos hac]
    exact crosses_of_migrationAt? hversion rfl rfl rfl
  · rw [build_steps_of_ge (Nat.le_of_not_lt hac)] at h
    obtain ⟨v, hv, rfl⟩ := List.mem_map.mp h
    rw [List.mem_reverse, positions, List.mem_range'_1] at hv
    have hversion : 1 ≤ (downStep ds v).version := Nat.le_of_add_left_le hv.1
    rw [if_neg hac]
    exact crosses_of_migrationAt? hversion rfl rfl rfl

/-! ### The versions on the way -/

/-- The versions on the way of some steps: the one at the start, and the one after each step. -/
def versions (start : Nat) (steps : List Step) : List Nat := start :: steps.map Step.versionAfter

theorem versions_build_of_le (h : a ≤ c) :
    versions a (build ds a c).steps = List.range' a (c - a + 1) := by
  have hup : Step.versionAfter ∘ upStep ds = id := rfl
  rw [versions, build_steps_of_le h, List.map_map, hup, List.map_id, positions, List.range'_succ]

theorem versions_build_of_ge (h : c ≤ a) :
    versions a (build ds a c).steps = (List.range' c (a - c + 1)).reverse := by
  have hdown : Step.versionAfter ∘ downStep ds = fun v => v - 1 := rfl
  have hpositions : (positions c a).map (fun v => v - 1) = List.range' c (a - c) :=
    List.map_sub_range' (Nat.le_add_left 1 c) (a - c)
  have hstart : c + (a - c) = a := Nat.add_sub_cancel' h
  rw [versions, build_steps_of_ge h, List.map_map, hdown, List.map_reverse, hpositions,
    List.range'_1_concat, List.reverse_append, hstart]
  rfl

/-- The versions on the way of a plan change by one, towards the goal. -/
theorem isChain_versions_build : (versions a (build ds a c).steps).IsChain
    fun v w => if a < c then w = v + 1 else v = w + 1 := by
  by_cases hac : a < c
  · simp only [if_pos hac]
    rw [versions_build_of_le (Nat.le_of_lt hac)]
    exact List.isChain_range' a _ 1
  · simp only [if_neg hac]
    rw [versions_build_of_ge (Nat.le_of_not_lt hac), List.isChain_reverse]
    exact List.isChain_range' c _ 1

/-- The steps lead from one version to another, one version at a time: each changes the version
towards the goal and crosses one migration. -/
structure UnitSteps (ds : List Descriptor) (a c : Nat) (steps : List Step) : Prop where
  length_eq : steps.length = ((a : Int) - c).natAbs
  isChain : (versions a steps).IsChain fun v w => if a < c then w = v + 1 else v = w + 1
  getLast_eq : (versions a steps).getLast? = some c
  crosses : ∀ step ∈ steps, step.Crosses ds (if a < c then .up else .down)

theorem unitSteps_build (ds : List Descriptor) (a c : Nat) :
    UnitSteps ds a c (build ds a c).steps where
  length_eq := by
    rw [length_build]
    omega
  isChain := isChain_versions_build
  getLast_eq := by
    rw [versions, List.getLast?_cons, List.getLast?_map]
    exact congrArg some (reached_build ds a c)
  crosses _ h := crosses_of_mem_build h

/-! ### The migrations on the way -/

/-- The positions from one version to another are those of the migrations between the two. -/
theorem filterMap_migrationAt?_range' (ds : List Descriptor) (a n : Nat) :
    (List.range' (a + 1) n).filterMap (migrationAt? ds) = (ds.drop a).take n := by
  -- the first position is taken off on one side, and the first migration on the other
  induction n generalizing a with
  | zero => simp
  | succ n ih =>
    have hfirst : migrationAt? ds (a + 1) = ds[a]? := rfl
    rw [List.range'_succ]
    rcases Nat.lt_or_ge a ds.length with ha | ha
    · have hsome : migrationAt? ds (a + 1) = some ds[a] := by
        rw [hfirst, List.getElem?_eq_getElem ha]
      rw [List.filterMap_cons_some hsome, ih, List.drop_eq_getElem_cons ha, List.take_succ_cons]
    · have hnone : migrationAt? ds (a + 1) = none := by
        rw [hfirst, List.getElem?_eq_none ha]
      rw [List.filterMap_cons_none hnone, ih, List.drop_of_length_le ha,
        List.drop_of_length_le (Nat.le_succ_of_le ha), List.take_nil, List.take_nil]

/-- A plan upwards has the keys of the migrations between its ends, in order. -/
theorem filterMap_key_build_of_le (ds : List Descriptor) (h : a ≤ c) :
    (build ds a c).steps.filterMap Step.key =
      ((ds.drop a).take (c - a)).map Descriptor.key := by
  have hkey : Step.key ∘ upStep ds = Option.map Descriptor.key ∘ migrationAt? ds := rfl
  rw [build_steps_of_le h, List.filterMap_map, hkey, ← filterMap_migrationAt?_range',
    List.map_filterMap]
  rfl

/-- A plan downwards has the keys of the migrations between its ends, the last one first. -/
theorem filterMap_key_build_of_ge (ds : List Descriptor) (h : c ≤ a) :
    (build ds a c).steps.filterMap Step.key =
      (((ds.drop c).take (a - c)).map Descriptor.key).reverse := by
  have hkey : Step.key ∘ downStep ds = Option.map Descriptor.key ∘ migrationAt? ds := rfl
  rw [build_steps_of_ge h, List.filterMap_map, hkey, ← filterMap_migrationAt?_range',
    List.map_filterMap, List.filterMap_reverse]
  rfl

/-- The first step of a plan downwards reverts the migration at the version that it starts from. -/
theorem head?_build_of_gt (h : c < a) :
    (build ds a c).steps.head? = some (downStep ds a) := by
  have hlast : c + 1 + (a - c - 1) = a := by omega
  have hcount : a - c = a - c - 1 + 1 := by omega
  rw [build_steps_of_ge (Nat.le_of_lt h), positions, hcount, List.range'_1_concat,
    List.reverse_append, hlast]
  rfl

/-- All steps of a plan upwards go up. -/
theorem filter_up_build_of_le (ds : List Descriptor) (h : a ≤ c) :
    ((build ds a c).steps.filter fun step => step.direction = .up) = (build ds a c).steps := by
  rw [build_steps_of_le h, List.filter_eq_self]
  intro step hstep
  obtain ⟨v, -, rfl⟩ := List.mem_map.mp hstep
  rfl

/-- No step of a plan downwards goes up. -/
theorem filter_up_build_of_ge (ds : List Descriptor) (h : c ≤ a) :
    ((build ds a c).steps.filter fun step => step.direction = .up) = [] := by
  rw [build_steps_of_ge h, List.filter_eq_nil_iff]
  intro step hstep
  obtain ⟨v, -, rfl⟩ := List.mem_map.mp hstep
  exact Bool.false_ne_true

/-! ### Plans back -/

/-- The plan back is for the same positions, in the opposite order. -/
theorem map_version_build (ds : List Descriptor) (a c : Nat) :
    (build ds c a).steps.map Step.version =
      ((build ds a c).steps.map Step.version).reverse := by
  have hup : Step.version ∘ upStep ds = id := rfl
  have hdown : Step.version ∘ downStep ds = id := rfl
  rcases Nat.le_total a c with h | h
  · rw [build_steps_of_le h, build_steps_of_ge h, List.map_map, List.map_map, hup, hdown,
      List.map_id, List.map_id]
  · rw [build_steps_of_le h, build_steps_of_ge h, List.map_map, List.map_map, hup, hdown,
      List.map_id, List.map_id, List.reverse_reverse]

/-! ### Plans of migrators -/

/-- A migrator goes up only to where there are migrations. -/
theorem key_isSome_of_up {m : Migrator} {target : Int} {step : Step}
    (h : step ∈ (m.plan target).steps) (hup : step.direction = .up) : step.key.isSome = true := by
  have hcrosses := crosses_of_mem_build h
  have hversion := version_of_mem h
  have hlatest : m.clamp target ≤ m.descriptors.length := Nat.min_le_right _ _
  have hascends : m.version < m.clamp target := by
    by_contra hdown
    rw [if_neg hdown] at hcrosses
    exact Direction.noConfusion (hup.symm.trans hcrosses.direction_eq)
  rw [Option.isSome_iff_ne_none, ne_eq, hcrosses.key_eq_none_iff]
  omega

/-! ### Main theorem -/

/-- **A plan goes one version at a time.**  The plan from one version to another has as many steps
as the versions are apart.  Each step moves the version by one towards the goal, which the last one
reaches, and has the key and the statements of the migration that it crosses; past the last
migration it has neither.  At each version between the two the plan falls into the plan to that
version and the plan from there.  The plan back crosses the same positions in the opposite order.
In the plans of a migrator the steps up have keys. -/
theorem build_unit_steps :
    (∀ ds a c, UnitSteps ds a c (build ds a c).steps) ∧
    (∀ ds a b c, (a ≤ b ∧ b ≤ c ∨ c ≤ b ∧ b ≤ a) →
      (build ds a c).steps = (build ds a b).steps ++ (build ds b c).steps) ∧
    (∀ ds a c, (build ds c a).steps.map Step.version =
      ((build ds a c).steps.map Step.version).reverse) ∧
    ∀ (m : Migrator) (target : Int), ∀ step ∈ (m.plan target).steps, step.direction = .up →
      step.key.isSome = true :=
  ⟨unitSteps_build, fun _ _ _ _ hb => (build_append hb).symm, map_version_build,
    fun _ _ _ hstep hup => key_isSome_of_up hstep hup⟩

/-- From version four down to version none, with one migration: the plan by way of version two,
where there is no migration yet, and a step up that a migrator plans. -/
theorem build_unit_steps_past_the_last :
    let desc : Descriptor :=
      { key := ⟨"001", by decide⟩, path := "001.yml", up := [.raw "SELECT 1"], down := none }
    let m : Migrator := { table := ⟨"SchemaInfo"⟩, descriptors := [desc], version := 0, ready := true }
    (0 ≤ 2 ∧ 2 ≤ 4) ∧
    (build [desc] 4 0).steps = (build [desc] 4 2).steps ++ (build [desc] 2 0).steps ∧
    ∃ step ∈ (m.plan 9).steps, step.direction = .up ∧ step.key.isSome = true := by
  intro desc m
  obtain ⟨-, hsplit, -, hkeys⟩ := build_unit_steps
  have hway : 0 ≤ 2 ∧ 2 ≤ 4 := by decide
  have hstep : upStep [desc] 1 ∈ (m.plan 9).steps := .head _
  exact ⟨hway, hsplit [desc] 4 2 0 (.inr hway), upStep [desc] 1, hstep, rfl,
    hkeys m 9 _ hstep rfl⟩

end Plan
end SchemaMigration
