import SchemaMigration.Plan

/-!
# Plans as walks

`Walk ds v steps w`: the steps lead from version `v` to version `w`, each one version up or down,
and each is the step for the migration it crosses.  The plan from `v` to `w` is such a walk
(`build_walk`); it splits at every version between the two (`build_append`), and what begins it is
again a plan (`build_eq_append`).
-/

namespace SchemaMigration

/-! ### The version that steps lead to -/

/-- The version after the last of some steps; without steps it is the version at the start. -/
def reached (steps : List Step) (start : Nat) : Nat :=
  (steps.getLast?.map Step.versionAfter).getD start

@[simp]
theorem reached_nil (start : Nat) : reached [] start = start := rfl

@[simp]
theorem reached_cons (step : Step) (rest : List Step) (start : Nat) :
    reached (step :: rest) start = reached rest step.versionAfter := by
  rw [reached, reached, List.getLast?_cons]
  cases rest.getLast? <;> rfl

/-! ### Walks -/

/-- The steps lead from one version to another, one migration at a time. -/
inductive Walk (ds : List Descriptor) : Nat → List Step → Nat → Prop
  | nil (v : Nat) : Walk ds v [] v
  | up {v w : Nat} {rest : List Step} (hrest : Walk ds (v + 1) rest w) :
      Walk ds v (Plan.upStep ds (v + 1) :: rest) w
  | down {v w : Nat} {rest : List Step} (hrest : Walk ds v rest w) :
      Walk ds (v + 1) (Plan.downStep ds (v + 1) :: rest) w

namespace Walk

variable {ds : List Descriptor} {u v w : Nat} {steps : List Step}

theorem append {xs ys : List Step} (hx : Walk ds v xs u) (hy : Walk ds u ys w) :
    Walk ds v (xs ++ ys) w := by
  induction hx with
  | nil => exact hy
  | up _ ih => exact .up (ih hy)
  | down _ ih => exact .down (ih hy)

theorem split {xs ys : List Step} (h : Walk ds v (xs ++ ys) w) :
    ∃ u, Walk ds v xs u ∧ Walk ds u ys w := by
  induction xs generalizing v with
  | nil => exact ⟨v, .nil v, h⟩
  | cons step xs ih =>
    cases h with
    | up hrest =>
      obtain ⟨u, hx, hy⟩ := ih hrest
      exact ⟨u, .up hx, hy⟩
    | down hrest =>
      obtain ⟨u, hx, hy⟩ := ih hrest
      exact ⟨u, .down hx, hy⟩

theorem reached_eq (h : Walk ds v steps w) : reached steps v = w := by
  induction h with
  | nil => rfl
  | up _ ih => rwa [reached_cons]
  | down _ ih => rwa [reached_cons]

end Walk

/-! ### Plans -/

namespace Plan

variable {ds : List Descriptor} {a b c : Nat}

theorem build_steps_of_le (h : a ≤ c) :
    (build ds a c).steps = (positions a c).map (upStep ds) := by
  simp only [build, buildLogged]
  split
  · rw [List.map_map]
    rfl
  · have hac : a = c := by omega
    simp [hac, positions]

theorem build_steps_of_ge (h : c ≤ a) :
    (build ds a c).steps = (positions c a).reverse.map (downStep ds) := by
  simp only [build, buildLogged]
  rw [if_neg (by omega), List.map_map]
  rfl

/-- The records of a plan are those of the migrations that it reverts. -/
theorem buildLog_of_ge (h : c ≤ a) :
    buildLog ds a c = (positions c a).reverse.flatMap fun v =>
      ((migrationAt? ds v).map Descriptor.downLog).getD [] := by
  simp only [buildLog, buildLogged]
  rw [if_neg (by omega), List.flatMap_map]
  rfl

/-- Applying migrations loses nothing. -/
theorem buildLog_of_le (h : a ≤ c) : buildLog ds a c = [] := by
  rcases Nat.eq_or_lt_of_le h with rfl | hlt
  · simp [buildLog_of_ge, positions]
  · simp only [buildLog, buildLogged]
    rw [if_pos hlt, List.flatMap_map]
    simp

theorem length_build : (build ds a c).steps.length = (a - c) + (c - a) := by
  rcases Nat.le_total a c with h | h
  · rw [build_steps_of_le h, List.length_map, positions, List.length_range']
    omega
  · rw [build_steps_of_ge h, List.length_map, List.length_reverse, positions, List.length_range']
    omega

/-- The steps of a plan apply or revert the migrations at some positions. -/
theorem eq_of_mem_build {step : Step} (h : step ∈ (build ds a c).steps) :
    ∃ v, step = upStep ds v ∨ step = downStep ds v := by
  rcases Nat.le_total a c with hac | hca
  · rw [build_steps_of_le hac] at h
    obtain ⟨v, -, hv⟩ := List.mem_map.mp h
    exact ⟨v, .inl hv.symm⟩
  · rw [build_steps_of_ge hca] at h
    obtain ⟨v, -, hv⟩ := List.mem_map.mp h
    exact ⟨v, .inr hv.symm⟩

theorem mem_of_migrationAt? {v : Nat} {desc : Descriptor} (h : migrationAt? ds v = some desc) :
    desc ∈ ds := by
  unfold migrationAt? at h
  split at h
  · cases h
  · exact List.mem_of_getElem? h

/-- A step of a plan has neither a key nor statements, or it has those of a migration. -/
theorem exists_of_mem_build {step : Step} (h : step ∈ (build ds a c).steps) :
    step.key = none ∧ step.statements = [] ∨
    ∃ desc ∈ ds, step.key = some desc.key ∧
      (step.statements = desc.upStatements ∨ step.statements = desc.downStatements) := by
  obtain ⟨v, rfl | rfl⟩ := eq_of_mem_build h
  · cases hmigration : migrationAt? ds v with
    | none => exact .inl (by simp [upStep, hmigration])
    | some desc =>
      exact .inr ⟨desc, mem_of_migrationAt? hmigration, by simp [upStep, hmigration]⟩
  · cases hmigration : migrationAt? ds v with
    | none => exact .inl (by simp [downStep, revertStep, hmigration])
    | some desc =>
      exact .inr ⟨desc, mem_of_migrationAt? hmigration, by simp [downStep, revertStep, hmigration]⟩

theorem statements_eq_nil_of_key {step : Step} (h : step ∈ (build ds a c).steps)
    (hkey : step.key = none) : step.statements = [] := by
  obtain ⟨-, hnil⟩ | ⟨desc, -, hsome, -⟩ := exists_of_mem_build h
  · exact hnil
  · rw [hkey] at hsome
    cases hsome

/-- The steps of a plan are for the positions between its ends. -/
theorem version_of_mem {step : Step} (h : step ∈ (build ds a c).steps) :
    1 ≤ step.version ∧ step.version ≤ max a c := by
  rcases Nat.le_total a c with hac | hca
  · rw [build_steps_of_le hac] at h
    obtain ⟨v, hv, rfl⟩ := List.mem_map.mp h
    rw [positions, List.mem_range'_1] at hv
    show 1 ≤ v ∧ v ≤ max a c
    omega
  · rw [build_steps_of_ge hca] at h
    obtain ⟨v, hv, rfl⟩ := List.mem_map.mp h
    rw [List.mem_reverse, positions, List.mem_range'_1] at hv
    show 1 ≤ v ∧ v ≤ max a c
    omega

theorem positions_append (hab : a ≤ b) (hbc : b ≤ c) :
    positions a b ++ positions b c = positions a c := by
  have hb : b + 1 = a + 1 + (b - a) := by omega
  have hc : c - a = b - a + (c - b) := by omega
  rw [positions, positions, positions, hb, hc, List.range'_append_1]

/-- A plan is the plan to a version on the way, followed by the plan from there. -/
theorem build_append (h : a ≤ b ∧ b ≤ c ∨ c ≤ b ∧ b ≤ a) :
    (build ds a b).steps ++ (build ds b c).steps = (build ds a c).steps := by
  obtain ⟨hab, hbc⟩ | ⟨hcb, hba⟩ := h
  · rw [build_steps_of_le hab, build_steps_of_le hbc, build_steps_of_le (Nat.le_trans hab hbc),
      ← List.map_append, positions_append hab hbc]
  · rw [build_steps_of_ge hba, build_steps_of_ge hcb, build_steps_of_ge (Nat.le_trans hcb hba),
      ← List.map_append, ← List.reverse_append, positions_append hcb hba]

/-- The steps that begin a plan are the plan to a version on the way. -/
theorem build_eq_append {xs ys : List Step} (h : (build ds a c).steps = xs ++ ys) :
    ∃ b, (a ≤ b ∧ b ≤ c ∨ c ≤ b ∧ b ≤ a) ∧ xs = (build ds a b).steps ∧
      ys = (build ds b c).steps := by
  have hlength : (build ds a c).steps.length = (a - c) + (c - a) := length_build
  rw [h, List.length_append] at hlength
  -- the version on the way is as far from the start as `xs` is long
  obtain ⟨b, hb, hxs⟩ : ∃ b, (a ≤ b ∧ b ≤ c ∨ c ≤ b ∧ b ≤ a) ∧
      xs.length = (build ds a b).steps.length := by
    rcases Nat.le_total a c with hac | hca
    · exact ⟨a + xs.length, by omega, by rw [length_build]; omega⟩
    · exact ⟨a - xs.length, by omega, by rw [length_build]; omega⟩
  rw [← build_append hb] at h
  obtain ⟨hx, hy⟩ := List.append_inj h hxs.symm
  exact ⟨b, hb, hx.symm, hy.symm⟩

theorem walk_ups (ds : List Descriptor) (v n : Nat) :
    Walk ds v ((List.range' (v + 1) n).map (upStep ds)) (v + n) := by
  -- upwards the first position comes first, so the induction moves the start
  induction n generalizing v with
  | zero => exact .nil v
  | succ n ih =>
    rw [List.range'_succ, List.map_cons, show v + (n + 1) = v + 1 + n by omega]
    exact .up (ih (v + 1))

theorem walk_downs (ds : List Descriptor) (v n : Nat) :
    Walk ds (v + n) ((List.range' (v + 1) n).reverse.map (downStep ds)) v := by
  -- downwards the last position comes first, and the goal stays where it is
  induction n with
  | zero => exact .nil v
  | succ n ih =>
    rw [List.range'_1_concat, List.reverse_append, List.reverse_singleton, List.singleton_append,
      List.map_cons, show v + 1 + n = v + n + 1 by omega]
    exact .down ih

/-- The plan from one version to another leads from the one to the other. -/
theorem build_walk (ds : List Descriptor) (a c : Nat) : Walk ds a (build ds a c).steps c := by
  rcases Nat.le_total a c with h | h
  · have hwalk := walk_ups ds a (c - a)
    rw [Nat.add_sub_cancel' h] at hwalk
    rw [build_steps_of_le h]
    exact hwalk
  · have hwalk := walk_downs ds c (a - c)
    rw [Nat.add_sub_cancel' h] at hwalk
    rw [build_steps_of_ge h]
    exact hwalk

theorem reached_build (ds : List Descriptor) (a c : Nat) : reached (build ds a c).steps a = c :=
  (build_walk ds a c).reached_eq

end Plan
end SchemaMigration
