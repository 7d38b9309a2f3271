import Mathlib.Data.List.Chain
import Mathlib.Data.List.Induction
import SchemaMigration.Proofs.Plan.Walk

/-!
# Histories of completed steps

What a history of completed steps says of each migration: the directions of its steps
(`directions`) and whether it is applied (`Applied`).  In a walk from version zero to `w` the
migrations that are applied are the first `w` (`applied_iff`), the steps of each migration alternate
(`alternating`), and a step is completed only where its migration is next (`step_of_split`).
-/

namespace SchemaMigration

/-! ### Steps of one migration -/

/-- The directions of the completed steps of the migration at a position, the oldest first. -/
def directions (history : List Step) (v : Nat) : List Direction :=
  (history.filter fun step => step.version = v).map Step.direction

/-- Directions that alternate, beginning with `up`. -/
def Alternating (l : List Direction) : Prop := (Direction.down :: l).IsChain (· ≠ ·)

/-- A migration is applied when the last of its steps went up. -/
def Applied (history : List Step) (v : Nat) : Prop :=
  (directions history v).getLast? = some .up

theorem directions_append_of_eq {history : List Step} {step : Step} {v : Nat}
    (h : step.version = v) :
    directions (history ++ [step]) v = directions history v ++ [step.direction] := by
  simp [directions, h]

theorem directions_append_of_ne {history : List Step} {step : Step} {v : Nat}
    (h : step.version ≠ v) : directions (history ++ [step]) v = directions history v := by
  simp [directions, h]

theorem alternating_append {l : List Direction} {x : Direction} :
    Alternating (l ++ [x]) ↔ Alternating l ∧ (x = .up ↔ l.getLast? ≠ some .up) := by
  rw [Alternating, Alternating, ← List.cons_append, List.isChain_append, List.getLast?_cons]
  cases hlast : l.getLast? with
  | none => cases x <;> simp
  | some y => cases x <;> cases y <;> simp

namespace Walk

variable {ds : List Descriptor} {history : List Step} {w : Nat}

/-- What the last step of a walk can be. -/
theorem last {step : Step} (h : Walk ds 0 (history ++ [step]) w) :
    (Walk ds 0 history (w - 1) ∧ 0 < w ∧ step = Plan.upStep ds w) ∨
      (Walk ds 0 history (w + 1) ∧ step = Plan.downStep ds (w + 1)) := by
  obtain ⟨u, hhistory, hstep⟩ := h.split
  cases hstep with
  | up hrest =>
    cases hrest
    exact .inl ⟨hhistory, by omega, rfl⟩
  | down hrest =>
    cases hrest
    exact .inr ⟨hhistory, rfl⟩

/-- The steps of each migration alternate, and the applied migrations are the first `w`. -/
theorem alternating_and_applied_iff (h : Walk ds 0 history w) (v : Nat) :
    Alternating (directions history v) ∧ (Applied history v ↔ 1 ≤ v ∧ v ≤ w) := by
  -- a history grows at its end, so the induction takes the last step off
  induction history using List.reverseRecOn generalizing w with
  | nil =>
    cases h
    refine ⟨.singleton _, ?_⟩
    simp only [Applied, directions, List.filter_nil, List.map_nil, List.getLast?_nil, reduceCtorEq,
      false_iff]
    omega
  | append_singleton history step ih =>
    obtain ⟨hhistory, hw, rfl⟩ | ⟨hhistory, rfl⟩ := h.last
    · obtain ⟨halternating, happlied⟩ := ih hhistory
      by_cases hv : w = v
      · -- the migration at `w` was not applied, and now it is
        rw [Applied, directions_append_of_eq (show (Plan.upStep ds w).version = v from hv)]
        refine ⟨alternating_append.mpr ⟨halternating, ?_⟩, ?_⟩
        · have hnot : ¬ Applied history v := by rw [happlied]; omega
          exact ⟨fun _ => hnot, fun _ => rfl⟩
        · rw [List.getLast?_append_of_ne_nil _ (by simp), List.getLast?_singleton]
          exact ⟨fun _ => by omega, fun _ => rfl⟩
      · rw [Applied, directions_append_of_ne (show (Plan.upStep ds w).version ≠ v from hv)]
        refine ⟨halternating, happlied.trans ?_⟩
        omega
    · obtain ⟨halternating, happlied⟩ := ih hhistory
      by_cases hv : w + 1 = v
      · -- the migration at `w + 1` was applied, and now it is not
        rw [Applied, directions_append_of_eq (show (Plan.downStep ds (w + 1)).version = v from hv)]
        refine ⟨alternating_append.mpr ⟨halternating, ?_⟩, ?_⟩
        · have hyes : Applied history v := by rw [happlied]; omega
          refine ⟨fun hup => absurd hup ?_, fun hnot => absurd hyes hnot⟩
          simp [Plan.downStep, Plan.revertStep]
        · rw [List.getLast?_append_of_ne_nil _ (by simp), List.getLast?_singleton]
          constructor
          · simp [Plan.downStep, Plan.revertStep]
          · omega
      · rw [Applied, directions_append_of_ne (show (Plan.downStep ds (w + 1)).version ≠ v from hv)]
        refine ⟨halternating, happlied.trans ?_⟩
        omega

theorem alternating (h : Walk ds 0 history w) (v : Nat) : Alternating (directions history v) :=
  (h.alternating_and_applied_iff v).1

theorem applied_iff (h : Walk ds 0 history w) (v : Nat) : Applied history v ↔ 1 ≤ v ∧ v ≤ w :=
  (h.alternating_and_applied_iff v).2

/-- A step up is completed where exactly the migrations before it are applied, and a step down
where it is the last one that is applied. -/
theorem step_of_split {before after : List Step} {step : Step}
    (h : Walk ds 0 (before ++ step :: after) w) :
    (step = Plan.upStep ds step.version ∧ ∀ v, Applied before v ↔ 1 ≤ v ∧ v < step.version) ∨
      (step = Plan.downStep ds step.version ∧
        ∀ v, Applied before v ↔ 1 ≤ v ∧ v ≤ step.version) := by
  obtain ⟨u, hbefore, hstep⟩ := h.split
  cases hstep with
  | up _ =>
    refine .inl ⟨rfl, fun v => ?_⟩
    show Applied before v ↔ 1 ≤ v ∧ v < u + 1
    rw [hbefore.applied_iff, Nat.lt_succ_iff]
  | down _ => exact .inr ⟨rfl, fun v => hbefore.applied_iff v⟩

end Walk
end SchemaMigration
