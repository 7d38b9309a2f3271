import SchemaMigration.Operation.Compile
import SchemaMigration.Proofs.ColumnType
import SchemaMigration.Proofs.Text.Weight

/-!
# Types and SQL that pass through

A column type is native already if no shorthand stands in it, and then it is its own clause; a text
with a shorthand in it is always rewritten (`resolve_eq_self_iff`).  The one shorthand whose clause
is shorter than itself is `boolean`, so the length of a text does not show that no chain of
expansions leads back to it; its weight does, for which only the letter `i` and the opening
parenthesis count (`clauseWeight`).  The same weight serves for raw SQL, since the braces that are
taken out of it have none (`passes_through_iff`).
-/

namespace SchemaMigration

namespace ColumnType

/-- The weight of a character.  Every clause is heavier than its shorthand: a clause with a
parenthesis makes up for the one `i` that it may lose, and the others gain an `i`. -/
def clauseWeight (c : Char) : Nat := if c = '(' then 2 else if c = 'i' then 1 else 0

theorem gains_of_mem_shorthands :
    ∀ pair ∈ shorthands, Text.Gains clauseWeight pair.1.toList pair.2.toList := by
  decide +kernel

/-- The weight of a type or a clause. -/
def weight (type : String) : Nat := Text.weight clauseWeight type.toList

variable {pairs : List (String × String)} {type : String}

theorem expand_of_absent {pair : String × String} (h : ¬ pair.1.toList <:+: type.toList) :
    expand type pair = type := by
  rw [expand, Text.replace, Text.replaceAll_of_absent h, String.ofList_toList]

/-- A type without any of the shorthands is left alone. -/
theorem foldl_expand_of_absent (h : ∀ pair ∈ pairs, ¬ pair.1.toList <:+: type.toList) :
    pairs.foldl expand type = type := by
  induction pairs with
  | nil => rfl
  | cons pair pairs ih =>
    obtain ⟨hpair, hpairs⟩ := List.forall_mem_cons.mp h
    rw [List.foldl_cons, expand_of_absent hpair, ih hpairs]

section
variable (h : ∀ pair ∈ pairs, Text.Gains clauseWeight pair.1.toList pair.2.toList)
include h

theorem weight_le_foldl_expand (type : String) :
    weight type ≤ weight (pairs.foldl expand type) := by
  induction pairs generalizing type with
  | nil => exact Nat.le_refl _
  | cons pair pairs ih =>
    obtain ⟨hpair, hpairs⟩ := List.forall_mem_cons.mp h
    have hfirst : weight type ≤ weight (expand type pair) := by
      rw [weight, weight, expand, Text.toList_replace]
      exact Text.weight_le_replaceAll hpair _
    exact Nat.le_trans hfirst (ih hpairs _)

/-- A type with one of the shorthands in it becomes heavier. -/
theorem weight_lt_foldl_expand {pair : String × String} (hmem : pair ∈ pairs)
    (hoccurs : pair.1.toList <:+: type.toList) :
    weight type < weight (pairs.foldl expand type) := by
  induction pairs with
  | nil => cases hmem
  | cons first pairs ih =>
    obtain ⟨hfirst, hpairs⟩ := List.forall_mem_cons.mp h
    rw [List.foldl_cons]
    by_cases hstands : first.1.toList <:+: type.toList
    · -- the first shorthand gains, and the later ones lose nothing
      have hgain : weight type < weight (expand type first) := by
        rw [weight, weight, expand, Text.toList_replace]
        exact Text.weight_lt_replaceAll hfirst hstands
      exact Nat.lt_of_lt_of_le hgain (weight_le_foldl_expand hpairs _)
    · -- the first shorthand changes nothing, so the next one sees the type as it was
      obtain rfl | hmem := List.mem_cons.mp hmem
      · exact absurd hoccurs hstands
      · rw [expand_of_absent hstands]
        exact ih hpairs hmem

end

/-- A type with a shorthand in it becomes heavier. -/
theorem weight_lt_resolve {pair : String × String} (hmem : pair ∈ shorthands)
    (hoccurs : pair.1.toList <:+: type.toList) : weight type < weight (resolve type) :=
  weight_lt_foldl_expand gains_of_mem_shorthands hmem hoccurs

/-- **Types that pass through**: a type is its own clause exactly if no shorthand stands in it. -/
theorem resolve_eq_self_iff :
    resolve type = type ↔ ∀ pair ∈ shorthands, ¬ pair.1.toList <:+: type.toList := by
  refine ⟨fun heq pair hmem hoccurs => ?_, foldl_expand_of_absent⟩
  have hgain := weight_lt_resolve hmem hoccurs
  rw [heq] at hgain
  exact Nat.lt_irrefl _ hgain

end ColumnType

namespace Operation
open ColumnType (resolve)

/-- What stays of raw SQL when its braces are taken out. -/
def isNoBrace (c : Char) : Bool := c != '\x7b' && c != '\x7d'

theorem toList_rawSql (sql : String) :
    (rawSql sql).toList = (resolve sql).toList.filter isNoBrace := String.toList_ofList

theorem weight_rawSql (sql : String) :
    ColumnType.weight (rawSql sql) = ColumnType.weight (resolve sql) := by
  rw [ColumnType.weight, ColumnType.weight, toList_rawSql]
  refine Text.weight_filter (fun c hc => ?_) _
  obtain rfl | rfl : c = '\x7b' ∨ c = '\x7d' := by
    simpa [isNoBrace, Classical.or_iff_not_imp_left] using hc
  · rfl
  · rfl

/-- Raw SQL is left as it is exactly if it passes through as a type would and has no brace in it. -/
theorem rawSql_eq_self_iff {sql : String} :
    rawSql sql = sql ↔ resolve sql = sql ∧ ∀ c ∈ sql.toList, isNoBrace c = true := by
  constructor
  · intro h
    -- taking out braces does not make up for what a shorthand has gained
    have hresolve : resolve sql = sql := by
      refine ColumnType.resolve_eq_self_iff.mpr fun pair hmem hoccurs => ?_
      have hgain := ColumnType.weight_lt_resolve hmem hoccurs
      rw [← weight_rawSql, h] at hgain
      exact Nat.lt_irrefl _ hgain
    rw [← String.toList_inj, toList_rawSql, hresolve, List.filter_eq_self] at h
    exact ⟨hresolve, h⟩
  · rintro ⟨hresolve, hbraces⟩
    rw [← String.toList_inj, toList_rawSql, hresolve, List.filter_eq_self]
    exact hbraces

end Operation

/-- **Text that passes through unchanged.**  A column type is its own native clause exactly if none
of the seven shorthands stands in it, and raw SQL is one statement with the same text exactly if in
addition there is no brace in it. -/
theorem passes_through_iff (text : String) :
    (ColumnType.resolve text = text ↔
      ∀ word ∈ ["pk", "money", "date", "string", "boolean", "text", "guid"],
        ¬ word.toList <:+: text.toList) ∧
    ((Operation.raw text).compile = [.sql text] ↔
      (∀ word ∈ ["pk", "money", "date", "string", "boolean", "text", "guid"],
        ¬ word.toList <:+: text.toList) ∧ '\x7b' ∉ text.toList ∧ '\x7d' ∉ text.toList) := by
  have hwords : ["pk", "money", "date", "string", "boolean", "text", "guid"] =
      ColumnType.shorthands.map Prod.fst := rfl
  have hresolve : ColumnType.resolve text = text ↔
      ∀ word ∈ ColumnType.shorthands.map Prod.fst, ¬ word.toList <:+: text.toList := by
    rw [ColumnType.resolve_eq_self_iff, List.forall_mem_map]
  have hbraces : (∀ c ∈ text.toList, Operation.isNoBrace c = true) ↔
      '\x7b' ∉ text.toList ∧ '\x7d' ∉ text.toList := by
    simp only [Operation.isNoBrace, Bool.and_eq_true, bne_iff_ne, ne_eq, forall_and,
      List.forall_mem_ne']
  have hcompile : (Operation.raw text).compile = [.sql text] ↔ Operation.rawSql text = text := by
    simp [Operation.compile]
  rw [hwords, hcompile, Operation.rawSql_eq_self_iff, hbraces, hresolve]
  exact ⟨Iff.rfl, Iff.rfl⟩

/-- One shorthand loses as many characters as the other gains. -/
example : ColumnType.resolve "boolean date" = "bit datetime" := by decide +kernel

end SchemaMigration
