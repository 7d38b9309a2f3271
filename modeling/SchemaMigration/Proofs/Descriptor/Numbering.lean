import SchemaMigration.Proofs.Descriptor.Order
import SchemaMigration.Proofs.Text.Bytes
import SchemaMigration.Proofs.Text.SignedNumeral

/-!
# Numbered migrations

Keys may start with a number in a fixed number of digits (`MigrationKey.IsNumbered`).  Such keys are
in the order of the numbers, whatever comes behind the digits (`IsNumbered.compare_eq_lt`), so that
migrations with different numbers are sorted by them (`numbered_in_order`).
-/

namespace SchemaMigration

variable {width n m : Nat}

/-! ### Numbered keys -/

namespace MigrationKey

variable {key a b : MigrationKey}

/-- The key starts with a number in exactly `width` digits. -/
def IsNumbered (width n : Nat) (key : MigrationKey) : Prop :=
  n < 10 ^ width ∧ ∃ suffix : String, key.text = Numeral.padded width n ++ suffix

theorem isNumbered_iff_toList : key.IsNumbered width n ↔
    n < 10 ^ width ∧ Numeral.lastDigits width n <+: key.text.toList := by
  refine and_congr_right fun hn => ?_
  constructor
  · rintro ⟨suffix, hsuffix⟩
    refine ⟨suffix.toList, ?_⟩
    rw [hsuffix, String.toList_append, Numeral.toList_padded hn]
  · rintro ⟨suffix, hsuffix⟩
    refine ⟨String.ofList suffix, String.toList_injective ?_⟩
    rw [String.toList_append, Numeral.toList_padded hn, String.toList_ofList, hsuffix]

/-- The number of a key is what its first characters are read as. -/
theorem isNumbered_iff (hwidth : 1 ≤ width) : key.IsNumbered width n ↔
    width ≤ key.text.toList.length ∧ Numeral.read? (key.text.toList.take width) = some n := by
  rw [isNumbered_iff_toList]
  constructor
  · rintro ⟨hn, hdigits⟩
    have hlength := hdigits.length_le
    rw [Numeral.length_lastDigits] at hlength
    -- what stands in front is the number, padded to the width
    have htake : key.text.toList.take width = Numeral.lastDigits width n := by
      have hprefix := List.prefix_iff_eq_take.mp hdigits
      rw [Numeral.length_lastDigits] at hprefix
      exact hprefix.symm
    have hne : Numeral.lastDigits width n ≠ [] := by
      rw [← List.length_pos_iff, Numeral.length_lastDigits]
      exact hwidth
    refine ⟨hlength, ?_⟩
    rw [htake, Numeral.read?_eq_some_iff_lastDigits hne, Numeral.length_lastDigits]
    exact ⟨hn, rfl⟩
  · rintro ⟨hlength, hread⟩
    have htake : (key.text.toList.take width).length = width := List.length_take_of_le hlength
    have hne : key.text.toList.take width ≠ [] := by
      rw [← List.length_pos_iff, htake]
      exact hwidth
    rw [Numeral.read?_eq_some_iff_lastDigits hne, htake] at hread
    refine ⟨hread.1, ?_⟩
    rw [← hread.2]
    exact List.take_prefix _ _

/-- **Order of numbers**: a key with a smaller number comes earlier, whatever comes behind. -/
theorem IsNumbered.compare_eq_lt (ha : a.IsNumbered width n) (hb : b.IsNumbered width m)
    (h : n < m) : a.compare b = .lt := by
  obtain ⟨-, s, hs⟩ := isNumbered_iff_toList.mp ha
  obtain ⟨hm, t, ht⟩ := isNumbered_iff_toList.mp hb
  exact compare_eq_lt_of_digits hs.symm ht.symm h hm

theorem IsNumbered.le_of_compare (ha : a.IsNumbered width n) (hb : b.IsNumbered width m)
    (h : a.compare b = .lt) : n ≤ m := by
  by_contra hlt
  have hgt : b.compare a = .lt := hb.compare_eq_lt ha (Nat.lt_of_not_le hlt)
  rw [compare_eq_lt_iff] at h hgt
  exact String.lt_asymm h hgt

/-- A key has one number at most. -/
theorem IsNumbered.unique (h : key.IsNumbered width n) (h' : key.IsNumbered width m) : n = m := by
  have hself : ¬ key.compare key = .lt := by
    rw [compare_eq_lt_iff]
    exact String.lt_irrefl key.text
  have hle : m ≤ n := Nat.le_of_not_lt fun hlt => hself (h.compare_eq_lt h' hlt)
  have hge : n ≤ m := Nat.le_of_not_lt fun hlt => hself (h'.compare_eq_lt h hlt)
  exact Nat.le_antisymm hge hle

end MigrationKey

/-! ### Numbered migrations -/

namespace Descriptor

variable {ds sorted : List Descriptor} {number : Descriptor → Nat}

/-- Migrations with different numbers have different keys. -/
theorem nodup_keys_of_numbered (hnumbered : ∀ d ∈ ds, d.key.IsNumbered width (number d))
    (hdistinct : (ds.map number).Nodup) : (ds.map key).Nodup := by
  refine List.pairwise_map.mpr ?_
  refine (List.pairwise_map.mp hdistinct).imp_of_mem fun {a b} ha hb hne hkey => hne ?_
  have hb' := hnumbered b hb
  rw [← hkey] at hb'
  exact (hnumbered a ha).unique hb'

/-- In a sorted list the numbers do not descend. -/
theorem pairwise_number_of_sorted (hnumbered : ∀ d ∈ sorted, d.key.IsNumbered width (number d))
    (hsorted : sorted.Pairwise Precedes) : (sorted.map number).Pairwise (· ≤ ·) := by
  refine List.pairwise_map.mpr (hsorted.imp_of_mem fun {a b} ha hb hab => ?_)
  exact (hnumbered a ha).le_of_compare (hnumbered b hb) hab

/-- **Numbering is the order of migrations.**  The number of a key is what is read from its first
characters.  Of two keys that start with numbers in equally many digits, the one with the smaller
number comes first, whatever comes behind the digits.  So migrations with different numbers are
sorted, and the result has the same migrations in the ascending order of their numbers. -/
theorem numbered_in_order (hwidth : 1 ≤ width) :
    (∀ (key : MigrationKey) n, key.IsNumbered width n ↔
      width ≤ key.text.toList.length ∧
        Numeral.read? (key.text.toList.take width) = some n) ∧
    (∀ (n m : Nat) (s t : String) (a b : MigrationKey), n < m → m < 10 ^ width →
      a.text = Numeral.padded width n ++ s → b.text = Numeral.padded width m ++ t →
      a.compare b = .lt ∧ Text.bytes a.text < Text.bytes b.text) ∧
    ∀ (ds : List Descriptor) (number : Descriptor → Nat),
      (∀ d ∈ ds, d.key.IsNumbered width (number d)) → (ds.map number).Nodup →
      ∃ sorted, sort ds = .ok sorted ∧ sorted.Perm ds ∧
        (sorted.map number).Pairwise (· < ·) := by
  refine ⟨fun key n => MigrationKey.isNumbered_iff hwidth, ?_, ?_⟩
  · intro n m s t a b h hm ha hb
    have hcompare : a.compare b = .lt :=
      MigrationKey.IsNumbered.compare_eq_lt ⟨Nat.lt_trans h hm, s, ha⟩ ⟨hm, t, hb⟩ h
    exact ⟨hcompare, Text.bytes_lt_bytes_iff.mpr (MigrationKey.compare_eq_lt_iff.mp hcompare)⟩
  · intro ds number hnumbered hdistinct
    obtain ⟨sorted, hsort⟩ := exists_sort_iff.mpr (nodup_keys_of_numbered hnumbered hdistinct)
    obtain ⟨hperm, hascending⟩ := sort_eq_ok_iff.mp hsort
    have hnumbers := pairwise_number_of_sorted
      (fun d hd => hnumbered d (hperm.mem_iff.mp hd)) hascending
    have hdistinct' : (sorted.map number).Nodup := (hperm.map number).nodup_iff.mpr hdistinct
    exact ⟨sorted, hsort, hperm, hnumbers.imp₂ (fun _ _ => Nat.lt_of_le_of_ne) hdistinct'⟩

/-- Three migrations in the opposite order; behind the digits of two of them comes another digit. -/
theorem numbered_in_order_of_three :
    let ten : MigrationKey := ⟨"010_a", by decide⟩
    let nine : MigrationKey := ⟨"0099", by decide⟩
    let one : MigrationKey := ⟨"0018é", by decide⟩
    let ds : List Descriptor :=
      [⟨ten, "010_a.yml", [], none⟩, ⟨nine, "0099.yml", [], none⟩, ⟨one, "0018é.yml", [], none⟩]
    let number (d : Descriptor) : Nat := (Numeral.read? (d.key.text.toList.take 3)).getD 0
    ds.map number = [10, 9, 1] ∧ (∀ d ∈ ds, d.key.IsNumbered 3 (number d)) ∧
      nine.compare ten = .lt ∧ ∃ sorted, sort ds = .ok sorted ∧ sorted.Perm ds ∧
        (sorted.map number).Pairwise (· < ·) := by
  intro ten nine one ds number
  have hwidth : 1 ≤ 3 := by decide
  obtain ⟨hreads, horder, hsorts⟩ := numbered_in_order hwidth
  have hnumbers : ds.map number = [10, 9, 1] := by decide +kernel
  have hnumbered : ∀ d ∈ ds, d.key.IsNumbered 3 (number d) := by
    simp only [hreads]
    decide +kernel
  have hdistinct : (ds.map number).Nodup := by
    rw [hnumbers]
    decide
  have hnine : nine.text = Numeral.padded 3 9 ++ "9" := by decide +kernel
  have hten : ten.text = Numeral.padded 3 10 ++ "_a" := by decide +kernel
  obtain ⟨hcompare, -⟩ := horder 9 10 "9" "_a" nine ten (by decide) (by decide) hnine hten
  exact ⟨hnumbers, hnumbered, hcompare, hsorts ds number hnumbered hdistinct⟩

end Descriptor
end SchemaMigration
