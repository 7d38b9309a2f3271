import SchemaMigration.Descriptor
import SchemaMigration.Proofs.Text.Numeral
import Mathlib.Data.List.Sort

/-!
# The order of descriptors

Descriptors are sorted into the one list that has them in strictly ascending order of their keys
(`sort_eq_ok_iff`), which exists exactly if no two of them have one key (`exists_sort_iff`).
-/

namespace SchemaMigration

theorem transCmp_comap {α β : Type} {cmp : β → β → Ordering} (h : Std.TransCmp cmp) (f : α → β) :
    Std.TransCmp fun a b => cmp (f a) (f b) :=
  letI : Ord β := ⟨cmp⟩
  haveI : Std.TransOrd β := h
  inferInstanceAs (Std.TransCmp (compareOn f))

/-! ### The order of paths -/

namespace Path

/-- The text of a component that is a name. -/
def Component.text : Component → String
  | .name s => s
  | _ => ""

theorem Component.compare_eq_compareLex :
    Component.compare = compareLex (compareOn Component.rank) (compareOn Component.text) := by
  funext a b
  cases a <;> cases b <;> rfl

instance transCmp_component : Std.TransCmp Component.compare := by
  rw [Component.compare_eq_compareLex]
  infer_instance

theorem compareComponents_eq_compareLex :
    compareComponents = List.compareLex Component.compare := by
  funext as bs
  induction as generalizing bs with
  | nil => cases bs <;> rfl
  | cons a as ih =>
    cases bs with
    | nil => rfl
    | cons b bs => rw [compareComponents, List.compareLex_cons_cons, ih]

instance transCmp_compare : Std.TransCmp Path.compare := by
  have hcomponents : Std.TransCmp compareComponents := by
    rw [compareComponents_eq_compareLex]
    infer_instance
  exact transCmp_comap hcomponents components

end Path

/-! ### The order of keys -/

namespace MigrationKey

theorem eq_of_text {a b : MigrationKey} (h : a.text = b.text) : a = b := by
  cases a
  cases b
  simpa using h

theorem compare_eq (a b : MigrationKey) : a.compare b = Ord.compare a.text b.text := rfl

instance transCmp_compare : Std.TransCmp MigrationKey.compare :=
  inferInstanceAs (Std.TransCmp (compareOn text))

theorem compare_eq_eq_iff {a b : MigrationKey} : a.compare b = .eq ↔ a = b := by
  rw [compare_eq, Std.LawfulEqCmp.compare_eq_iff_eq]
  exact ⟨eq_of_text, congrArg text⟩

theorem compare_eq_lt_iff {a b : MigrationKey} : a.compare b = .lt ↔ a.text < b.text := by
  rw [MigrationKey.compare]
  split_ifs with hlt heq
  · exact iff_of_true rfl hlt
  · exact iff_of_false nofun hlt
  · exact iff_of_false nofun hlt

/-- Keys that start with numbers of one width are in the order of the numbers, whatever comes behind
the digits. -/
theorem compare_eq_lt_of_digits {a b : MigrationKey} {width n m : Nat} {s t : List Char}
    (ha : a.text.toList = Numeral.lastDigits width n ++ s)
    (hb : b.text.toList = Numeral.lastDigits width m ++ t) (h : n < m) (hm : m < 10 ^ width) :
    a.compare b = .lt := by
  have hlength : (Numeral.lastDigits width n).length = (Numeral.lastDigits width m).length := by
    rw [Numeral.length_lastDigits, Numeral.length_lastDigits]
  rw [compare_eq_lt_iff, String.lt_iff, ha, hb]
  exact Numeral.append_lt_append (Numeral.lastDigits_lt h hm) hlength s t

end MigrationKey

/-! ### Sorting -/

namespace Descriptor

variable {a b c : Descriptor} {ds sorted : List Descriptor}

/-- A descriptor comes before another when its key does. -/
def Precedes (a b : Descriptor) : Prop := a.key.compare b.key = .lt

theorem Precedes.trans (h : a.Precedes b) (h' : b.Precedes c) : a.Precedes c :=
  Std.TransCmp.lt_trans h h'

theorem Precedes.key_ne (h : a.Precedes b) : a.key ≠ b.key := fun heq => by
  rw [Precedes, MigrationKey.compare_eq_eq_iff.mpr heq] at h
  cases h

/-- The order of descriptors: by key, then by path. -/
def compare : Descriptor → Descriptor → Ordering :=
  compareLex (fun a b => a.key.compare b.key) fun a b => Path.compare a.path b.path

theorem le_eq (a b : Descriptor) : a.le b = (compare a b).isLE := rfl

instance transCmp_compare : Std.TransCmp compare :=
  have _hkey : Std.TransCmp fun a b : Descriptor => a.key.compare b.key :=
    transCmp_comap MigrationKey.transCmp_compare key
  have _hpath : Std.TransCmp fun a b : Descriptor => Path.compare a.path b.path :=
    transCmp_comap Path.transCmp_compare path
  inferInstanceAs (Std.TransCmp (compareLex _ _))

theorem pairwise_mergeSort (ds : List Descriptor) :
    (ds.mergeSort le).Pairwise fun a b => a.le b = true := by
  refine List.pairwise_mergeSort (fun a b c hab hbc => ?_) (fun a b => ?_) ds
  · rw [le_eq] at hab hbc ⊢
    exact Std.TransCmp.isLE_trans hab hbc
  · have hswap : compare a b = (compare b a).swap := Std.OrientedCmp.eq_swap
    rw [le_eq, le_eq, hswap]
    cases compare b a <;> rfl

theorem key_eq_of_le (h : a.le b = true) (h' : b.le a = true) : a.key = b.key := by
  rw [le_eq] at h h'
  have heq : compare a b = .eq := Std.OrientedCmp.isLE_antisymm h h'
  exact MigrationKey.compare_eq_eq_iff.mp (Ordering.then_eq_eq.mp heq).1

theorem Precedes.le (h : a.Precedes b) : a.le b = true := by
  rw [Descriptor.le, h]
  rfl

theorem nodup_keys (h : ds.Pairwise Precedes) : (ds.map key).Nodup :=
  List.pairwise_map.mpr (h.imp Precedes.key_ne)

/-- What comes at the same place or later comes later when its key is another. -/
theorem precedes_of_le (h : a.le b = true) (hkey : a.key ≠ b.key) : a.Precedes b := by
  rw [Descriptor.le] at h
  cases hcompare : a.key.compare b.key with
  | lt => exact hcompare
  | eq => exact absurd (MigrationKey.compare_eq_eq_iff.mp hcompare) hkey
  | gt =>
    rw [hcompare] at h
    cases h

/-- In a sorted list, no two neighbours have one key exactly if the keys ascend. -/
theorem firstDuplicate?_eq_none_iff (h : ds.Pairwise fun a b => a.le b = true) :
    firstDuplicate? ds = none ↔ ds.Pairwise Precedes := by
  induction ds with
  | nil => simp [firstDuplicate?]
  | cons a ds ih =>
    cases ds with
    | nil => simp [firstDuplicate?]
    | cons b rest =>
      obtain ⟨hfirst, hrest⟩ := List.pairwise_cons.mp h
      rw [firstDuplicate?, List.pairwise_cons, ← ih hrest]
      by_cases hkey : a.key = b.key
      · rw [if_pos hkey]
        exact ⟨nofun, fun h => absurd hkey (h.1 b (.head _)).key_ne⟩
      · -- the first key is below the second, and that one is below all the others
        have hab := precedes_of_le (hfirst b (.head _)) hkey
        rw [if_neg hkey]
        refine ⟨fun hnone => ⟨?_, hnone⟩, And.right⟩
        have hascending := (List.pairwise_cons.mp ((ih hrest).mp hnone)).1
        exact List.forall_mem_cons.mpr ⟨hab, fun c hc => hab.trans (hascending c hc)⟩

/-- Sorting descriptors succeeds with the one list that has them in strictly ascending order. -/
theorem sort_eq_ok_iff : sort ds = .ok sorted ↔ sorted.Perm ds ∧ sorted.Pairwise Precedes := by
  have hsorted := pairwise_mergeSort ds
  have hperm := List.mergeSort_perm ds le
  have hsort : sort ds = .ok sorted ↔
      firstDuplicate? (ds.mergeSort le) = none ∧ ds.mergeSort le = sorted := by
    simp only [sort]
    split <;> simp_all
  rw [hsort, firstDuplicate?_eq_none_iff hsorted]
  constructor
  · rintro ⟨hascending, rfl⟩
    exact ⟨hperm, hascending⟩
  · rintro ⟨hperm', hascending⟩
    -- the order of descriptors also looks at paths, but keys that differ decide alone
    have heq : ds.mergeSort le = sorted := by
      refine (hperm.trans hperm'.symm).eq_of_pairwise (fun a b ha hb hab hba => ?_) hsorted
        (hascending.imp Precedes.le)
      have ha' := (hperm.trans hperm'.symm).mem_iff.mp ha
      exact List.inj_on_of_nodup_map (nodup_keys hascending) ha' hb (key_eq_of_le hab hba)
    rw [heq]
    exact ⟨hascending, rfl⟩

/-- Descriptors are sorted exactly if no two of them have one key. -/
theorem exists_sort_iff : (∃ sorted, sort ds = .ok sorted) ↔ (ds.map key).Nodup := by
  constructor
  · rintro ⟨sorted, h⟩
    obtain ⟨hperm, hascending⟩ := sort_eq_ok_iff.mp h
    exact (hperm.map key).nodup_iff.mp (nodup_keys hascending)
  · intro hkeys
    have hkeys' := ((List.mergeSort_perm ds le).map key).nodup_iff.mpr hkeys
    have hascending := (pairwise_mergeSort ds).imp₂ (fun _ _ => precedes_of_le)
      (List.pairwise_map.mp hkeys')
    exact ⟨_, sort_eq_ok_iff.mpr ⟨List.mergeSort_perm ds le, hascending⟩⟩

/-- A list in ascending order is known from its members. -/
theorem eq_of_mem_iff {ds' : List Descriptor} (h : ds.Pairwise Precedes)
    (h' : ds'.Pairwise Precedes) (hmem : ∀ d, d ∈ ds ↔ d ∈ ds') : ds = ds' := by
  have hnodup : ds.Nodup := (nodup_keys h).of_map
  have hnodup' : ds'.Nodup := (nodup_keys h').of_map
  have hperm : ds.Perm ds' := (List.perm_ext_iff_of_nodup hnodup hnodup').mpr hmem
  exact Except.ok.inj ((sort_eq_ok_iff.mpr ⟨.refl _, h⟩).symm.trans
    (sort_eq_ok_iff.mpr ⟨hperm.symm, h'⟩))

end Descriptor
end SchemaMigration
