import SchemaMigration.Proofs.Descriptor.Order
import SchemaMigration.Proofs.Text.Bytes

/-!
# Sorting descriptors

Descriptors come from different sources when no two of them have both one key and one path
(`DistinctSources`).  Then the order of descriptors leaves no two of them at one place, so that
there is one sorted list whatever order they are given in (`mergeSort_eq_of_perm`).  In that list
descriptors with one key are neighbours, and the first neighbours with one key are those that the
error has to name (`firstDuplicates_of_eq_some`).
-/

namespace SchemaMigration

namespace Path

theorem Component.eq_of_rank_of_text {a b : Component} (hrank : a.rank = b.rank)
    (htext : a.text = b.text) : a = b := by
  cases a with
  | name s =>
    cases b with
    | name t => exact congrArg Component.name htext
    | root | here | up => cases hrank
  | root | here | up => cases b <;> first | rfl | cases hrank

instance lawfulEqCmp_component : Std.LawfulEqCmp Component.compare where
  eq_of_compare {a b} h := by
    rw [Component.compare_eq_compareLex, compareLex_eq_eq] at h
    exact Component.eq_of_rank_of_text (Std.LawfulEqCmp.eq_of_compare h.1)
      (Std.LawfulEqCmp.eq_of_compare h.2)

/-- Paths are at one place in the order when they have the same components. -/
theorem compare_eq_eq_iff {a b : String} :
    Path.compare a b = .eq ↔ components a = components b := by
  rw [Path.compare, compareComponents_eq_compareLex, Std.LawfulEqCmp.compare_eq_iff_eq]

end Path

namespace Descriptor

variable {a b c : Descriptor} {ds ds' sorted : List Descriptor}

/-! ### The order of descriptors from different sources -/

/-- No two descriptors have both one key and one path; paths are one if their components are. -/
def DistinctSources (ds : List Descriptor) : Prop :=
  ds.Pairwise fun a b => ¬ (a.key = b.key ∧ Path.components a.path = Path.components b.path)

instance (ds : List Descriptor) : Decidable (DistinctSources ds) :=
  inferInstanceAs (Decidable (ds.Pairwise _))

theorem compare_eq_then (a b : Descriptor) :
    compare a b = (a.key.compare b.key).then (Path.compare a.path b.path) := rfl

theorem compare_eq_eq_iff : compare a b = .eq ↔
    a.key = b.key ∧ Path.components a.path = Path.components b.path := by
  rw [compare_eq_then, Ordering.then_eq_eq, MigrationKey.compare_eq_eq_iff, Path.compare_eq_eq_iff]

theorem compare_of_key_eq (h : a.key = b.key) : compare a b = Path.compare a.path b.path := by
  rw [compare_eq_then, MigrationKey.compare_eq_eq_iff.mpr h]
  rfl

/-- Keys are compared by their bytes. -/
theorem precedes_iff : a.Precedes b ↔ Text.bytes a.key.text < Text.bytes b.key.text := by
  rw [Text.bytes_lt_bytes_iff, Precedes, MigrationKey.compare_eq_lt_iff]

theorem Precedes.trans_le (h : a.Precedes b) (h' : b.le c = true) : a.Precedes c := by
  by_cases hkey : b.key = c.key
  · rw [Precedes, ← hkey]
    exact h
  · exact h.trans (precedes_of_le h' hkey)

/-- What comes before something does not come after it or at its place. -/
theorem Precedes.not_le (h : a.Precedes b) : ¬ b.le a = true := fun h' =>
  h.key_ne (key_eq_of_le h.le h')

/-! ### The sorted list -/

theorem DistinctSources.of_perm (h : DistinctSources ds) (hperm : ds'.Perm ds) :
    DistinctSources ds' := by
  refine hperm.symm.pairwise h fun {a b} hab hba => hab ?_
  exact ⟨hba.1.symm, hba.2.symm⟩

/-- In the sorted list each descriptor comes before the later ones. -/
theorem pairwise_lt_mergeSort (h : DistinctSources ds) :
    (ds.mergeSort le).Pairwise fun a b => compare a b = .lt := by
  have hdistinct : DistinctSources (ds.mergeSort le) := h.of_perm (List.mergeSort_perm ds le)
  refine (pairwise_mergeSort ds).imp₂ (fun a b hle hne => ?_) hdistinct
  rw [le_eq] at hle
  rw [← compare_eq_eq_iff] at hne
  cases hcompare : compare a b with
  | lt => rfl
  | eq => exact absurd hcompare hne
  | gt =>
    rw [hcompare] at hle
    cases hle

/-- There is one sorted list, whatever order the descriptors are given in. -/
theorem mergeSort_eq_of_perm (h : DistinctSources ds) (hperm : ds'.Perm ds) :
    ds'.mergeSort le = ds.mergeSort le := by
  have hsorted : (ds'.mergeSort le).Perm (ds.mergeSort le) :=
    (List.mergeSort_perm ds' le).trans (hperm.trans (List.mergeSort_perm ds le).symm)
  refine hsorted.eq_of_pairwise (fun a b _ _ hab hba => ?_)
    (pairwise_lt_mergeSort (h.of_perm hperm)) (pairwise_lt_mergeSort h)
  have hswap : compare a b = (compare b a).swap := Std.OrientedCmp.eq_swap
  rw [hswap, hba] at hab
  cases hab

/-! ### Duplicates -/

/-- Up to the first of the first two neighbours with one key, the keys of a sorted list ascend. -/
theorem exists_of_firstDuplicate? (hsorted : ds.Pairwise fun a b => a.le b = true)
    (h : firstDuplicate? ds = some (a, b)) : ∃ before after, ds = before ++ a :: b :: after ∧
      a.key = b.key ∧ (before ++ [a]).Pairwise Precedes := by
  induction ds with
  | nil => cases h
  | cons d ds ih =>
    cases ds with
    | nil => cases h
    | cons e rest =>
      obtain ⟨hfirst, hrest⟩ := List.pairwise_cons.mp hsorted
      rw [firstDuplicate?] at h
      split at h
      · next hkey =>
        cases h
        exact ⟨[], rest, rfl, hkey, List.pairwise_singleton _ _⟩
      · next hkey =>
        obtain ⟨before, after, heq, hab, hascending⟩ := ih hrest h
        have hde := precedes_of_le (hfirst e (.head _)) hkey
        refine ⟨d :: before, after, by rw [heq]; rfl, hab, List.pairwise_cons.mpr ⟨?_, hascending⟩⟩
        -- the second is at the same place as the others or before them, and the first before it
        intro c hc
        have hinitial : before ++ [a] <+: e :: rest := ⟨b :: after, by rw [heq]; simp⟩
        obtain rfl | hmem := List.mem_cons.mp (hinitial.subset hc)
        · exact hde
        · exact hde.trans_le ((List.pairwise_cons.mp hrest).1 c hmem)

/-- The descriptors have the smallest key that several have, and of all with this key the two
smallest paths. -/
structure FirstDuplicates (ds : List Descriptor) (a b : Descriptor) : Prop where
  left_mem : a ∈ ds
  right_mem : b ∈ ds
  key_eq : a.key = b.key
  path_lt : Path.compare a.path b.path = .lt
  others : ∀ c ∈ ds, c.key = a.key → c = a ∨ c = b ∨ Path.compare b.path c.path = .lt
  least : ∀ c ∈ ds, ∀ d ∈ ds, c ≠ d → c.key = d.key →
    Text.bytes a.key.text ≤ Text.bytes c.key.text

/-- The first two neighbours with one key are the ones that an error has to name. -/
theorem firstDuplicates_of_eq_some (hds : DistinctSources ds)
    (h : firstDuplicate? (ds.mergeSort le) = some (a, b)) : FirstDuplicates ds a b := by
  have hsorted := pairwise_lt_mergeSort hds
  obtain ⟨before, after, heq, hkey, hascending⟩ :=
    exists_of_firstDuplicate? (pairwise_mergeSort ds) h
  have hmem (c : Descriptor) : c ∈ ds ↔ c ∈ before ∨ c = a ∨ c = b ∨ c ∈ after := by
    rw [← (List.mergeSort_perm ds le).mem_iff, heq]
    simp
  rw [heq, List.pairwise_append, List.pairwise_cons, List.pairwise_cons] at hsorted
  obtain ⟨-, ⟨hafter_a, hafter_b, -⟩, -⟩ := hsorted
  obtain ⟨hbefore, -, hbefore_a⟩ := List.pairwise_append.mp hascending
  have hbefore_a (c : Descriptor) (hc : c ∈ before) : c.Precedes a := hbefore_a c hc a (.head _)
  -- what has a smaller key than `a` stands in front of it
  have hfront {c : Descriptor} (hc : c ∈ ds) (hca : c.Precedes a) : c ∈ before := by
    have hnot : ¬ compare a c = .lt := fun hlt => hca.not_le (by rw [le_eq, hlt]; rfl)
    obtain hc | rfl | hc := (hmem c).mp hc
    · exact hc
    · exact absurd rfl hca.key_ne
    · exact absurd (hafter_a c (List.mem_cons.mpr hc)) hnot
  refine ⟨(hmem a).mpr (.inr (.inl rfl)), (hmem b).mpr (.inr (.inr (.inl rfl))), hkey, ?_, ?_, ?_⟩
  · rw [← compare_of_key_eq hkey]
    exact hafter_a b (.head _)
  · intro c hc hca
    obtain hc | hc | hc | hc := (hmem c).mp hc
    · exact absurd hca (hbefore_a c hc).key_ne
    · exact .inl hc
    · exact .inr (.inl hc)
    · rw [← compare_of_key_eq (hkey.symm.trans hca.symm)]
      exact .inr (.inr (hafter_b c hc))
  · intro c hc d hd hne hcd
    by_contra hsmaller
    have hca : c.Precedes a := precedes_iff.mpr (List.not_le.mp hsmaller)
    have hda : d.Precedes a := by
      rw [Precedes, ← hcd]
      exact hca
    exact hne (List.inj_on_of_nodup_map (nodup_keys hbefore) (hfront hc hca) (hfront hd hda) hcd)

/-- **Sorting is canonical.**  Descriptors from different sources are sorted exactly if no two of
them have one key, and then the result has the same descriptors in strictly ascending order of the
bytes of their keys.  Otherwise the error names the smallest key that several of them have, and the
two smallest paths of those that have it.  Either result is the same in whatever order the
descriptors are given. -/
theorem sort_canonical (h : DistinctSources ds) :
    ((∃ sorted, sort ds = .ok sorted) ↔ (ds.map key).Nodup) ∧
    (∀ sorted, sort ds = .ok sorted → sorted.Perm ds ∧
      sorted.Pairwise fun a b => Text.bytes a.key.text < Text.bytes b.key.text) ∧
    (¬ (ds.map key).Nodup → ∃ a b, FirstDuplicates ds a b ∧
      sort ds = .error (.duplicateKey a.key.text a.path b.path)) ∧
    ∀ ds', ds'.Perm ds → sort ds' = sort ds := by
  refine ⟨exists_sort_iff, fun sorted hsort => ?_, fun hkeys => ?_, fun ds' hperm => ?_⟩
  · obtain ⟨hperm, hascending⟩ := sort_eq_ok_iff.mp hsort
    exact ⟨hperm, hascending.imp precedes_iff.mp⟩
  · rw [← exists_sort_iff] at hkeys
    cases hdup : firstDuplicate? (ds.mergeSort le) with
    | none => exact absurd ⟨ds.mergeSort le, by simp only [sort, hdup]⟩ hkeys
    | some pair =>
      obtain ⟨a, b⟩ := pair
      exact ⟨a, b, firstDuplicates_of_eq_some h hdup, by simp only [sort, hdup]⟩
  · simp only [sort, mergeSort_eq_of_perm h hperm]

/-- Two keys are taken twice, and the error names the smaller one with its paths in their order:
`d/1.js` is in a directory with a shorter name than `d-e/1.yml`. -/
theorem sort_canonical_of_two_duplicates :
    let one : MigrationKey := ⟨"1", by decide⟩
    let two : MigrationKey := ⟨"2", by decide⟩
    let ds : List Descriptor := [⟨two, "p/2.json", [], none⟩, ⟨one, "d-e/1.yml", [], none⟩,
      ⟨two, "d/2.json", [], none⟩, ⟨one, "d/1.js", [], none⟩]
    DistinctSources ds ∧ (∃ a b, FirstDuplicates ds a b) ∧
      sort ds = .error (.duplicateKey "1" "d/1.js" "d-e/1.yml") := by
  intro one two ds
  have hds : DistinctSources ds := by decide +kernel
  obtain ⟨-, -, herror, hperm⟩ := sort_canonical hds
  obtain ⟨a, b, hab, -⟩ := herror (by decide +kernel)
  -- the list that is in order already is sorted as all the others are
  let sorted : List Descriptor := [⟨one, "d/1.js", [], none⟩, ⟨one, "d-e/1.yml", [], none⟩,
    ⟨two, "d/2.json", [], none⟩, ⟨two, "p/2.json", [], none⟩]
  have hsorted : sorted.mergeSort le = sorted := List.mergeSort_of_pairwise (by decide +kernel)
  refine ⟨hds, ⟨a, b, hab⟩, ?_⟩
  rw [← hperm sorted (by decide +kernel)]
  simp only [sort, hsorted]
  rfl

end Descriptor
end SchemaMigration
