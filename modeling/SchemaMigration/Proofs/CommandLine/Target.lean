import SchemaMigration.CommandLine.Target
import SchemaMigration.Proofs.Text.Blank
import SchemaMigration.Proofs.Text.SignedNumeral

/-!
# What a text asks for

`TargetVersion.Spells text target` is the grammar of the versions that a command may be asked for: a
word for the highest version, or a numeral.  A text is read as the target that it spells, and any
other text is refused (`ofText?_eq_some_iff`).
-/

namespace SchemaMigration

/-! ### Small letters -/

theorem isAlpha_eq_false_iff {c : Char} : c.isAlpha = false ↔
    (c.val.toNat < 65 ∨ 90 < c.val.toNat) ∧ (c.val.toNat < 97 ∨ 122 < c.val.toNat) := by
  have halpha : c.isAlpha = (decide (c.val ≥ 65 ∧ c.val ≤ 90) ||
      decide (c.val ≥ 97) && decide (c.val ≤ 122)) := rfl
  rw [halpha, Bool.or_eq_false_iff, Bool.and_eq_false_iff, decide_eq_false_iff_not,
    decide_eq_false_iff_not, decide_eq_false_iff_not]
  simp only [ge_iff_le, UInt32.le_iff_toNat_le, UInt32.reduceToNat]
  omega

/-- Making capital letters small gives no character but a letter. -/
theorem toLower_eq_iff {c d : Char} (hd : d.isAlpha = false) : c.toLower = d ↔ c = d := by
  rw [isAlpha_eq_false_iff] at hd
  unfold Char.toLower
  split
  · next hc =>
    have hlow := UInt32.le_iff_toNat_le.mp hc.1
    have hhigh := UInt32.le_iff_toNat_le.mp hc.2
    constructor
    · rintro rfl
      simp at hd hlow hhigh
      omega
    · rintro rfl
      simp at hd hlow hhigh
      omega
  · rfl

namespace Numeral

theorem isAlpha_of_isDigit {c : Char} (h : isDigit c = true) : c.isAlpha = false := by
  simp only [isDigit, decide_eq_true_eq, Char.le_def, UInt32.le_iff_toNat_le] at h
  change 48 ≤ c.val.toNat ∧ c.val.toNat ≤ 57 at h
  rw [isAlpha_eq_false_iff]
  omega

/-- There are no letters in numerals. -/
theorem Spells.isAlpha_eq_false {s : List Char} {v : Int} (h : Spells s v) :
    ∀ c ∈ s, c.isAlpha = false := by
  cases h with
  | unsigned hs => exact fun c hc => isAlpha_of_isDigit (hs.2 c hc)
  | plus hs => exact List.forall_mem_cons.mpr ⟨rfl, fun c hc => isAlpha_of_isDigit (hs.2 c hc)⟩
  | minus hs => exact List.forall_mem_cons.mpr ⟨rfl, fun c hc => isAlpha_of_isDigit (hs.2 c hc)⟩

/-- Small letters for capital ones make no numeral. -/
theorem spells_map_toLower_iff {s : List Char} {v : Int} :
    Spells (s.map Char.toLower) v ↔ Spells s v := by
  have hself : (∀ c ∈ s, c.toLower.isAlpha = false ∨ c.isAlpha = false) →
      s.map Char.toLower = s := by
    intro h
    refine (List.map_congr_left fun c hc => ?_).trans (List.map_id s)
    obtain hlower | hsame := h c hc
    · exact ((toLower_eq_iff hlower).mp rfl).symm
    · exact (toLower_eq_iff hsame).mpr rfl
  constructor
  · intro h
    rwa [hself fun c hc => .inl (h.isAlpha_eq_false _ (List.mem_map_of_mem hc))] at h
  · intro h
    rwa [hself fun c hc => .inr (h.isAlpha_eq_false c hc)]

end Numeral

/-! ### Targets -/

namespace TargetVersion

variable {text : String} {target : TargetVersion}

/-- What a text asks for.  White space at its ends does not count, nor in a word for the highest
version the case of a letter, and the number has to fit into 64 bits with a sign. -/
inductive Spells (text : String) : TargetVersion → Prop
  | latest {core : List Char} (htrims : Text.Trims text.toList core)
      (hword : core.map Char.toLower = "last".toList ∨
        core.map Char.toLower = "latest".toList) : Spells text .latest
  | version {core : List Char} {v : Int} (htrims : Text.Trims text.toList core)
      (hnumeral : Numeral.Spells core v) (hleast : -2 ^ 63 ≤ v) (hgreatest : v ≤ 2 ^ 63 - 1) :
      Spells text (.version v)

theorem contains_latestWords {s : List Char} : latestWords.contains (String.ofList s) = true ↔
    s = "last".toList ∨ s = "latest".toList := by
  have hof (word : String) : String.ofList s = word ↔ s = word.toList :=
    ⟨fun h => h ▸ String.toList_ofList.symm, fun h => h ▸ String.ofList_toList⟩
  simp [latestWords, hof]

/-- **Reading targets**: a text is read as the target that it spells, and any other is refused. -/
theorem ofText?_eq_some_iff : ofText? text = some target ↔ Spells text target := by
  have hword : Text.lowerAscii (Text.trim text) =
      String.ofList ((Text.trimBlanks text.toList).map Char.toLower) := by
    rw [Text.lowerAscii, Text.trim, String.toList_ofList]
  have hnumeral {v : Int} :
      Numeral.readSigned? ((Text.trimBlanks text.toList).map Char.toLower) = some v ↔
        Numeral.Spells (Text.trimBlanks text.toList) v := by
    rw [Numeral.readSigned?_eq_some_iff, Numeral.spells_map_toLower_iff]
  simp only [ofText?, hword, contains_latestWords, String.toList_ofList]
  have htrims := Text.trims_trimBlanks text.toList
  split
  · next hlatest =>
    rw [Option.some.injEq]
    constructor
    · rintro rfl
      exact .latest htrims hlatest
    · intro h
      cases h with
      | latest => rfl
      | version htrims' h =>
        -- neither word is a numeral
        rw [Text.trims_iff.mp htrims', ← hnumeral] at h
        obtain hlatest | hlatest := hlatest
        · rw [hlatest] at h
          cases h
        · rw [hlatest] at h
          cases h
  · next hlatest =>
    simp only [Option.map_eq_some_iff, Option.filter_eq_some_iff, decide_eq_true_eq, hnumeral]
    constructor
    · rintro ⟨v, ⟨h, hleast, hgreatest⟩, rfl⟩
      exact .version htrims h hleast hgreatest
    · intro h
      cases h with
      | latest htrims' hword =>
        rw [Text.trims_iff.mp htrims'] at hword
        exact absurd hword hlatest
      | @version core v htrims' h hleast hgreatest =>
        rw [Text.trims_iff.mp htrims'] at h
        exact ⟨v, ⟨h, hleast, hgreatest⟩, rfl⟩

end TargetVersion
end SchemaMigration
