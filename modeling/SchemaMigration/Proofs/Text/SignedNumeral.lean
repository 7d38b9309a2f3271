import SchemaMigration.Proofs.Text.Numeral
import Mathlib.Data.List.Induction
import Mathlib.Data.Nat.Digits.Defs

/-!
# Reading numerals

`Numeral.Spells s v` is the grammar of the decimal numerals: digits with at most one sign in front
of them stand for the integer `v`.  What is read as an integer is exactly these
(`readSigned?_eq_some_iff`).  Each number that is small enough is written in one way in a fixed
number of digits (`read?_eq_some_iff_lastDigits`).
-/

namespace SchemaMigration.Numeral

/-! ### Digits -/

/-- The number that decimal digits stand for. -/
def value (s : List Char) : Nat := Nat.ofDigits 10 (s.reverse.map fun c => c.toNat - '0'.toNat)

/-- At least one digit, and nothing else. -/
def AreDigits (s : List Char) : Prop := s ≠ [] ∧ ∀ c ∈ s, isDigit c = true

theorem digitValue?_eq_some_iff {c : Char} {d : Nat} :
    digitValue? c = some d ↔ isDigit c = true ∧ d = c.toNat - '0'.toNat := by
  unfold digitValue? isDigit
  split
  · next hc => simp [hc, eq_comm]
  · next hc => simp [hc]

theorem value_cons (c : Char) (s : List Char) :
    value (c :: s) = (c.toNat - '0'.toNat) * 10 ^ s.length + value s := by
  rw [value, List.reverse_cons, List.map_append, Nat.ofDigits_append, List.map_singleton,
    Nat.ofDigits_singleton, List.length_map, List.length_reverse, Nat.mul_comm, Nat.add_comm, value]

/-- Digits continue a number, and nothing else does. -/
theorem readFrom_eq_some_iff {s : List Char} {m n : Nat} :
    readFrom m s = some n ↔ (∀ c ∈ s, isDigit c = true) ∧ n = m * 10 ^ s.length + value s := by
  induction s generalizing m with
  | nil =>
    have hvalue : value [] = 0 := rfl
    rw [readFrom, hvalue, Option.some.injEq, eq_comm]
    simp
  | cons c s ih =>
    simp only [readFrom, Option.bind_eq_some_iff, digitValue?_eq_some_iff, ih, List.forall_mem_cons,
      value_cons, List.length_cons]
    constructor
    · rintro ⟨d, ⟨hc, rfl⟩, hs, rfl⟩
      exact ⟨⟨hc, hs⟩, by ring⟩
    · rintro ⟨⟨hc, hs⟩, rfl⟩
      exact ⟨_, ⟨hc, rfl⟩, hs, by ring⟩

theorem read?_eq_some_iff {s : List Char} {n : Nat} :
    read? s = some n ↔ AreDigits s ∧ n = value s := by
  unfold read? AreDigits
  cases s with
  | nil => simp
  | cons c s => simp [readFrom_eq_some_iff]

theorem isDigit_of_mem_digits {n : Nat} {c : Char} (h : c ∈ digits n) : isDigit c = true :=
  (read?_eq_some_iff.mp (read?_digits n)).1.2 c h

theorem isDigit_of_mem_padded {width n : Nat} {c : Char} (h : c ∈ (padded width n).toList) :
    isDigit c = true := by
  rw [padded, String.toList_ofList] at h
  split at h
  · exact isDigit_of_mem_lastDigits h
  · exact isDigit_of_mem_digits h

/-! ### Padded numerals -/

theorem value_concat (s : List Char) (c : Char) :
    value (s ++ [c]) = 10 * value s + (c.toNat - '0'.toNat) := by
  rw [value, List.reverse_concat, List.map_cons, Nat.ofDigits_cons, value, Nat.add_comm]

theorem value_digitChar (d : Nat) : (digitChar d).toNat - '0'.toNat = d % 10 :=
  (digitValue?_eq_some_iff.mp (digitValue?_digitChar d)).2.symm

/-- A digit is the character of its value, which is below ten. -/
theorem exists_digitChar {c : Char} (h : isDigit c = true) :
    ∃ d < 10, c = digitChar d := by
  have hc : '0' ≤ c ∧ c ≤ '9' := of_decide_eq_true h
  rw [Char.le_def, Char.le_def, UInt32.le_iff_toNat_le, UInt32.le_iff_toNat_le] at hc
  change 48 ≤ c.toNat ∧ c.toNat ≤ 57 at hc
  have hd : c.toNat - 48 < 10 := by omega
  refine ⟨c.toNat - 48, hd, ?_⟩
  rw [digitChar, Nat.mod_eq_of_lt hd, Nat.add_sub_cancel' hc.1, Char.ofNat_toNat]

theorem value_lastDigits {width n : Nat} (h : n < 10 ^ width) : value (lastDigits width n) = n := by
  induction width generalizing n with
  | zero =>
    obtain rfl : n = 0 := by simpa using h
    rfl
  | succ width ih =>
    rw [Nat.pow_succ] at h
    rw [lastDigits, value_concat, ih (by omega), value_digitChar, Nat.div_add_mod]

/-- Digits are the digits of what they stand for, padded to their number. -/
theorem exists_eq_lastDigits {s : List Char} (h : ∀ c ∈ s, isDigit c = true) :
    value s < 10 ^ s.length ∧ s = lastDigits s.length (value s) := by
  induction s using List.reverseRecOn with
  | nil => exact ⟨Nat.one_pos, rfl⟩
  | append_singleton s c ih =>
    obtain ⟨hs, hc⟩ := List.forall_mem_append.mp h
    obtain ⟨hlt, heq⟩ := ih hs
    obtain ⟨d, hd, rfl⟩ := exists_digitChar (hc c (List.mem_singleton_self c))
    have htens : (10 * value s + d) / 10 = value s := by omega
    have hones : digitChar (10 * value s + d) = digitChar d := by
      have hmod : (10 * value s + d) % 10 = d % 10 := by omega
      rw [digitChar, digitChar, hmod]
    rw [value_concat, value_digitChar, Nat.mod_eq_of_lt hd, List.length_append,
      List.length_singleton, Nat.pow_succ, lastDigits, htens, hones, ← heq]
    exact ⟨by omega, rfl⟩

/-- A number is written in exactly so many digits as they are read. -/
theorem read?_eq_some_iff_lastDigits {s : List Char} {n : Nat} (hs : s ≠ []) : read? s = some n ↔
    n < 10 ^ s.length ∧ s = lastDigits s.length n := by
  rw [read?_eq_some_iff]
  constructor
  · rintro ⟨hdigits, rfl⟩
    exact exists_eq_lastDigits hdigits.2
  · rintro ⟨hlt, heq⟩
    have hvalue := value_lastDigits hlt
    rw [← heq] at hvalue
    refine ⟨⟨hs, fun c hc => ?_⟩, hvalue.symm⟩
    rw [heq] at hc
    exact isDigit_of_mem_lastDigits hc

/-! ### Signs -/

/-- The decimal numerals: digits with at most one sign in front. -/
inductive Spells : List Char → Int → Prop
  | unsigned {s : List Char} (h : AreDigits s) : Spells s (value s)
  | plus {s : List Char} (h : AreDigits s) : Spells ('+' :: s) (value s)
  | minus {s : List Char} (h : AreDigits s) : Spells ('-' :: s) (-(value s : Int))

theorem readSigned?_minus (s : List Char) :
    readSigned? ('-' :: s) = (read? s).map fun n : Nat => -(n : Int) := by
  rw [readSigned?]
  cases read? s <;> rfl

theorem readSigned?_plus (s : List Char) :
    readSigned? ('+' :: s) = (read? s).map fun n : Nat => (n : Int) := by
  rw [readSigned?]
  cases read? s <;> rfl

theorem readSigned?_unsigned {s : List Char} (h : s.head? ≠ some '-') (h' : s.head? ≠ some '+') :
    readSigned? s = (read? s).map fun n : Nat => (n : Int) := by
  unfold readSigned?
  split
  · exact absurd rfl h
  · exact absurd rfl h'
  · cases read? s <;> rfl

/-- **Reading integers**: what is read as an integer is its numerals, and nothing else. -/
theorem readSigned?_eq_some_iff {s : List Char} {v : Int} :
    readSigned? s = some v ↔ Spells s v := by
  constructor
  · intro h
    -- the first character tells which of the three spellings it can be
    by_cases hminus : s.head? = some '-'
    · obtain ⟨ds, rfl⟩ := List.head?_eq_some_iff.mp hminus
      rw [readSigned?_minus] at h
      obtain ⟨n, hread, rfl⟩ := Option.map_eq_some_iff.mp h
      obtain ⟨hds, rfl⟩ := read?_eq_some_iff.mp hread
      exact .minus hds
    · by_cases hplus : s.head? = some '+'
      · obtain ⟨ds, rfl⟩ := List.head?_eq_some_iff.mp hplus
        rw [readSigned?_plus] at h
        obtain ⟨n, hread, rfl⟩ := Option.map_eq_some_iff.mp h
        obtain ⟨hds, rfl⟩ := read?_eq_some_iff.mp hread
        exact .plus hds
      · rw [readSigned?_unsigned hminus hplus] at h
        obtain ⟨n, hread, rfl⟩ := Option.map_eq_some_iff.mp h
        obtain ⟨hs, rfl⟩ := read?_eq_some_iff.mp hread
        exact .unsigned hs
  · intro h
    cases h with
    | unsigned hs => exact readSigned?_of_read? (read?_eq_some_iff.mpr ⟨hs, rfl⟩)
    | plus hs => rw [readSigned?_plus, read?_eq_some_iff.mpr ⟨hs, rfl⟩, Option.map_some]
    | minus hs => rw [readSigned?_minus, read?_eq_some_iff.mpr ⟨hs, rfl⟩, Option.map_some]

end SchemaMigration.Numeral
