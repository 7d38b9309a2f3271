import SchemaMigration.Text.Numeral
import Mathlib.Algebra.Group.Nat.Defs

/-!
# Decimal numerals

The decimal digits of a number are read as that number (`read?_digits`), with and without a sign.
Numbers that are padded to one width are in the order of their digits (`lastDigits_lt`), and two
padded numbers side by side are one (`lastDigits_append`).
-/

namespace SchemaMigration.Numeral

/-! ### Reading back -/

theorem digitValue?_digitChar (d : Nat) : digitValue? (digitChar d) = some (d % 10) := by
  have hall : ∀ k < 10, digitValue? (Char.ofNat (48 + k)) = some k := by decide
  exact hall (d % 10) (Nat.mod_lt d (by decide))

theorem readFrom_cons_digitChar (m d : Nat) (rest : List Char) :
    readFrom m (digitChar d :: rest) = readFrom (10 * m + d % 10) rest := by
  rw [readFrom, digitValue?_digitChar, Option.bind_some]

/-- What is written in front of `rest` is read as `n`, and then comes `rest`. -/
theorem readFrom_writeDigits {fuel n : Nat} (h : n < fuel) (rest : List Char) :
    readFrom 0 (writeDigits fuel n rest) = readFrom n rest := by
  induction fuel generalizing n rest with
  | zero => omega
  | succ fuel ih =>
    rw [writeDigits]
    split
    · next hn =>
      rw [readFrom_cons_digitChar, Nat.mod_eq_of_lt hn, Nat.mul_zero, Nat.zero_add]
    · rw [ih (by omega), readFrom_cons_digitChar, Nat.div_add_mod]

theorem digits_ne_nil (n : Nat) : digits n ≠ [] := by
  have hwrite : ∀ (fuel n : Nat) (rest : List Char), rest ≠ [] → writeDigits fuel n rest ≠ [] := by
    intro fuel
    induction fuel with
    | zero => exact fun _ _ h => h
    | succ fuel ih =>
      intro n rest _
      rw [writeDigits]
      split
      · exact List.cons_ne_nil _ _
      · exact ih _ _ (List.cons_ne_nil _ _)
  rw [digits, writeDigits]
  split
  · exact List.cons_ne_nil _ _
  · exact hwrite _ _ _ (List.cons_ne_nil _ _)

/-- **Reading back**: the digits of a number are read as the number. -/
theorem read?_digits (n : Nat) : read? (digits n) = some n := by
  rw [read?, if_neg (by simp [digits_ne_nil]), digits, readFrom_writeDigits (Nat.lt_succ_self n)]
  rfl

/-- Digits without a sign are read as the same number. -/
theorem readSigned?_of_read? {s : List Char} {n : Nat} (h : read? s = some n) :
    readSigned? s = some (n : Int) := by
  unfold readSigned?
  split
  · next cs =>
    have habs : read? ('-' :: cs) = none := rfl
    rw [habs] at h
    cases h
  · next cs =>
    have habs : read? ('+' :: cs) = none := rfl
    rw [habs] at h
    cases h
  · rw [h]
    rfl

/-! ### Padded numerals -/

theorem length_lastDigits (width n : Nat) : (lastDigits width n).length = width := by
  induction width generalizing n with
  | zero => rfl
  | succ width ih => rw [lastDigits, List.length_append, ih, List.length_singleton]

theorem toList_padded {width n : Nat} (h : n < 10 ^ width) :
    (padded width n).toList = lastDigits width n := by
  have hpow : n < Nat.pow 10 width := h
  rw [padded, if_pos hpow, String.toList_ofList]

theorem isDigit_digitChar (d : Nat) : isDigit (digitChar d) = true := by
  have hall : ∀ k < 10, isDigit (Char.ofNat (48 + k)) = true := by decide
  exact hall (d % 10) (Nat.mod_lt d (by decide))

theorem isDigit_of_mem_lastDigits {width n : Nat} {c : Char} (h : c ∈ lastDigits width n) :
    isDigit c = true := by
  induction width generalizing n with
  | zero => cases h
  | succ width ih =>
    rw [lastDigits, List.mem_append, List.mem_singleton] at h
    obtain h | rfl := h
    · exact ih h
    · exact isDigit_digitChar n

/-- Two blocks of digits are the digits of one number. -/
theorem lastDigits_append (width n : Nat) {width' n' : Nat} (h : n' < 10 ^ width') :
    lastDigits width n ++ lastDigits width' n' =
      lastDigits (width + width') (n * 10 ^ width' + n') := by
  induction width' generalizing n' with
  | zero =>
    obtain rfl : n' = 0 := by simpa using h
    simp [lastDigits]
  | succ width' ih =>
    have hshift : n * 10 ^ (width' + 1) = 10 * (n * 10 ^ width') := by
      rw [Nat.pow_succ, ← Nat.mul_assoc, Nat.mul_comm]
    have htens : (n * 10 ^ (width' + 1) + n') / 10 = n * 10 ^ width' + n' / 10 := by omega
    have hones : digitChar (n * 10 ^ (width' + 1) + n') = digitChar n' := by
      have hmod : (n * 10 ^ (width' + 1) + n') % 10 = n' % 10 := by omega
      rw [digitChar, digitChar, hmod]
    rw [Nat.pow_succ] at h
    rw [lastDigits, ← List.append_assoc, ih (by omega), ← Nat.add_assoc, lastDigits, htens, hones]

theorem digitChar_lt {d e : Nat} (h : d % 10 < e % 10) : digitChar d < digitChar e := by
  have hall : ∀ l < 10, ∀ k < l, Char.ofNat (48 + k) < Char.ofNat (48 + l) := by decide
  exact hall (e % 10) (Nat.mod_lt e (by decide)) (d % 10) h

/-- Of two texts of one length the first character that differs decides, whatever comes behind. -/
theorem append_lt_append {s t : List Char} (h : s < t) (hlength : s.length = t.length)
    (s' t' : List Char) : s ++ s' < t ++ t' := by
  induction s generalizing t with
  | nil =>
    obtain rfl := List.length_eq_zero_iff.mp hlength.symm
    exact absurd h (List.lt_irrefl [])
  | cons c s ih =>
    cases t with
    | nil => cases hlength
    | cons d t =>
      rw [List.cons_append, List.cons_append, List.cons_lt_cons_iff]
      obtain hcd | ⟨hcd, hst⟩ := List.cons_lt_cons_iff.mp h
      · exact .inl hcd
      · exact .inr ⟨hcd, ih hst (Nat.succ.inj hlength)⟩

/-- **Padding**: numbers of one width are in the order of their digits. -/
theorem lastDigits_lt {width n m : Nat} (h : n < m) (hm : m < 10 ^ width) :
    lastDigits width n < lastDigits width m := by
  induction width generalizing n m with
  | zero => omega
  | succ width ih =>
    rw [Nat.pow_succ] at hm
    rw [lastDigits, lastDigits]
    obtain htens | htens : n / 10 < m / 10 ∨ n / 10 = m / 10 ∧ n % 10 < m % 10 := by omega
    · refine append_lt_append (ih htens (by omega)) ?_ _ _
      rw [length_lastDigits, length_lastDigits]
    · rw [htens.1]
      refine List.append_left_lt (List.cons_lt_cons_iff.mpr (.inl ?_))
      exact digitChar_lt htens.2

end SchemaMigration.Numeral
