import Mathlib.Algebra.Group.Nat.Defs
import Mathlib.Data.List.Basic

/-!
# Texts as bytes

Texts are compared by their characters, and that is the order of their bytes in UTF-8
(`bytes_lt_bytes_iff`).  The bytes of a character are a first byte, which tells how many there are,
and the lowest digits of the character's number to base 64.  So of two characters with equally many
bytes the greater one has the greater byte where they differ first, and of two others the one with
more bytes has the greater first byte (`encode_append_lt`).
-/

namespace SchemaMigration

namespace Utf8

/-! ### The bytes of a character -/

/-- The lowest digits of a number to base 64, each with the mark of a byte that continues a
character. -/
def continuation : (digits : Nat) → Nat → List UInt8
  | 0, _ => []
  | n + 1, v => continuation n (v / 64) ++ [UInt8.ofNat (v % 64 + 128)]

/-- How many bytes continue the character with a number. -/
def continuations (v : Nat) : Nat :=
  if v ≤ 0x7f then 0 else if v ≤ 0x7ff then 1 else if v ≤ 0xffff then 2 else 3

/-- The mark of a first byte with a number of bytes behind it. -/
def mark : (continuations : Nat) → Nat
  | 0 => 0
  | 1 => 0xc0
  | 2 => 0xe0
  | _ => 0xf0

/-- The bytes of the character with a number. -/
def encode (v : Nat) : List UInt8 :=
  UInt8.ofNat (v / 64 ^ continuations v + mark (continuations v)) ::
    continuation (continuations v) v

theorem toNat_lt (c : Char) : c.val.toNat < 0x110000 := by
  rcases c.valid with h | h
  · exact Nat.lt_trans h (by decide)
  · exact h.2

theorem utf8EncodeChar_eq (c : Char) : String.utf8EncodeChar c = encode c.val.toNat := by
  have hmax := toNat_lt c
  unfold String.utf8EncodeChar encode continuations
  generalize c.val.toNat = v at hmax
  dsimp only
  split_ifs with h₁ h₂ h₃
  · simp [mark, continuation]
  · have hlead : v / 64 % 32 = v / 64 := Nat.mod_eq_of_lt (by omega)
    simp [mark, continuation, hlead]
  · have hlead : v / 4096 % 16 = v / 4096 := Nat.mod_eq_of_lt (by omega)
    simp [mark, continuation, hlead]
  · have hlead : v / 262144 % 8 = v / 262144 := Nat.mod_eq_of_lt (by omega)
    simp [mark, continuation, hlead, Nat.div_div_eq_div_mul]

/-! ### The order of characters -/

theorem ofNat_cons_lt {x y : Nat} (h : x < y) (hy : y < 256) (s t : List UInt8) :
    UInt8.ofNat x :: s < UInt8.ofNat y :: t := by
  rw [List.cons_lt_cons_iff, UInt8.lt_iff_toNat_lt, UInt8.toNat_ofNat', UInt8.toNat_ofNat']
  omega

/-- Of two characters with equally many bytes, the greater one has the greater bytes, whatever comes
behind. -/
theorem continuation_append_lt {m n v w : Nat} (h : v < w) (hw : w / 64 ^ n + m < 256)
    (s t : List UInt8) : UInt8.ofNat (v / 64 ^ n + m) :: continuation n v ++ s <
      UInt8.ofNat (w / 64 ^ n + m) :: continuation n w ++ t := by
  -- the last digit is taken off, and what is left of the numbers has the bytes in front of it
  induction n generalizing v w s t with
  | zero =>
    rw [Nat.pow_zero, Nat.div_one] at hw ⊢
    rw [Nat.div_one]
    exact ofNat_cons_lt (Nat.add_lt_add_right h m) hw _ _
  | succ n ih =>
    have hdiv (x : Nat) : x / 64 ^ (n + 1) = x / 64 / 64 ^ n := by
      rw [Nat.pow_succ, Nat.mul_comm, Nat.div_div_eq_div_mul]
    rw [hdiv] at hw
    rw [hdiv, hdiv, continuation, continuation, List.cons_append, List.cons_append,
      List.append_assoc, List.append_assoc, ← List.cons_append, ← List.cons_append]
    obtain hrest | ⟨hrest, hdigit⟩ : v / 64 < w / 64 ∨ v / 64 = w / 64 ∧ v % 64 < w % 64 := by
      omega
    · exact ih hrest hw _ _
    · rw [hrest]
      exact List.append_left_lt (ofNat_cons_lt (by omega) (by omega) s t)

/-- The first byte of a character leaves room for its mark. -/
theorem first_lt {v : Nat} (h : v < 0x110000) :
    v / 64 ^ continuations v + mark (continuations v) < 256 := by
  unfold continuations
  split_ifs <;> simp only [mark, Nat.reducePow] <;> omega

/-- A character with more bytes has a greater first byte. -/
theorem first_lt_first {v w : Nat} (h : continuations v < continuations w) :
    v / 64 ^ continuations v + mark (continuations v) <
      w / 64 ^ continuations w + mark (continuations w) := by
  unfold continuations at h ⊢
  split_ifs at h ⊢ <;> simp only [mark, Nat.reducePow] <;> omega

/-- **The greater character has the greater bytes**, whatever comes behind. -/
theorem encode_append_lt {v w : Nat} (h : v < w) (hw : w < 0x110000) (s t : List UInt8) :
    encode v ++ s < encode w ++ t := by
  obtain hlength | hlength : continuations v = continuations w ∨
      continuations v < continuations w := by
    unfold continuations
    split_ifs <;> omega
  · have hfirst := first_lt hw
    rw [encode, encode, hlength]
    exact continuation_append_lt h hfirst s t
  · exact ofNat_cons_lt (first_lt_first hlength) (first_lt hw) _ _

end Utf8

namespace Text
open Utf8 (utf8EncodeChar_eq encode_append_lt toNat_lt)

/-! ### The order of texts -/

/-- The bytes of a text in UTF-8. -/
def bytes (text : String) : List UInt8 := text.toByteArray.data.toList

theorem bytes_eq (text : String) : bytes text = text.toList.flatMap String.utf8EncodeChar := by
  have htext : text = String.ofList text.toList := String.ofList_toList.symm
  rw [bytes, htext, String.toByteArray_ofList, List.utf8Encode, List.toList_data_toByteArray,
    ← htext]

theorem flatMap_utf8EncodeChar_lt {s t : List Char} (h : s < t) :
    s.flatMap String.utf8EncodeChar < t.flatMap String.utf8EncodeChar := by
  induction s generalizing t with
  | nil =>
    cases t with
    | nil => exact absurd h (List.lt_irrefl [])
    | cons d t =>
      rw [List.flatMap_cons, utf8EncodeChar_eq]
      exact .nil
  | cons c s ih =>
    cases t with
    | nil => cases h
    | cons d t =>
      rw [List.flatMap_cons, List.flatMap_cons]
      -- the heads differ, and so do their bytes, or they are equal and the tails differ
      obtain hlt | ⟨rfl, hrest⟩ := List.cons_lt_cons_iff.mp h
      · rw [utf8EncodeChar_eq, utf8EncodeChar_eq]
        exact encode_append_lt hlt (toNat_lt d) _ _
      · exact List.append_left_lt (ih hrest)

/-- **Texts are in the order of their bytes.** -/
theorem bytes_lt_bytes_iff {s t : String} : bytes s < bytes t ↔ s < t := by
  rw [bytes_eq, bytes_eq, String.lt_iff]
  refine ⟨fun h => ?_, flatMap_utf8EncodeChar_lt⟩
  by_contra hnot
  obtain hlt | heq := List.le_iff_lt_or_eq.mp (List.not_lt.mp hnot)
  · exact List.lt_asymm h (flatMap_utf8EncodeChar_lt hlt)
  · rw [heq] at h
    exact List.lt_irrefl _ h

end Text
end SchemaMigration
