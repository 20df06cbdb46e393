import Mathlib.Data.String.Basic
import Mathlib.Tactic.Lemma
import Mathlib.Tactic.SplitIfs

/-!
Texts are in the order of their bytes.

Texts are compared by their characters, and characters by their numbers. The leading byte of a
character tells how many bytes encode it, and grows with that; the bytes of one length hold the
digits of the number, the highest first. So the bytes of two characters differ before the shorter
of the two ends, in the direction in which the characters differ, whatever follows.
-/

namespace RecordQuery.Text

/-- The bytes that encode the text. -/
def bytes (text : String) : List UInt8 := text.toUTF8.data.toList

/-- Numbers are in the order of their digits to base 64. -/
lemma digits_lt {n m : Nat} (h : n < m) :
    n / 262144 < m / 262144 ∨ n / 262144 = m / 262144 ∧
      (n / 4096 % 64 < m / 4096 % 64 ∨ n / 4096 % 64 = m / 4096 % 64 ∧
        (n / 64 % 64 < m / 64 % 64 ∨ n / 64 % 64 = m / 64 % 64 ∧ n % 64 < m % 64)) := by
  have hdigits (k : Nat) :
      k = ((k / 262144 * 64 + k / 4096 % 64) * 64 + k / 64 % 64) * 64 + k % 64 := by omega
  have hsmall (k : Nat) : k / 4096 % 64 < 64 ∧ k / 64 % 64 < 64 ∧ k % 64 < 64 := by omega
  have hn := hdigits n
  have hm := hdigits m
  have hn' := hsmall n
  have hm' := hsmall m
  -- with names for the digits, what is left is linear
  generalize n / 262144 = n₃, n / 4096 % 64 = n₂, n / 64 % 64 = n₁, n % 64 = n₀ at *
  generalize m / 262144 = m₃, m / 4096 % 64 = m₂, m / 64 % 64 = m₁, m % 64 = m₀ at *
  omega

lemma toNat_byte {k : Nat} (h : k < 256) : (UInt8.ofNat k).toNat = k :=
  UInt8.toNat_ofNat_of_lt' h

/-- The bytes of different characters differ, whatever follows them. -/
lemma utf8EncodeChar_append_lt {a b : Char} (h : a < b) (u v : List UInt8) :
    String.utf8EncodeChar a ++ u < String.utf8EncodeChar b ++ v := by
  have hlt : a.val.toNat < b.val.toNat := h
  have hdigits := digits_lt hlt
  have hmax : b.val.toNat < 0x110000 := by
    have hvalid := b.valid
    simp only [UInt32.isValidChar, Nat.isValidChar] at hvalid
    omega
  have hlead {k : Nat} (hk : k < 0x110000) : k / 262144 % 8 = k / 262144 := by omega
  have ha := hlead (hlt.trans hmax)
  have hb := hlead hmax
  unfold String.utf8EncodeChar
  generalize a.val.toNat = n at *
  generalize b.val.toNat = m at *
  simp only
  -- a case for each pair of lengths
  split_ifs <;>
    simp (disch := omega) only [List.cons_append, List.nil_append, List.cons_lt_cons_iff,
      UInt8.lt_iff_toNat_lt, ← UInt8.toNat_inj, toNat_byte, ha, hb] <;>
    omega

lemma flatMap_utf8EncodeChar_lt {l m : List Char} (h : l < m) :
    l.flatMap String.utf8EncodeChar < m.flatMap String.utf8EncodeChar := by
  induction h with
  | @nil c m =>
    obtain ⟨first, rest, hc⟩ :=
      List.exists_cons_of_ne_nil (String.utf8EncodeChar_ne_nil : String.utf8EncodeChar c ≠ [])
    rw [List.flatMap_nil, List.flatMap_cons, hc, List.cons_append]
    exact List.nil_lt_cons _ _
  | cons h ih =>
    rw [List.flatMap_cons, List.flatMap_cons]
    exact List.append_left_lt ih
  | rel h =>
    rw [List.flatMap_cons, List.flatMap_cons]
    exact utf8EncodeChar_append_lt h _ _

lemma bytes_eq_flatMap (text : String) :
    bytes text = text.toList.flatMap String.utf8EncodeChar := by
  rw [bytes, String.toUTF8, ← String.utf8Encode_toList, List.utf8Encode]
  simp

lemma bytes_lt {s t : String} (h : s < t) : bytes s < bytes t := by
  rw [bytes_eq_flatMap, bytes_eq_flatMap]
  exact flatMap_utf8EncodeChar_lt (String.lt_iff_toList_lt.1 h)

/-- **Texts are in the order of their bytes.** -/
lemma le_iff_bytes_le {s t : String} : s ≤ t ↔ bytes s ≤ bytes t := by
  rcases lt_trichotomy s t with h | rfl | h
  · exact iff_of_true h.le (List.le_of_lt (bytes_lt h))
  · exact iff_of_true le_rfl (List.le_refl _)
  · exact iff_of_false (not_le.2 h) (List.not_le.2 (bytes_lt h))

end RecordQuery.Text
