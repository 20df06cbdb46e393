import Mathlib.Tactic.Lemma
import RecordQuery.Binary64.Rounding

/-!
How far rounding reaches, and that it keeps the order of what it rounds.

Rounding reaches at most twice as far as the exact result, so what is far enough below the last
power of two is rounded to a finite number. A larger result never rounds to less than a smaller
one, also where the spacing of the numbers changes between the two.
-/

namespace RecordQuery.Binary64

lemma magnitude_ofMagnitude {negative : Bool} {m : Nat} (h : m < 2 ^ 63) :
    (ofMagnitude negative m).magnitude = m := by
  unfold ofMagnitude magnitude
  cases negative <;> simp only [UInt64.toNat_ofNat'] <;> simp <;> omega

lemma roundQuotient_le (n d : Nat) : roundQuotient n d ≤ n / d + 1 := by
  simp only [roundQuotient]
  split <;> omega

lemma spacing_le (steps : Nat) : spacing steps ≤ steps + 1 := by
  unfold spacing
  by_cases h : steps = 0
  · subst h
    decide
  · have hpow : 2 ^ (steps.log2 - 52) ≤ 2 ^ steps.log2 :=
      Nat.pow_le_pow_right (by decide) (Nat.sub_le _ _)
    have hself := Nat.log2_self_le h
    omega

lemma roundSteps_le (n d : Nat) : roundSteps n d ≤ 2 * (n / d) + 1 := by
  have hunit := spacing_le (n / d)
  simp only [roundSteps]
  generalize spacing (n / d) = unit at hunit ⊢
  calc roundQuotient n (d * unit) * unit
      ≤ (n / (d * unit) + 1) * unit := Nat.mul_le_mul_right _ (roundQuotient_le _ _)
    _ = n / d / unit * unit + unit := by rw [Nat.div_div_eq_div_mul, Nat.add_mul, Nat.one_mul]
    _ ≤ n / d + unit := Nat.add_le_add_right (Nat.div_mul_le_self _ _) _
    _ ≤ 2 * (n / d) + 1 := by omega

lemma magnitudeOfSteps_lt {steps : Nat} (h : steps < 2 ^ 2098) :
    magnitudeOfSteps steps < infinityMagnitude := by
  simp only [magnitudeOfSteps]
  split
  · next hsmall => exact Nat.lt_trans hsmall (by decide)
  · next hlarge =>
    have hne : steps ≠ 0 := by
      rintro rfl
      exact hlarge (by decide)
    have hlog : steps.log2 < 2098 := (Nat.log2_lt hne).2 h
    have hlow : 52 ≤ steps.log2 := (Nat.le_log2 hne).2 (Nat.not_lt.1 hlarge)
    -- the leading digits, the first of which stands for the power of two itself
    have hdigits : steps / 2 ^ (steps.log2 - 52) < 2 ^ 53 := by
      refine Nat.div_lt_of_lt_mul ?_
      rw [← Nat.pow_add, show steps.log2 - 52 + 53 = steps.log2 + 1 by omega]
      exact (Nat.log2_lt hne).1 (Nat.lt_succ_self _)
    refine Nat.lt_of_le_of_lt (Nat.min_le_right _ _) ?_
    unfold infinityMagnitude
    omega

lemma roundSteps_mul_two_pow_lt {a j : Nat} (k : Nat) (h : a < 2 ^ j) :
    roundSteps (a * 2 ^ k) 1 < 2 ^ (j + k + 1) := by
  have hle := roundSteps_le (a * 2 ^ k) 1
  have hpos := Nat.two_pow_pos k
  have hmul : (a + 1) * 2 ^ k ≤ 2 ^ j * 2 ^ k := Nat.mul_le_mul_right _ h
  rw [Nat.add_mul, ← Nat.pow_add] at hmul
  rw [Nat.pow_succ]
  omega

/-- Whole numbers that are not huge are rounded to finite numbers. -/
lemma ofInt_isFinite {n : Int} (h : n.natAbs < 2 ^ 65) : (ofInt n).isFinite = true := by
  have hreach : roundSteps (n.natAbs * stepsPerOne) 1 < 2 ^ 2098 := by
    unfold stepsPerOne
    refine Nat.lt_of_lt_of_le (roundSteps_mul_two_pow_lt 1074 h) ?_
    apply Nat.pow_le_pow_right <;> decide
  have hlt := magnitudeOfSteps_lt hreach
  unfold isFinite ofInt ofQuotient ofSteps
  rw [magnitude_ofMagnitude (Nat.lt_trans hlt (by decide))]
  exact decide_eq_true hlt

lemma isNaN_eq_false_of_isFinite {x : Binary64} (h : x.isFinite = true) : x.isNaN = false := by
  simp only [isFinite, isNaN, decide_eq_true_eq, decide_eq_false_iff_not] at h ⊢
  omega

/-! ### Rounding and order -/

lemma le_roundQuotient {n d k : Nat} (hd : 0 < d) (h : k * d ≤ n) : k ≤ roundQuotient n d := by
  have hquot : k ≤ n / d := (Nat.le_div_iff_mul_le hd).2 h
  simp only [roundQuotient]
  split <;> omega

lemma roundQuotient_le_of_le {n d k : Nat} (hd : 0 < d) (h : n ≤ k * d) :
    roundQuotient n d ≤ k := by
  simp only [roundQuotient]
  rcases Nat.lt_or_eq_of_le h with hlt | rfl
  · have hquot : n / d < k := (Nat.div_lt_iff_lt_mul hd).2 hlt
    split <;> omega
  · -- an exact quotient has nothing left over to be rounded
    rw [Nat.mul_div_cancel k hd, Nat.mul_mod_left]
    split <;> omega

/-- A larger quotient never rounds to less. -/
lemma roundQuotient_mono {m n : Nat} (d : Nat) (h : m ≤ n) :
    roundQuotient m d ≤ roundQuotient n d := by
  have hm := Nat.div_add_mod m d
  have hn := Nat.div_add_mod n d
  have hquot : m / d ≤ n / d := Nat.div_le_div_right h
  simp only [roundQuotient]
  rcases Nat.lt_or_eq_of_le hquot with hlt | heq
  · split <;> split <;> omega
  · -- what is left over grows, so what is rounded up stays so
    rw [heq] at hm ⊢
    split <;> split <;> omega

/-- A number below a power of two rounds to no more than it. -/
lemma roundSteps_le_two_pow {n j : Nat} (h : n < 2 ^ j) : roundSteps n 1 ≤ 2 ^ j := by
  have hlog : n.log2 - 52 ≤ j := by
    by_cases hn : n = 0
    · subst hn
      exact Nat.zero_le j
    · have := (Nat.log2_lt hn).2 h
      omega
  have hsplit : 2 ^ (j - (n.log2 - 52)) * spacing n = 2 ^ j := by
    rw [spacing, ← Nat.pow_add, Nat.sub_add_cancel hlog]
  simp only [roundSteps, Nat.div_one, Nat.one_mul]
  rw [← hsplit] at h ⊢
  exact Nat.mul_le_mul_right _ (roundQuotient_le_of_le (Nat.two_pow_pos _) (Nat.le_of_lt h))

/-- A number does not round to less than its leading power of two. -/
lemma two_pow_log2_le_roundSteps {n : Nat} (h : n ≠ 0) : 2 ^ n.log2 ≤ roundSteps n 1 := by
  have hsplit : 2 ^ (n.log2 - (n.log2 - 52)) * spacing n = 2 ^ n.log2 := by
    rw [spacing, ← Nat.pow_add, Nat.sub_add_cancel (Nat.sub_le _ _)]
  have hself := Nat.log2_self_le h
  simp only [roundSteps, Nat.div_one, Nat.one_mul]
  rw [← hsplit] at hself ⊢
  exact Nat.mul_le_mul_right _ (le_roundQuotient (Nat.two_pow_pos _) hself)

/-- A larger number never rounds to less: a power of two lies between the two, or the spacing is
the same for both. -/
lemma roundSteps_mono {m n : Nat} (h : m ≤ n) : roundSteps m 1 ≤ roundSteps n 1 := by
  by_cases hn : n = 0
  · obtain rfl : m = n := by omega
    exact Nat.le_refl _
  by_cases hpow : m < 2 ^ n.log2
  · exact Nat.le_trans (roundSteps_le_two_pow hpow) (two_pow_log2_le_roundSteps hn)
  · have hlow : 2 ^ n.log2 ≤ m := Nat.not_lt.1 hpow
    have hm : m ≠ 0 := Nat.ne_of_gt (Nat.lt_of_lt_of_le (Nat.two_pow_pos _) hlow)
    have hlog : m.log2 = n.log2 :=
      (Nat.log2_eq_iff hm).2 ⟨hlow, Nat.lt_of_le_of_lt h ((Nat.log2_lt hn).1 (Nat.lt_succ_self _))⟩
    simp only [roundSteps, Nat.div_one, Nat.one_mul, spacing, hlog]
    exact Nat.mul_le_mul_right _ (roundQuotient_mono _ h)

end RecordQuery.Binary64
