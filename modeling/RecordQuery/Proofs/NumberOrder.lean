import RecordQuery.Ordering
import RecordQuery.Proofs.EqualValues
import RecordQuery.Proofs.Rounding

/-!
Matching and ordering tell numbers apart alike, the infinities aside.

Both test floats with the same tolerance, but ordering asks for the tolerance first and falls back
on the order by value, while matching tries a strict relation first and falls back on the
tolerance. The two can differ only where numbers of one value are not within the tolerance of each
other. A finite number is at distance zero from itself, so that leaves an infinity beside itself.
-/

namespace RecordQuery

namespace Binary64

variable {x y : Binary64}

lemma lt_iff (hx : x.isNaN = false) (hy : y.isNaN = false) : x.lt y = true ↔ x.key < y.key := by
  simp [lt, hx, hy]

lemma isFinite_of_near (h : x.near y = true) : x.isFinite = true := by
  simp only [near, Bool.and_eq_true] at h
  exact h.1.1

lemma isInfinite_of_not_isFinite (hx : x.isNaN = false) (h : x.isFinite = false) :
    x.isInfinite = true := by
  simp only [isNaN, isFinite, isInfinite, decide_eq_false_iff_not, decide_eq_true_eq] at *
  omega

lemma isFinite_eq_false_of_isInfinite (h : x.isInfinite = true) : x.isFinite = false := by
  simp only [isFinite, isInfinite, decide_eq_false_iff_not, decide_eq_true_eq] at *
  omega

lemma magnitude_ne_zero_of_isInfinite (h : x.isInfinite = true) : x.magnitude ≠ 0 := by
  rw [of_decide_eq_true h]
  decide

lemma roundSteps_zero (d : Nat) : roundSteps 0 d = 0 := by
  simp [roundSteps, roundQuotient]

lemma stepsOf_pos {magnitude : Nat} (h : magnitude ≠ 0) : 0 < stepsOf magnitude := by
  simp only [stepsOf]
  split
  · omega
  · exact Nat.mul_pos (by omega) (Nat.two_pow_pos _)

/-- A finite number is near every number of the same value. -/
lemma near_of_key_eq (hx : x.isFinite = true) (h : x.key = y.key) : x.near y = true := by
  have hy : y.isFinite = true := by rwa [isFinite, ← magnitude_eq_of_key_eq h]
  have heqv : x.eqv y = true :=
    eqv_iff.2 ⟨isNaN_eq_false_of_isFinite hx, isNaN_eq_false_of_isFinite hy, h⟩
  have hdistance : distance x y = 0 := by
    rw [distance, signedSteps_eq_of_eqv heqv, Int.sub_self, Int.natAbs_zero, roundSteps_zero]
  have hepsilon : 0 < epsilon.steps := stepsOf_pos (by decide)
  rw [near, hx, hy, hdistance, decide_eq_true hepsilon]
  rfl

/-- Less by value or near: what the modes mean by less or equal. -/
def LtOrNear (x y : Binary64) : Prop := x.lt y = true ∨ x.near y = true

/-- The numbers are one and the same infinity. -/
def SameInfinity (x y : Binary64) : Prop := x = y ∧ x.isInfinite = true

/-- Only an infinity is not near the numbers of its value. -/
lemma sameInfinity_iff (hx : x.isNaN = false) :
    SameInfinity x y ↔ x.key = y.key ∧ x.near y = false := by
  constructor
  · rintro ⟨rfl, hinf⟩
    refine ⟨rfl, Bool.eq_false_iff.2 fun hnear => ?_⟩
    exact Bool.false_ne_true ((isFinite_eq_false_of_isInfinite hinf).symm.trans
      (isFinite_of_near hnear))
  · rintro ⟨hkey, hnear⟩
    have hfin : x.isFinite = false := Bool.eq_false_iff.2 fun hfin =>
      Bool.false_ne_true (hnear.symm.trans (near_of_key_eq hfin hkey))
    have hinf := isInfinite_of_not_isFinite hx hfin
    have hsign := isNegative_eq_of_key_eq hkey (magnitude_ne_zero_of_isInfinite hinf)
    exact ⟨ext_magnitude hsign (magnitude_eq_of_key_eq hkey), hinf⟩

end Binary64

open Binary64

variable {x y : Binary64}

lemma compareFloats_eq_ok (hx : x.isNaN = false) (hy : y.isNaN = false) :
    compareFloats x y = .ok (if x.near y then .eq else compare x.key y.key) := by
  simp [compareFloats, compareValue?, hx, hy]

lemma compareFloats_eq_ok_iff {o : Ordering} :
    compareFloats x y = .ok o ↔ (x.isNaN = false ∧ y.isNaN = false) ∧
      (if x.near y then .eq else compare x.key y.key) = o := by
  by_cases h : x.isNaN = false ∧ y.isNaN = false
  · simp [compareFloats_eq_ok h.1 h.2, h]
  · have hnone : x.compareValue? y = none := by
      rw [not_and_or, Bool.not_eq_false, Bool.not_eq_false] at h
      rw [compareValue?, if_pos (Bool.or_eq_true_iff.2 h)]
    simp [compareFloats, hnone, h]

/-- A value matches another in a mode exactly if their order passes a test. -/
def ModeAgrees (s : Schema) (v w : Value) (mode : Mode) (passes : Ordering → Bool) : Prop :=
  matchValue s v (.literal w) mode = .ok true ↔
    ∃ o, compareValues s v w = .ok o ∧ passes o = true

section Integers

variable (m n : Int64)

lemma modeAgrees_int_iff {mode : Mode} {passes : Ordering → Bool} :
    ModeAgrees .int (.int m) (.int n) mode passes ↔
      (matchInt m n mode = true ↔ passes (compare m.toInt n.toInt) = true) := by
  simp [ModeAgrees, matchValue, compareValues]

lemma modeAgrees_int_equals : ModeAgrees .int (.int m) (.int n) .equals Ordering.isEq := by
  rw [modeAgrees_int_iff, Ordering.isEq_iff_eq_eq, Int.compare_eq_eq, Int64.toInt_inj]
  exact beq_iff_eq

lemma modeAgrees_int_lessThanOrEqual :
    ModeAgrees .int (.int m) (.int n) .lessThanOrEqual Ordering.isLE := by
  rw [modeAgrees_int_iff, Int.isLE_compare, ← Int64.le_iff_toInt_le]
  exact decide_eq_true_iff

lemma modeAgrees_int_greaterThanOrEqual :
    ModeAgrees .int (.int m) (.int n) .greaterThanOrEqual Ordering.isGE := by
  rw [modeAgrees_int_iff, Int.isGE_compare, ← Int64.le_iff_toInt_le]
  exact decide_eq_true_iff

end Integers

/-! ### Floats -/

lemma matchFloat_lessThan_iff :
    matchFloat x y .lessThan = true ↔ x.isZero = false ∧ x.lt y = true := by
  cases h : x.isZero <;> simp [matchFloat, Mode.isRelational, h]

lemma matchFloat_lessThanOrEqual_iff :
    matchFloat x y .lessThanOrEqual = true ↔ x.isZero = false ∧ x.LtOrNear y := by
  rw [LtOrNear, near_comm]
  cases h : x.isZero <;> simp [matchFloat, Mode.isRelational, h]

lemma matchFloat_greaterThan_iff :
    matchFloat x y .greaterThan = true ↔ x.isZero = false ∧ y.lt x = true := by
  cases h : x.isZero <;> simp [matchFloat, Mode.isRelational, h]

lemma matchFloat_greaterThanOrEqual_iff :
    matchFloat x y .greaterThanOrEqual = true ↔ x.isZero = false ∧ y.LtOrNear x := by
  rw [LtOrNear]
  cases h : x.isZero <;> simp [matchFloat, Mode.isRelational, h]

/-- The order of two numbers passes a test that equality passes if they are near each other or
their keys pass it. -/
lemma modeAgrees_float_iff {mode : Mode} {passes : Ordering → Bool} (hx : x.isNaN = false)
    (hy : y.isNaN = false) (heq : passes .eq = true) :
    ModeAgrees .float (.float x) (.float y) mode passes ↔
      (matchFloat x y mode = true ↔
        x.near y = true ∨ passes (compare x.key y.key) = true) := by
  have hpass : passes (if x.near y then .eq else compare x.key y.key) = true ↔
      x.near y = true ∨ passes (compare x.key y.key) = true := by
    cases x.near y <;> simp [heq]
  rw [← hpass]
  simp [ModeAgrees, matchValue, compareValues, compareFloats_eq_ok hx hy]

/-- Matching is a strict relation or nearness, and the order passes by the strict relation or by
equal keys: the two agree unless the keys are equal and the numbers are not near. -/
lemma modeAgrees_float_iff_not_sameInfinity {mode : Mode} {passes : Ordering → Bool}
    {strict : Prop} (hx : x.isNaN = false) (hy : y.isNaN = false) (heq : passes .eq = true)
    (hmatch : matchFloat x y mode = true ↔ strict ∨ x.near y = true)
    (hpasses : passes (compare x.key y.key) = true ↔ strict ∨ x.key = y.key)
    (hstrict : strict → x.key ≠ y.key) :
    ModeAgrees .float (.float x) (.float y) mode passes ↔ ¬SameInfinity x y := by
  rw [modeAgrees_float_iff hx hy heq, hmatch, hpasses, sameInfinity_iff hx]
  constructor
  · rintro hagrees ⟨hkey, hfar⟩
    rcases hagrees.2 (.inr (.inr hkey)) with hlt | hnear
    · exact hstrict hlt hkey
    · exact Bool.false_ne_true (hfar.symm.trans hnear)
  · intro hsame
    have hnear (hkey : x.key = y.key) : x.near y = true := by
      by_contra hfar
      exact hsame ⟨hkey, Bool.eq_false_iff.2 hfar⟩
    constructor
    · rintro (hlt | h)
      · exact .inr (.inl hlt)
      · exact .inl h
    · rintro (h | hlt | hkey)
      · exact .inr h
      · exact .inl hlt
      · exact .inr (hnear hkey)

lemma modeAgrees_float_equals (hx : x.isNaN = false) (hy : y.isNaN = false) :
    ModeAgrees .float (.float x) (.float y) .equals Ordering.isEq ↔ ¬SameInfinity x y := by
  have hmatch : matchFloat x y .equals = x.near y := near_comm y x
  refine modeAgrees_float_iff_not_sameInfinity hx hy rfl ?_ ?_ False.elim
  · rw [hmatch, false_or]
  · rw [Ordering.isEq_iff_eq_eq, Int.compare_eq_eq, false_or]

lemma modeAgrees_float_lessThanOrEqual (hx : x.isNaN = false) (hy : y.isNaN = false)
    (hzero : x.isZero = false) :
    ModeAgrees .float (.float x) (.float y) .lessThanOrEqual Ordering.isLE ↔
      ¬SameInfinity x y := by
  refine modeAgrees_float_iff_not_sameInfinity hx hy rfl ?_ ?_ Int.ne_of_lt
  · rw [matchFloat_lessThanOrEqual_iff, LtOrNear, lt_iff hx hy]
    exact and_iff_right hzero
  · rw [Int.isLE_compare, Int.le_iff_lt_or_eq]

lemma modeAgrees_float_greaterThanOrEqual (hx : x.isNaN = false) (hy : y.isNaN = false)
    (hzero : x.isZero = false) :
    ModeAgrees .float (.float x) (.float y) .greaterThanOrEqual Ordering.isGE ↔
      ¬SameInfinity x y := by
  refine modeAgrees_float_iff_not_sameInfinity hx hy rfl ?_ ?_ Int.ne_of_gt
  · rw [matchFloat_greaterThanOrEqual_iff, LtOrNear, lt_iff hy hx, near_comm]
    exact and_iff_right hzero
  · rw [Int.isGE_compare, Int.le_iff_lt_or_eq, eq_comm]

/-- **Matching and ordering tell numbers apart alike, but for an infinity beside itself.** On
integers the modes that include equality are tests of the order. On floats they are exactly if
the two are not one and the same infinity; with the relations, a zero on the left is left out. -/
theorem matchValue_agrees_compareValues (m n : Int64) (x y : Binary64) :
    ModeAgrees .int (.int m) (.int n) .equals Ordering.isEq ∧
    ModeAgrees .int (.int m) (.int n) .lessThanOrEqual Ordering.isLE ∧
    ModeAgrees .int (.int m) (.int n) .greaterThanOrEqual Ordering.isGE ∧
    (x.isNaN = false → y.isNaN = false →
      (ModeAgrees .float (.float x) (.float y) .equals Ordering.isEq ↔ ¬SameInfinity x y) ∧
      (x.isZero = false →
        (ModeAgrees .float (.float x) (.float y) .lessThanOrEqual Ordering.isLE ↔
          ¬SameInfinity x y) ∧
        (ModeAgrees .float (.float x) (.float y) .greaterThanOrEqual Ordering.isGE ↔
          ¬SameInfinity x y))) := by
  refine ⟨modeAgrees_int_equals m n, modeAgrees_int_lessThanOrEqual m n,
    modeAgrees_int_greaterThanOrEqual m n, fun hx hy => ⟨modeAgrees_float_equals hx hy, ?_⟩⟩
  exact fun hzero => ⟨modeAgrees_float_lessThanOrEqual hx hy hzero,
    modeAgrees_float_greaterThanOrEqual hx hy hzero⟩

/-- An infinity does not match itself in any of the three modes, though it is equal to itself in
the order. -/
theorem infinity_not_modeAgrees :
    (infinity false).isNaN = false ∧ (infinity false).isZero = false ∧
    compareValues .float (.float (infinity false)) (.float (infinity false)) = .ok .eq ∧
    ∀ test ∈ [(Mode.equals, Ordering.isEq), (Mode.lessThanOrEqual, Ordering.isLE),
        (Mode.greaterThanOrEqual, Ordering.isGE)],
      ¬ModeAgrees .float (.float (infinity false)) (.float (infinity false)) test.1 test.2 := by
  have hx : (infinity false).isNaN = false := by decide
  have hsame : SameInfinity (infinity false) (infinity false) := ⟨rfl, by decide⟩
  have hnear : (infinity false).near (infinity false) = false := ((sameInfinity_iff hx).1 hsame).2
  have hzero : (infinity false).isZero = false := by decide
  refine ⟨hx, hzero, ?_, ?_⟩
  · rw [compareValues, compareFloats_eq_ok hx hx, hnear]
    exact congrArg Except.ok Std.compare_self
  · simp only [List.forall_mem_cons, List.not_mem_nil, false_implies, implies_true, and_true]
    exact ⟨fun h => (modeAgrees_float_equals hx hx).1 h hsame,
      fun h => (modeAgrees_float_lessThanOrEqual hx hx hzero).1 h hsame,
      fun h => (modeAgrees_float_greaterThanOrEqual hx hx hzero).1 h hsame⟩

end RecordQuery
