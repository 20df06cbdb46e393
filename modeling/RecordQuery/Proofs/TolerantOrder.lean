import RecordQuery.Proofs.OrderDomain

/-!
The order of floats within a tolerance.

Being near is no equivalence, but it is convex: the distance of two numbers is rounded, rounding
keeps order, and so what lies between two near numbers is near to both. Hence less by more than
the tolerance is a strict order, and in a sorted list the numbers equal to a given one stand side
by side.
-/

namespace RecordQuery

open StableSort

namespace Binary64

variable {x y z : Binary64}

/-- Less than or equal by value; false as soon as one side is not a number. -/
def le (x y : Binary64) : Bool := x.lt y || x.eqv y

lemma le_iff : x.le y = true ↔ x.isNaN = false ∧ y.isNaN = false ∧ x.key ≤ y.key := by
  simp only [le, lt, eqv, Bool.or_eq_true, Bool.and_eq_true, Bool.not_eq_true', decide_eq_true_eq,
    Int.le_iff_lt_or_eq, and_assoc]
  rw [← and_or_left, ← and_or_left]

/-! ### Values and exact distances -/

/-- A larger magnitude stands for more steps, within one exponent and from one to the next. -/
lemma stepsOf_mono {m n : Nat} (h : m ≤ n) : stepsOf m ≤ stepsOf n := by
  have hexp : m / 2 ^ 52 ≤ n / 2 ^ 52 := Nat.div_le_div_right h
  have hm := Nat.div_add_mod m (2 ^ 52)
  have hn := Nat.div_add_mod n (2 ^ 52)
  have hfrac : m % 2 ^ 52 < 2 ^ 52 := Nat.mod_lt _ (by decide)
  simp only [stepsOf]
  generalize m / 2 ^ 52 = e at *
  generalize n / 2 ^ 52 = e' at *
  generalize m % 2 ^ 52 = f at *
  generalize n % 2 ^ 52 = f' at *
  by_cases he : e = 0
  · have hpos : 1 ≤ 2 ^ (e' - 1) := Nat.two_pow_pos _
    have hstep : (2 ^ 52 + f') * 1 ≤ (2 ^ 52 + f') * 2 ^ (e' - 1) := Nat.mul_le_mul_left _ hpos
    split <;> split <;> omega
  · rw [if_neg he, if_neg (by omega)]
    rcases Nat.lt_or_eq_of_le hexp with hlt | rfl
    · -- the next exponent begins where the fractions of this one end
      have hdouble : 2 ^ (e - 1 + 1) = 2 * 2 ^ (e - 1) := Nat.pow_succ'
      have hpow : 2 ^ (e - 1 + 1) ≤ 2 ^ (e' - 1) := Nat.pow_le_pow_right (by decide) (by omega)
      calc (2 ^ 52 + f) * 2 ^ (e - 1)
          ≤ (2 ^ 52 * 2) * 2 ^ (e - 1) := Nat.mul_le_mul_right _ (by omega)
        _ = 2 ^ 52 * 2 ^ (e - 1 + 1) := by rw [hdouble, Nat.mul_assoc]
        _ ≤ 2 ^ 52 * 2 ^ (e' - 1) := Nat.mul_le_mul_left _ hpow
        _ ≤ (2 ^ 52 + f') * 2 ^ (e' - 1) := Nat.mul_le_mul_right _ (Nat.le_add_right _ _)
    · exact Nat.mul_le_mul_right _ (by omega)

/-- The order by value is the order of the exact values. -/
lemma signedSteps_mono (h : x.key ≤ y.key) : x.signedSteps ≤ y.signedSteps := by
  have hzero : stepsOf 0 = 0 := rfl
  unfold key at h
  unfold signedSteps steps
  cases hx : x.isNegative <;> cases hy : y.isNegative <;>
    simp only [hx, hy, if_true, Bool.false_eq_true, if_false] at h ⊢
  · have := stepsOf_mono (show x.magnitude ≤ y.magnitude by omega)
    omega
  · have hxm : x.magnitude = 0 := by omega
    have hym : y.magnitude = 0 := by omega
    rw [hxm, hym, hzero]
    decide
  · omega
  · have := stepsOf_mono (show y.magnitude ≤ x.magnitude by omega)
    omega

lemma distance_le_of_between (hxy : x.key ≤ y.key) (hyz : y.key ≤ z.key) :
    distance x y ≤ distance x z ∧ distance y z ≤ distance x z := by
  have hleft := signedSteps_mono hxy
  have hright := signedSteps_mono hyz
  exact ⟨roundSteps_mono (by omega), roundSteps_mono (by omega)⟩

lemma isFinite_of_between (hx : x.isFinite = true) (hz : z.isFinite = true)
    (hxy : x.key ≤ y.key) (hyz : y.key ≤ z.key) : y.isFinite = true := by
  simp only [isFinite, decide_eq_true_eq] at hx hz ⊢
  unfold key at hxy hyz
  split at hxy <;> split at hyz <;> split at hxy <;> split at hyz <;> omega

/-- **Nearness is convex.** What lies between two near numbers is near to both. -/
lemma near_of_between (h : x.near z = true) (hxy : x.key ≤ y.key) (hyz : y.key ≤ z.key) :
    x.near y = true ∧ y.near z = true := by
  simp only [near, Bool.and_eq_true, decide_eq_true_eq] at h ⊢
  obtain ⟨⟨hx, hz⟩, hdist⟩ := h
  have hy := isFinite_of_between hx hz hxy hyz
  obtain ⟨hleft, hright⟩ := distance_le_of_between hxy hyz
  exact ⟨⟨⟨hx, hy⟩, Nat.lt_of_le_of_lt hleft hdist⟩, ⟨hy, hz⟩, Nat.lt_of_le_of_lt hright hdist⟩

/-! ### Less by more than the tolerance -/

/-- Less by value and not near; an infinity is below or above every other number. -/
def Below (x y : Binary64) : Prop := x.lt y = true ∧ x.near y = false

lemma Below.le (h : x.Below y) : x.le y = true := by
  simp [Binary64.le, h.1]

lemma below_iff : x.Below y ↔
    (x.isNaN = false ∧ y.isNaN = false) ∧ x.key < y.key ∧ x.near y = false := by
  simp only [Below, lt, Bool.and_eq_true, Bool.not_eq_true', decide_eq_true_eq, and_assoc]

lemma Below.of_le_left (hxy : x.le y = true) (h : y.Below z) : x.Below z := by
  obtain ⟨hx, -, hle⟩ := le_iff.1 hxy
  obtain ⟨⟨-, hz⟩, hlt, hfar⟩ := below_iff.1 h
  refine below_iff.2 ⟨⟨hx, hz⟩, Int.lt_of_le_of_lt hle hlt, Bool.eq_false_iff.2 fun hnear => ?_⟩
  have hyz := (near_of_between hnear hle (Int.le_of_lt hlt)).2
  exact Bool.false_ne_true (hfar.symm.trans hyz)

lemma Below.of_le_right (h : x.Below y) (hyz : y.le z = true) : x.Below z := by
  obtain ⟨-, hz, hle⟩ := le_iff.1 hyz
  obtain ⟨⟨hx, -⟩, hlt, hfar⟩ := below_iff.1 h
  refine below_iff.2 ⟨⟨hx, hz⟩, Int.lt_of_lt_of_le hlt hle, Bool.eq_false_iff.2 fun hnear => ?_⟩
  have hxy := (near_of_between hnear (Int.le_of_lt hlt) hle).1
  exact Bool.false_ne_true (hfar.symm.trans hxy)

lemma Below.trans (h : x.Below y) (hyz : y.Below z) : x.Below z := h.of_le_right hyz.le

end Binary64

open Binary64

variable {x y z : Binary64} {v w : Value} {values after : List Value}

/-! ### The order in these terms -/

lemma compareFloats_eq_lt_iff : compareFloats x y = .ok .lt ↔ x.Below y := by
  rw [compareFloats_eq_ok_iff, below_iff]
  refine and_congr_right fun _ => ?_
  cases x.near y <;> simp [Int.compare_eq_lt]

lemma compareFloats_eq_gt_iff : compareFloats x y = .ok .gt ↔ y.Below x := by
  rw [← compareFloats_eq_lt_iff]
  exact ⟨compareValues_swap (s := .float) (v := .float x) (w := .float y),
    compareValues_swap (s := .float) (v := .float y) (w := .float x)⟩

lemma compareFloats_eq_eq_iff : compareFloats x y = .ok .eq ↔
    (x.isNaN = false ∧ y.isNaN = false) ∧ (x.near y = true ∨ x.key = y.key) := by
  rw [compareFloats_eq_ok_iff]
  refine and_congr_right fun _ => ?_
  cases x.near y <;> simp

lemma compareFloats_self (hx : x.isNaN = false) : compareFloats x x = .ok .eq :=
  compareFloats_eq_eq_iff.2 ⟨⟨hx, hx⟩, .inr rfl⟩

/-- What lies between two equal numbers is equal to both. -/
lemma compareFloats_eq_of_between (hxy : x.le y = true) (hyz : y.le z = true)
    (h : compareFloats x z = .ok .eq) :
    compareFloats x y = .ok .eq ∧ compareFloats y z = .ok .eq := by
  obtain ⟨hx, hy, hle⟩ := le_iff.1 hxy
  obtain ⟨-, hz, hle'⟩ := le_iff.1 hyz
  obtain ⟨-, hnear | hkey⟩ := compareFloats_eq_eq_iff.1 h
  · obtain ⟨hleft, hright⟩ := near_of_between hnear hle hle'
    exact ⟨compareFloats_eq_eq_iff.2 ⟨⟨hx, hy⟩, .inl hleft⟩,
      compareFloats_eq_eq_iff.2 ⟨⟨hy, hz⟩, .inl hright⟩⟩
  · -- the ends have one value, and so has what is between them
    exact ⟨compareFloats_eq_eq_iff.2 ⟨⟨hx, hy⟩, .inr (by omega)⟩,
      compareFloats_eq_eq_iff.2 ⟨⟨hy, hz⟩, .inr (by omega)⟩⟩

/-! ### Sorted floats -/

lemma Binary64.le_of_compareTotal (hx : x.isNaN = false) (hy : y.isNaN = false)
    (h : (x.compareTotal y).isLE = true) : x.le y = true := by
  refine le_iff.2 ⟨hx, hy, Int.not_lt.1 fun hlt => ?_⟩
  have hgt := totalKey_lt_of_key_lt hlt
  rw [compareTotal, Int.isLE_compare] at h
  omega

lemma Value.Orderable.exists_float (h : v.Orderable .float) :
    ∃ x, v = .float x ∧ x.isNaN = false := by
  cases Value.conforms_iff_shape.1 h.conforms with
  | float x => exact ⟨x, rfl, h.isNaN_eq_false⟩

/-- Along floats in rising order, being less than a given one ends somewhere and being greater
begins somewhere. -/
lemma pairwise_compareValues_float (hv : v.Orderable .float)
    (hall : ∀ w ∈ after, w.Orderable .float) (hrising : Rising sortOrder after) :
    after.Pairwise fun a b =>
      (compareValues .float v b = .ok .gt → compareValues .float v a = .ok .gt) ∧
      (compareValues .float v a = .ok .lt → compareValues .float v b = .ok .lt) := by
  refine hrising.imp_of_mem fun {a b} ha hb hab => ?_
  obtain ⟨x, rfl, -⟩ := hv.exists_float
  obtain ⟨y, rfl, hy⟩ := (hall a ha).exists_float
  obtain ⟨z, rfl, hz⟩ := (hall b hb).exists_float
  have hyz : y.le z = true := le_of_compareTotal hy hz hab
  constructor
  · intro h
    exact compareFloats_eq_gt_iff.2 (.of_le_left hyz (compareFloats_eq_gt_iff.1 h))
  · intro h
    exact compareFloats_eq_lt_iff.2 ((compareFloats_eq_lt_iff.1 h).of_le_right hyz)

/-- The list is cut in three by how the value compares to its members: first those that the value
is greater than, then those equal to it, then those it is less than. The value is one of the
middle part. -/
def StandsInBlock (v : Value) (after : List Value) : Prop :=
  ∃ before block behind, after = before ++ block ++ behind ∧ v ∈ block ∧
    (∀ w ∈ before, compareValues .float v w = .ok .gt) ∧
    (∀ w ∈ block, compareValues .float v w = .ok .eq) ∧
    ∀ w ∈ behind, compareValues .float v w = .ok .lt

lemma standsInBlock_of_rising (hall : ∀ w ∈ after, w.Orderable .float)
    (hrising : Rising sortOrder after) (hv : v ∈ after) : StandsInBlock v after := by
  have hself : compareValues .float v v = .ok .eq := by
    obtain ⟨x, rfl, hx⟩ := (hall v hv).exists_float
    exact compareFloats_self hx
  have hpairs := pairwise_compareValues_float (hall v hv) hall hrising
  obtain ⟨before, rest, rfl, hbefore, hrest⟩ := exists_cut (hpairs.imp And.left)
  have hpairs' := (List.pairwise_append.1 hpairs).2.1
  obtain ⟨block, behind, rfl, hblock, hbehind⟩ := exists_cut
    (P := fun w => ¬compareValues .float v w = .ok .lt) (hpairs'.imp fun h hb ha => hb (h.2 ha))
  refine ⟨before, block, behind, (List.append_assoc _ _ _).symm, ?_, hbefore, fun w hw => ?_,
    fun w hw => not_not.1 (hbehind w hw)⟩
  · -- the value is equal to itself, so it is in neither of the outer parts
    have hbefore' : v ∉ before := fun h => by
      cases hself.symm.trans (hbefore v h)
    have hbehind' : v ∉ behind := fun h => by
      cases hself.symm.trans (not_not.1 (hbehind v h))
    simpa [hbefore', hbehind'] using hv
  · have hmem : w ∈ before ++ (block ++ behind) := by simp [hw]
    obtain ⟨o, ho⟩ := exists_compareValues_eq_ok rfl (hall v hv) (hall w hmem)
    cases o with
    | lt => exact absurd ho (hblock w hw)
    | eq => exact ho
    | gt => exact absurd ho (hrest w (List.mem_append_left _ hw))

/-- **The tolerant order of floats is a strict order with convex ties.** A number is equal to
itself, and less carries over. What lies by value between two numbers that compare equal compares
equal to both. So in a list of floats that has been sorted, the values that compare equal to a
given one form a block around it, with those it is greater than before the block and those it is
less than behind it. -/
theorem tolerant_order_laws :
    (∀ x, x.isNaN = false → compareValues .float (.float x) (.float x) = .ok .eq) ∧
    (∀ x y z, compareValues .float (.float x) (.float y) = .ok .lt →
      compareValues .float (.float y) (.float z) = .ok .lt →
      compareValues .float (.float x) (.float z) = .ok .lt) ∧
    (∀ x y z, x.le y = true → y.le z = true →
      compareValues .float (.float x) (.float z) = .ok .eq →
      compareValues .float (.float x) (.float y) = .ok .eq ∧
        compareValues .float (.float y) (.float z) = .ok .eq) ∧
    ∀ values after, (sortInPlace .float).run values = .ok () after →
      ∀ v ∈ after, StandsInBlock v after := by
  refine ⟨fun x => compareFloats_self, fun x y z hxy hyz => ?_, fun x y z => compareFloats_eq_of_between,
    fun values after hsort v hv => ?_⟩
  · have hbelow := compareFloats_eq_lt_iff.1 hxy
    exact compareFloats_eq_lt_iff.2 (hbelow.trans (compareFloats_eq_lt_iff.1 hyz))
  · rw [sortInPlace_run] at hsort
    cases hrun : sortValues .float values with
    | error e =>
      rw [hrun] at hsort
      cases hsort
    | ok out =>
      rw [hrun] at hsort
      cases hsort
      obtain ⟨⟨-, hall⟩, rfl⟩ := sortValues_eq_ok_iff.1 hrun
      exact standsInBlock_of_rising (fun w hw => hall w ((mem_sorted _).1 hw))
        (rising_sorted _ _) hv

end RecordQuery
