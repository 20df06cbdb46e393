import RecordQuery.Binary64.Basic

/-!
Rounding to the nearest number, a tie going to the even one.

Every operation here computes its exact result as a quotient of natural numbers, counted in
multiples of `2 ^ (-1074)`, and rounds it once. `Binary64.near` is the tolerance test of the
library: the rounded difference of two numbers is below one millionth.
-/

namespace RecordQuery.Binary64

/-- The whole number nearest to `n / d`, a tie going to the even one. -/
def roundQuotient (n d : Nat) : Nat :=
  let q := n / d
  let r := n % d
  if d < 2 * r ∨ (2 * r = d ∧ q % 2 = 1) then q + 1 else q

def spacing (steps : Nat) : Nat := 2 ^ (steps.log2 - 52)

/-- The multiple of the spacing that is nearest to `n / d` steps. It is the step count of a
number, or beyond the last finite one. -/
def roundSteps (n d : Nat) : Nat :=
  let unit := spacing (n / d)
  roundQuotient n (d * unit) * unit

/-- The magnitude that has a step count; the magnitude of the infinities if none has. -/
def magnitudeOfSteps (steps : Nat) : Nat :=
  if steps < 2 ^ 52 then steps
  else
    let exponent := steps.log2 - 52
    min infinityMagnitude ((exponent + 1) * 2 ^ 52 + (steps / 2 ^ exponent - 2 ^ 52))

def ofSteps (negative : Bool) (n d : Nat) : Binary64 :=
  ofMagnitude negative (magnitudeOfSteps (roundSteps n d))

def stepsPerOne : Nat := 2 ^ 1074

def ofQuotient (negative : Bool) (n d : Nat) : Binary64 := ofSteps negative (n * stepsPerOne) d

def ofInt (n : Int) : Binary64 := ofQuotient (decide (n < 0)) n.natAbs 1

def mulAbs (x y : Binary64) : Binary64 := ofSteps false (x.steps * y.steps) stepsPerOne

def divAbs (x y : Binary64) : Binary64 := ofSteps false (x.steps * stepsPerOne) y.steps

/-! ### Tolerance -/

/-- One millionth, as nearly as a number gives it. -/
def epsilon : Binary64 := ⟨0x3eb0c6f7a0b5ed8d⟩

def distance (x y : Binary64) : Nat := roundSteps (x.signedSteps - y.signedSteps).natAbs 1

/-- The rounded difference is smaller than one millionth. An infinity is near nothing, not even
itself, and neither is a NaN. -/
def near (x y : Binary64) : Bool :=
  x.isFinite && y.isFinite && decide (distance x y < epsilon.steps)

theorem distance_comm (x y : Binary64) : distance x y = distance y x := by
  unfold distance
  rw [← Int.natAbs_neg, Int.neg_sub]

theorem near_comm (x y : Binary64) : x.near y = y.near x := by
  unfold near
  rw [distance_comm, Bool.and_comm x.isFinite]

end RecordQuery.Binary64
