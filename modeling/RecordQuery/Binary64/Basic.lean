/-!
Floating point numbers of 64 bits, held as their bit pattern.

A number is a sign and a magnitude, and the magnitudes of the finite numbers are the multiples
of `2 ^ (-1074)` that the format can hold. `Binary64.steps` counts those multiples, so that
exact arithmetic on the numbers is arithmetic on integers. The order of the numbers is the order
of their magnitudes read as integers; `Binary64.key` gives it with the two zeros together, and
`Binary64.totalKey` gives the order in which every bit pattern has a place of its own.
-/

namespace RecordQuery

-- a power is the one of the core library, whichever other notions of power are in sight
attribute [scoped instance (high), default_instance (high + 1)] instPowNat

/-- A binary floating point number of 64 bits. Two of them are the same when their bits are. -/
structure Binary64 where
  bits : UInt64
deriving DecidableEq

namespace Binary64

/-- The magnitude of the infinities, the first that is not a finite number. -/
def infinityMagnitude : Nat := 2047 * 2 ^ 52

def magnitude (x : Binary64) : Nat := x.bits.toNat % 2 ^ 63

def isNegative (x : Binary64) : Bool := decide (2 ^ 63 ≤ x.bits.toNat)

def ofMagnitude (negative : Bool) (magnitude : Nat) : Binary64 :=
  ⟨UInt64.ofNat (magnitude + if negative then 2 ^ 63 else 0)⟩

def isNaN (x : Binary64) : Bool := decide (infinityMagnitude < x.magnitude)

def isInfinite (x : Binary64) : Bool := decide (x.magnitude = infinityMagnitude)

def isFinite (x : Binary64) : Bool := decide (x.magnitude < infinityMagnitude)

def isZero (x : Binary64) : Bool := decide (x.magnitude = 0)

/-- The not-a-number whose payload is the quiet bit alone. -/
def nan : Binary64 := ofMagnitude false (infinityMagnitude + 2 ^ 51)

def infinity (negative : Bool) : Binary64 := ofMagnitude negative infinityMagnitude

def zero (negative : Bool) : Binary64 := ofMagnitude negative 0

/-- How many multiples of `2 ^ (-1074)` a magnitude stands for. The magnitude of the infinities
stands for `2 ^ 2098`, the power of two that follows the last finite number. -/
def stepsOf (magnitude : Nat) : Nat :=
  let exponent := magnitude / 2 ^ 52
  let fraction := magnitude % 2 ^ 52
  if exponent = 0 then fraction else (2 ^ 52 + fraction) * 2 ^ (exponent - 1)

def steps (x : Binary64) : Nat := stepsOf x.magnitude

/-- The exact value of a finite number, in multiples of `2 ^ (-1074)`. -/
def signedSteps (x : Binary64) : Int := if x.isNegative then -(x.steps : Int) else x.steps

/-! ### Order -/

/-- Orders the numbers by value; the two zeros share a key. -/
def key (x : Binary64) : Int := if x.isNegative then -(x.magnitude : Int) else x.magnitude

/-- Orders all bit patterns: negative ones by falling magnitude, then the others by rising
magnitude, so a negative zero comes before a positive one and a positive NaN comes last. -/
def totalKey (x : Binary64) : Int :=
  if x.isNegative then -(x.magnitude : Int) - 1 else x.magnitude

def lt (x y : Binary64) : Bool := !x.isNaN && !y.isNaN && decide (x.key < y.key)

/-- Equal by value: the zeros are equal, and a NaN equals nothing. -/
def eqv (x y : Binary64) : Bool := !x.isNaN && !y.isNaN && decide (x.key = y.key)

def compareValue? (x y : Binary64) : Option Ordering :=
  if x.isNaN || y.isNaN then none else some (compare x.key y.key)

def compareTotal (x y : Binary64) : Ordering := compare x.totalKey y.totalKey

def neg (x : Binary64) : Binary64 := ofMagnitude (!x.isNegative) x.magnitude

/-! ### First laws -/

theorem bits_eq (x : Binary64) :
    x.bits.toNat = x.magnitude + if x.isNegative then 2 ^ 63 else 0 := by
  have h := x.bits.toNat_lt
  unfold magnitude isNegative
  by_cases hs : 2 ^ 63 ≤ x.bits.toNat
  · rw [decide_eq_true hs, if_pos rfl]
    omega
  · rw [decide_eq_false hs, if_neg Bool.false_ne_true]
    omega

theorem ext_magnitude {x y : Binary64} (hs : x.isNegative = y.isNegative)
    (hm : x.magnitude = y.magnitude) : x = y := by
  have h : x.bits.toNat = y.bits.toNat := by rw [bits_eq x, bits_eq y, hs, hm]
  cases x; cases y
  exact congrArg mk (UInt64.toNat_inj.1 h)

theorem eqv_comm (x y : Binary64) : x.eqv y = y.eqv x := by
  simp only [eqv, Bool.and_assoc, Bool.and_left_comm, eq_comm]

theorem eqv_self_iff (x : Binary64) : x.eqv x = true ↔ x.isNaN = false := by
  simp [eqv]

end Binary64

end RecordQuery
