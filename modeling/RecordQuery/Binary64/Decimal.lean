import RecordQuery.Binary64.Rounding

/-!
Numbers from decimal digits, in two ways.

`Binary64.ofDecimal` gives the number nearest to the decimal. `Binary64.ofScaled` takes a
significand of at most 64 bits and multiplies or divides it by powers of ten that are themselves
numbers, rounding at each operation; it is the reading that the JSON reader uses.
-/

namespace RecordQuery.Binary64

/-- The decimal `significand * 10 ^ exponent`, rounded once. Exponents so far out that the result
is zero or infinite whatever the significand are cut off before the power is taken. -/
def ofDecimal (negative : Bool) (significand : Nat) (exponent : Int) : Binary64 :=
  if significand = 0 then zero negative
  else
    let leading := exponent + (Nat.toDigits 10 significand).length
    if leading < -330 then zero negative
    else if 330 < leading then infinity negative
    else if 0 ≤ exponent then ofQuotient negative (significand * 10 ^ exponent.toNat) 1
    else ofQuotient negative significand (10 ^ (-exponent).toNat)

def powerOfTen (n : Nat) : Binary64 := ofQuotient false (10 ^ n) 1

def greatestPower : Nat := 308

def scaleDown : Nat → Binary64 → Nat → Binary64
  | 0, x, _ => x
  | rounds + 1, x, exponent =>
    if exponent ≤ greatestPower then divAbs x (powerOfTen exponent)
    else if x.isZero then x
    else scaleDown rounds (divAbs x (powerOfTen greatestPower)) (exponent - greatestPower)

/-- The significand, rounded to a number and then scaled by `10 ^ exponent`; an infinity when the
result is too large. Two divisions by the greatest power reach zero from any significand of 64
bits, so four rounds are enough for every exponent. -/
def ofScaled (significand : Nat) (exponent : Int) : Binary64 :=
  let x := ofQuotient false significand 1
  if exponent < 0 then scaleDown 4 x (-exponent).toNat
  else if exponent ≤ greatestPower then mulAbs x (powerOfTen exponent.toNat)
  else if x.isZero then x
  else infinity false

end RecordQuery.Binary64
