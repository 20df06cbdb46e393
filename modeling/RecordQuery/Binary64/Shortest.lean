import RecordQuery.Binary64.Rounding

/-!
The shortest decimal text of a number that reads back as the number.

A finite number owns the interval of the reals that round to it. `Binary64.shortest` looks for
the coarsest decimal grid with a point in that interval; only the two neighbours of the number on
a grid have to be tried. `Binary64.text` then places the point or the exponent.
-/

namespace RecordQuery.Binary64

structure Decimal where
  digits : Nat
  exponent : Int
deriving DecidableEq

/-- The middle, the lower end and the upper end of the reals that round to a positive magnitude,
in quarters of a step, and whether the ends belong to them. -/
structure RoundingInterval where
  middle : Nat
  lower : Nat
  upper : Nat
  closed : Bool

/-- The interval of a finite, positive magnitude. Below a power of two the numbers are twice as
dense, so the lower half of its interval is half as wide. -/
def roundingInterval (magnitude : Nat) : RoundingInterval :=
  let here := 4 * stepsOf magnitude
  let above := 4 * stepsOf (magnitude + 1)
  let below := 4 * stepsOf (magnitude - 1)
  ⟨here, (here + below) / 2, (here + above) / 2, magnitude % 2 = 0⟩

def RoundingInterval.contains (i : RoundingInterval) (n d : Nat) : Bool :=
  if i.closed then decide (i.lower * d ≤ n ∧ n ≤ i.upper * d)
  else decide (i.lower * d < n ∧ n < i.upper * d)

def quartersPerUnit (exponent : Int) : Nat × Nat :=
  if 0 ≤ exponent then (4 * stepsPerOne * 10 ^ exponent.toNat, 1)
  else (4 * stepsPerOne, 10 ^ (-exponent).toNat)

/-- The point of the grid `10 ^ exponent` that lies in the interval and is nearest to its middle,
if there is one; of two equally near the even one. -/
def RoundingInterval.gridPoint? (i : RoundingInterval) (exponent : Int) : Option Nat :=
  let (n, d) := quartersPerUnit exponent
  let low := i.middle * d / n
  let lowIn := 0 < low && i.contains (low * n) d
  let highIn := i.contains ((low + 1) * n) d
  let fromLow := i.middle * d - low * n
  let toHigh := (low + 1) * n - i.middle * d
  if lowIn && highIn then
    if fromLow < toHigh || (fromLow == toHigh && low % 2 == 0) then some low else some (low + 1)
  else if lowIn then some low
  else if highIn then some (low + 1)
  else none

def RoundingInterval.coarsest (i : RoundingInterval) : Nat → Int → Decimal
  | 0, exponent => ⟨0, exponent⟩
  | grids + 1, exponent =>
    match i.gridPoint? exponent with
    | some digits => ⟨digits, exponent⟩
    | none => i.coarsest grids (exponent - 1)

/-- An exponent of ten with `10 ^ exponent` above `steps` steps, by at most a factor of twenty:
a bit is worth three tenths of a decimal digit, and a little less than 1233 / 4096 of one. -/
def leadingBound (steps : Nat) : Int := ((steps.log2 : Int) - 1073) * 1233 / 4096 + 1

/-- The shortest decimal that reads back as a finite, positive magnitude. Seventeen digits always
read back, and the bound above the number may spend two more grids. -/
def shortest (magnitude : Nat) : Decimal :=
  (roundingInterval magnitude).coarsest 20 (leadingBound (stepsOf magnitude))

def Decimal.trimmed (fuel : Nat) (x : Decimal) : Decimal :=
  match fuel with
  | 0 => x
  | fuel + 1 =>
    if x.digits % 10 = 0 ∧ x.digits ≠ 0 then Decimal.trimmed fuel ⟨x.digits / 10, x.exponent + 1⟩
    else x

/-- How the text of a number is laid out: the least and the greatest exponent of the leading
digit that are written with a point and no exponent, and the sign of a positive exponent. -/
structure Layout where
  leastPlain : Int
  greatestPlain : Int
  positiveSign : String

def textLayout : Layout := ⟨-5, 15, "+"⟩

def zeros (n : Nat) : String := String.ofList (List.replicate n '0')

def Decimal.plain (digits : List Char) (leading : Int) : String :=
  if leading < 0 then
    "0." ++ zeros (-leading - 1).toNat ++ String.ofList digits
  else
    let whole := leading.toNat + 1
    if digits.length ≤ whole then
      String.ofList digits ++ zeros (whole - digits.length) ++ ".0"
    else String.ofList (digits.take whole) ++ "." ++ String.ofList (digits.drop whole)

def Decimal.scientific (layout : Layout) (digits : List Char) (leading : Int) : String :=
  let fraction := digits.drop 1
  String.ofList (digits.take 1)
    ++ (if fraction.isEmpty then "" else "." ++ String.ofList fraction)
    ++ "e" ++ (if leading < 0 then "-" else layout.positiveSign) ++ toString leading.natAbs

def Decimal.text (layout : Layout) (x : Decimal) : String :=
  let digits := Nat.toDigits 10 x.digits
  let leading := x.exponent + digits.length - 1
  if layout.leastPlain ≤ leading ∧ leading ≤ layout.greatestPlain then
    Decimal.plain digits leading
  else Decimal.scientific layout digits leading

def text (x : Binary64) : String :=
  let sign := if x.isNegative then "-" else ""
  if x.isZero then sign ++ "0.0"
  else sign ++ ((shortest x.magnitude).trimmed 20).text textLayout

end RecordQuery.Binary64
