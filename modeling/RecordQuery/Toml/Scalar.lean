import RecordQuery.Binary64.Decimal
import RecordQuery.Json.Basic

/-!
The numbers, dates and times of TOML documents.

Each reader takes a value from the start of a text and gives what follows it. Numbers may have
underscores between digits. Numbers that are not finite have no place in a JSON tree and become
null; dates and times become an object with one reserved name.
-/

namespace RecordQuery.Toml

/-! ### Digits -/

/-- The digits at the start of a text, with single underscores between them left out. -/
def digits (isDigit : Char → Bool) : List Char → List Char × List Char
  | '_' :: c :: rest =>
    if isDigit c then
      let (more, rest) := digits isDigit rest
      (c :: more, rest)
    else ([], '_' :: c :: rest)
  | c :: rest =>
    if isDigit c then
      let (more, rest) := digits isDigit rest
      (c :: more, rest)
    else ([], c :: rest)
  | [] => ([], [])

/-- One digit or more, not starting with an underscore. -/
def digits? (isDigit : Char → Bool) (cs : List Char) : Option (List Char × List Char) :=
  if cs.head?.any isDigit then some (digits isDigit cs) else none

def digitValue (c : Char) : Nat :=
  if c.isDigit then c.toNat - 48 else if c ≤ 'F' then c.toNat - 55 else c.toNat - 87

def natural (base : Nat) (ds : List Char) : Nat := ds.foldl (fun n c => base * n + digitValue c) 0

def sign : List Char → Bool × List Char
  | '-' :: rest => (true, rest)
  | '+' :: rest => (false, rest)
  | rest => (false, rest)

/-- The digits of a decimal integer: a leading zero stands alone. -/
def decimal? (cs : List Char) : Option (List Char × List Char) :=
  match cs with
  | '0' :: rest => some (['0'], rest)
  | cs => digits? Char.isDigit cs

/-! ### Integers -/

def isHexDigit (c : Char) : Bool :=
  c.isDigit || ('a' ≤ c && c ≤ 'f') || ('A' ≤ c && c ≤ 'F')

def integerTree? (n : Int) : Option Json :=
  if n < 2 ^ 63 then (Json.Number.ofInt? n).map .number else none

def based? (base : Nat) (isDigit : Char → Bool) (cs : List Char) : Option (Json × List Char) := do
  let (ds, rest) ← digits? isDigit cs
  some (← integerTree? (natural base ds), rest)

def integer? : List Char → Option (Json × List Char)
  | '0' :: 'x' :: rest => based? 16 isHexDigit rest
  | '0' :: 'o' :: rest => based? 8 (fun c => '0' ≤ c && c ≤ '7') rest
  | '0' :: 'b' :: rest => based? 2 (fun c => c == '0' || c == '1') rest
  | cs => do
    let (negative, unsigned) := sign cs
    let (ds, rest) ← decimal? unsigned
    let n : Int := natural 10 ds
    some (← integerTree? (if negative then -n else n), rest)

/-! ### Floats -/

/-- A number as a tree, null if it is not finite. -/
def realTree (x : Binary64) : Json := ((Json.Number.ofReal? x).map .number).getD .null

def fraction? : List Char → Option (List Char × List Char)
  | '.' :: rest => digits? Char.isDigit rest
  | _ => none

def exponent? : List Char → Option (Int × List Char)
  | c :: rest =>
    if c == 'e' || c == 'E' then do
      let (negative, unsigned) := sign rest
      let (ds, rest) ← digits? Char.isDigit unsigned
      let n := natural 10 ds
      some (if negative then -n else n, rest)
    else none
  | [] => none

/-- A decimal number with a fraction or an exponent or both. Too large a positive number is
refused. -/
def decimalFloat? (cs : List Char) : Option (Json × List Char) := do
  let (negative, unsigned) := sign cs
  let (whole, rest) ← decimal? unsigned
  let (fraction, rest, exponent) ←
    match fraction? rest with
    | some (fraction, rest) =>
      match exponent? rest with
      | some (exponent, rest) => some (fraction, rest, exponent)
      | none => some (fraction, rest, 0)
    | none =>
      match exponent? rest with
      | some (exponent, rest) => some ([], rest, exponent)
      | none => none
  let x := Binary64.ofDecimal negative (natural 10 (whole ++ fraction))
    (exponent - fraction.length)
  if x.isInfinite && !negative then none else some (realTree x, rest)

def specialFloat? (cs : List Char) : Option (Json × List Char) :=
  match sign cs with
  | (_, 'i' :: 'n' :: 'f' :: rest) | (_, 'n' :: 'a' :: 'n' :: rest) => some (.null, rest)
  | _ => none

/-! ### Dates and times -/

def twoDigits? (least most : Nat) : List Char → Option (Nat × List Char)
  | a :: b :: rest =>
    if a.isDigit && b.isDigit then
      let n := natural 10 [a, b]
      if least ≤ n ∧ n ≤ most then some (n, rest) else none
    else none
  | _ => none

def takeChar? (c : Char) : List Char → Option (List Char)
  | d :: rest => if d = c then some rest else none
  | [] => none

def daysInMonth (year month : Nat) : Nat :=
  if month = 2 then
    if year % 4 = 0 ∧ (year % 100 ≠ 0 ∨ year % 400 = 0) then 29 else 28
  else if month = 4 ∨ month = 6 ∨ month = 9 ∨ month = 11 then 30
  else 31

def padded (width n : Nat) : String :=
  let ds := Nat.toDigits 10 n
  String.ofList (List.replicate (width - ds.length) '0' ++ ds)

def date? (cs : List Char) : Option (String × List Char) := do
  let year := cs.take 4
  if year.length ≠ 4 || !year.all Char.isDigit then none
  let rest ← takeChar? '-' (cs.drop 4)
  let (month, rest) ← twoDigits? 1 12 rest
  let rest ← takeChar? '-' rest
  let (day, rest) ← twoDigits? 1 (daysInMonth (natural 10 year) month) rest
  some (String.ofList year ++ "-" ++ padded 2 month ++ "-" ++ padded 2 day, rest)

/-- The fraction of a second, to nine digits and without the zeros at its end. -/
def secondFraction : List Char → Option (String × List Char)
  | '.' :: rest => do
    let ds := rest.takeWhile Char.isDigit
    if ds.isEmpty then none
    let kept := ((ds.take 9).reverse.dropWhile (· == '0')).reverse
    some (if kept.isEmpty then "" else "." ++ String.ofList kept, rest.dropWhile Char.isDigit)
  | _ => none

/-- A time of day, in its normal form. A minute may have a leap second. -/
def time? (cs : List Char) : Option (String × List Char) := do
  let (hour, rest) ← twoDigits? 0 23 cs
  let rest ← takeChar? ':' rest
  let (minute, rest) ← twoDigits? 0 59 rest
  let rest ← takeChar? ':' rest
  let (second, rest) ← twoDigits? 0 60 rest
  let (fraction, rest) := (secondFraction rest).getD ("", rest)
  some (padded 2 hour ++ ":" ++ padded 2 minute ++ ":" ++ padded 2 second ++ fraction, rest)

def offset? : List Char → Option (String × List Char)
  | c :: rest =>
    if c == 'Z' || c == 'z' then some ("Z", rest)
    else if c == '+' || c == '-' then do
      let (hour, rest) ← twoDigits? 0 23 rest
      let rest ← takeChar? ':' rest
      let (minute, rest) ← twoDigits? 0 59 rest
      let mark := if c == '-' && 0 < hour + minute then "-" else "+"
      some (mark ++ padded 2 hour ++ ":" ++ padded 2 minute, rest)
    else none
  | [] => none

def timeAfterDate? : List Char → Option (String × List Char)
  | c :: rest =>
    if c == 'T' || c == 't' || c == ' ' then do
      let (time, rest) ← time? rest
      match offset? rest with
      | some (offset, rest) => some ("T" ++ time ++ offset, rest)
      | none => some ("T" ++ time, rest)
    else none
  | [] => none

/-- The name under which dates and times stand. -/
def dateTimeName : String := "$__toml_private_datetime"

def dateTime? (cs : List Char) : Option (Json × List Char) := do
  let (text, rest) ←
    match date? cs with
    | some (date, rest) =>
      match timeAfterDate? rest with
      | some (time, rest) => some (date ++ time, rest)
      | none => some (date, rest)
    | none => time? cs
  some (.object [(dateTimeName, .string text)], rest)

def scalar? (cs : List Char) : Option (Json × List Char) :=
  (dateTime? cs).orElse fun _ =>
    (decimalFloat? cs).orElse fun _ =>
      (specialFloat? cs).orElse fun _ => integer? cs

end RecordQuery.Toml
