import RecordQuery.Binary64.Decimal
import RecordQuery.Json.Basic

/-!
Reading JSON documents.

The grammar is the strict one: no comments, no trailing commas, no leading zeros, and only the
escapes that the format has. Arrays and objects may lie in each other to a depth of 127. Every
round of the reader takes at least one character, so the length of the text bounds the rounds.
-/

namespace RecordQuery.Json

namespace Reader

def isBlank (c : Char) : Bool := c == ' ' || c == '\n' || c == '\t' || c == '\r'

def skipBlanks (cs : List Char) : List Char := cs.dropWhile isBlank

def depthLimit : Nat := 127

/-! ### Numbers -/

def digitValue (c : Char) : Nat := c.toNat - 48

/-- Adds digits to a significand as long as it stays below `2 ^ 64`; gives the digits left. -/
def accumulate (significand : Nat) : List Char → Nat × List Char
  | [] => (significand, [])
  | c :: rest =>
    let next := 10 * significand + digitValue c
    if next < 2 ^ 64 then accumulate next rest else (significand, c :: rest)

structure Numeral where
  negative : Bool
  whole : List Char
  fraction : List Char
  exponent : Option Int

/-- The number that a numeral with a fraction, an exponent or too many digits stands for, unless it
is too large. The digits that the significand has no room for count by their places alone. -/
def Numeral.real? (n : Numeral) : Option Number :=
  let (significand, wholeLeft) := accumulate 0 n.whole
  let (significand, fractionLeft) := accumulate significand n.fraction
  let taken := n.fraction.length - fractionLeft.length
  let exponent := (wholeLeft.length : Int) - taken + n.exponent.getD 0
  let x := Binary64.ofScaled significand exponent
  Number.ofReal? (if n.negative then x.neg else x)

/-- The number that a numeral stands for. Integers of 64 bits, with or without sign, stay
integers; but a negative zero is a real number. -/
def Numeral.number? (n : Numeral) : Option Number :=
  if n.fraction.isEmpty && n.exponent.isNone then
    let (significand, left) := accumulate 0 n.whole
    if !left.isEmpty then n.real?
    else if !n.negative then Number.ofInt? significand
    else if 0 < significand && significand ≤ 2 ^ 63 then Number.ofInt? (-significand)
    else Number.ofReal? (Binary64.ofQuotient true significand 1)
  else n.real?

def digits? (cs : List Char) : Option (List Char × List Char) :=
  let digits := cs.takeWhile Char.isDigit
  if digits.isEmpty then none else some (digits, cs.dropWhile Char.isDigit)

/-- The digits of the whole part: a zero stands alone. -/
def whole? (cs : List Char) : Option (List Char × List Char) := do
  let (digits, rest) ← digits? cs
  if digits.head? == some '0' && digits.length ≠ 1 then none else some (digits, rest)

def fraction? : List Char → Option (List Char × List Char)
  | '.' :: rest => digits? rest
  | rest => some ([], rest)

def natural (digits : List Char) : Nat := digits.foldl (fun n c => 10 * n + digitValue c) 0

def exponent? : List Char → Option (Option Int × List Char)
  | c :: rest =>
    if c == 'e' || c == 'E' then do
      let negative := rest.head? == some '-'
      let signed := negative || rest.head? == some '+'
      let (digits, rest) ← digits? (if signed then rest.drop 1 else rest)
      some (some (if negative then -(natural digits : Int) else natural digits), rest)
    else some (none, c :: rest)
  | [] => some (none, [])

def number? (cs : List Char) : Option (Json × List Char) := do
  let negative := cs.head? == some '-'
  let (whole, rest) ← whole? (if negative then cs.drop 1 else cs)
  let (fraction, rest) ← fraction? rest
  let (exponent, rest) ← exponent? rest
  let n ← Numeral.number? ⟨negative, whole, fraction, exponent⟩
  some (.number n, rest)

/-! ### Strings -/

def hexValue? (c : Char) : Option Nat :=
  if c.isDigit then some (c.toNat - 48)
  else if 'a' ≤ c ∧ c ≤ 'f' then some (c.toNat - 87)
  else if 'A' ≤ c ∧ c ≤ 'F' then some (c.toNat - 55)
  else none

def unit? : List Char → Option (Nat × List Char)
  | a :: b :: c :: d :: rest => do
    let a ← hexValue? a
    let b ← hexValue? b
    let c ← hexValue? c
    let d ← hexValue? d
    some (((a * 16 + b) * 16 + c) * 16 + d, rest)
  | _ => none

/-- The character of an escape with four digits, or with twice four digits where it takes a pair
of surrogates. A surrogate without its partner is no character. -/
def codeEscape? (cs : List Char) : Option (Char × List Char) := do
  let (high, rest) ← unit? cs
  if 0xD800 ≤ high ∧ high < 0xDC00 then
    match rest with
    | '\\' :: 'u' :: rest =>
      let (low, rest) ← unit? rest
      if 0xDC00 ≤ low ∧ low < 0xE000 then
        some (Char.ofNat (0x10000 + (high - 0xD800) * 0x400 + (low - 0xDC00)), rest)
      else none
    | _ => none
  else if 0xDC00 ≤ high ∧ high < 0xE000 then none
  else some (Char.ofNat high, rest)

def escape? : List Char → Option (Char × List Char)
  | '"' :: rest => some ('"', rest)
  | '\\' :: rest => some ('\\', rest)
  | '/' :: rest => some ('/', rest)
  | 'b' :: rest => some ('\x08', rest)
  | 'f' :: rest => some ('\x0c', rest)
  | 'n' :: rest => some ('\n', rest)
  | 'r' :: rest => some ('\r', rest)
  | 't' :: rest => some ('\t', rest)
  | 'u' :: rest => codeEscape? rest
  | _ => none

/-- The characters of a string up to its closing quote, added to those read so far, the last one
first. -/
def string? : Nat → List Char → List Char → Option (String × List Char)
  | 0, _, _ => none
  | fuel + 1, done, cs =>
    match cs with
    | [] => none
    | '"' :: rest => some (String.ofList done.reverse, rest)
    | '\\' :: rest =>
      match escape? rest with
      | none => none
      | some (c, rest) => string? fuel (c :: done) rest
    | c :: rest => if c.toNat < 32 then none else string? fuel (c :: done) rest

/-! ### Trees -/

def word? (word : String) (tree : Json) (cs : List Char) : Option (Json × List Char) :=
  if word.toList.isPrefixOf cs then some (tree, cs.drop word.length) else none

mutual

/-- A tree of at most the given depth, and what follows it. -/
def tree? : Nat → Nat → List Char → Option (Json × List Char)
  | 0, _, _ => none
  | fuel + 1, depth, cs =>
    match skipBlanks cs with
    | 'n' :: rest => word? "ull" .null rest
    | 't' :: rest => word? "rue" (.bool true) rest
    | 'f' :: rest => word? "alse" (.bool false) rest
    | '"' :: rest => (string? (rest.length + 1) [] rest).map fun (text, rest) => (.string text, rest)
    | '[' :: rest =>
      match depth with
      | 0 => none
      | depth + 1 =>
        match skipBlanks rest with
        | ']' :: rest => some (.array [], rest)
        | rest => items? fuel depth [] rest
    | '\x7b' :: rest =>
      match depth with
      | 0 => none
      | depth + 1 =>
        match skipBlanks rest with
        | '\x7d' :: rest => some (.object [], rest)
        | rest => fields? fuel depth [] rest
    | rest => number? rest

def items? : Nat → Nat → List Json → List Char → Option (Json × List Char)
  | 0, _, _, _ => none
  | fuel + 1, depth, done, cs =>
    match tree? fuel depth cs with
    | none => none
    | some (item, rest) =>
      match skipBlanks rest with
      | ',' :: rest => items? fuel depth (item :: done) rest
      | ']' :: rest => some (.array (item :: done).reverse, rest)
      | _ => none

def fields? : Nat → Nat → List (String × Json) → List Char → Option (Json × List Char)
  | 0, _, _, _ => none
  | fuel + 1, depth, done, cs =>
    match skipBlanks cs with
    | '"' :: rest =>
      match string? (rest.length + 1) [] rest with
      | none => none
      | some (name, rest) =>
        match skipBlanks rest with
        | ':' :: rest =>
          match tree? fuel depth rest with
          | none => none
          | some (value, rest) =>
            match skipBlanks rest with
            | ',' :: rest => fields? fuel depth ((name, value) :: done) rest
            | '\x7d' :: rest => some (.object ((name, value) :: done).reverse, rest)
            | _ => none
        | _ => none
    | _ => none

end

end Reader

def parse? (text : String) : Option Json :=
  match Reader.tree? (2 * text.length + 2) Reader.depthLimit text.toList with
  | some (tree, rest) => if (Reader.skipBlanks rest).isEmpty then some tree else none
  | none => none

end RecordQuery.Json
