import RecordQuery.Unicode.CharSet

/-!
Sets of characters as sequences of ranges of bytes.

A sequence stands for all texts of bytes that have one byte from each of its ranges. Code points
whose encodings have one length and differ from some byte on in all possible ways make up one
sequence, and each set is cut into such parts, in rising order. Surrogates have no encoding.
-/

namespace RecordQuery.Pattern

open Unicode (CharSet)

abbrev ByteRange := Nat × Nat

def lengthClasses : List (Nat × Nat × Nat) :=
  [(0, 0x7F, 1), (0x80, 0x7FF, 2), (0x800, 0xD7FF, 3), (0xE000, 0xFFFF, 3),
    (0x10000, Unicode.lastCode, 4)]

/-- Cuts a range of code points into parts whose encodings run over whole ranges of bytes;
`level` is the number of bytes that may differ. -/
def cutRange : Nat → Nat → Nat → List (Nat × Nat)
  | 0, low, high => [(low, high)]
  | level + 1, low, high =>
    let block := 64 ^ (level + 1)
    if low / block = high / block then cutRange level low high
    else
      let firstWhole := (low + block - 1) / block
      let endWhole := (high + 1) / block
      (if low % block ≠ 0 then cutRange level low (firstWhole * block - 1) else [])
        ++ (if firstWhole < endWhole then [(firstWhole * block, endWhole * block - 1)] else [])
        ++ if (high + 1) % block ≠ 0 then cutRange level (endWhole * block) high else []

/-- The first byte of an encoding carries its length in its high bits, the others a mark. -/
def leadMark : Nat → Nat
  | 1 => 0
  | 2 => 0xC0
  | 3 => 0xE0
  | _ => 0xF0

def encodedByte (length code place : Nat) : Nat :=
  let digit := code / 64 ^ (length - 1 - place)
  if place = 0 then leadMark length + digit else 0x80 + digit % 64

def byteRanges (length : Nat) (part : Nat × Nat) : List ByteRange :=
  (List.range length).map fun place =>
    (encodedByte length part.1 place, encodedByte length part.2 place)

def byteSequences (s : CharSet) : List (List ByteRange) :=
  s.toList.flatMap fun (low, high) =>
    lengthClasses.flatMap fun (first, last, length) =>
      let low := max low first
      let high := min high last
      if low ≤ high then (cutRange (length - 1) low high).map (byteRanges length) else []

end RecordQuery.Pattern
