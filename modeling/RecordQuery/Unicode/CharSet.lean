/-!
Sets of characters, as ranges of code points.

The ranges of a set rise and never touch, so that membership is a binary search. No range begins
or ends at a surrogate, which is no character; a range may run over all of them, and two ranges
that they alone part stay two. `CharSet.ofRanges` brings any list of ranges into this form.
-/

namespace RecordQuery.Unicode

def lastCode : Nat := 0x10FFFF

/-- A set of code points, as closed ranges in rising order. -/
structure CharSet where
  ranges : Array (Nat × Nat)
deriving DecidableEq

/-- Adds a range to ranges in falling order; it starts no lower than any of them. -/
def pushRange (done : List (Nat × Nat)) (next : Nat × Nat) : List (Nat × Nat) :=
  match done with
  | [] => [next]
  | (low, high) :: rest =>
    if next.1 ≤ high + 1 then (low, max high next.2) :: rest else next :: (low, high) :: rest

namespace CharSet

def empty : CharSet := ⟨#[]⟩

/-- The set of all code points in some of the ranges; a range whose ends are in the wrong order
holds none. -/
def ofRanges (ranges : List (Nat × Nat)) : CharSet :=
  let sorted := (ranges.filter fun r => r.1 ≤ r.2).mergeSort fun a b => a.1 ≤ b.1
  ⟨(sorted.foldl pushRange []).reverse.toArray⟩

def singleton (code : Nat) : CharSet := ⟨#[(code, code)]⟩

def all : CharSet := ⟨#[(0, lastCode)]⟩

def toList (s : CharSet) : List (Nat × Nat) := s.ranges.toList

def union (a b : CharSet) : CharSet := ofRanges (a.toList ++ b.toList)

def gaps (start : Nat) : List (Nat × Nat) → List (Nat × Nat)
  | [] => if start ≤ lastCode then [(start, lastCode)] else []
  | (low, high) :: rest =>
    if start < low then (start, low - 1) :: gaps (high + 1) rest else gaps (high + 1) rest

/-- A range without the surrogates at its ends. -/
def trim (range : Nat × Nat) : Nat × Nat :=
  (if isSurrogate range.1 then 0xE000 else range.1, if isSurrogate range.2 then 0xD7FF else range.2)
where
  isSurrogate (code : Nat) : Bool := 0xD800 ≤ code && code ≤ 0xDFFF

def complement (s : CharSet) : CharSet :=
  ⟨(((gaps 0 s.toList).map trim).filter fun r => r.1 ≤ r.2).toArray⟩

def interRanges : List (Nat × Nat) → List (Nat × Nat) → List (Nat × Nat)
  | [], _ => []
  | _, [] => []
  | (low, high) :: rest, (low', high') :: rest' =>
    let others :=
      if high < high' then interRanges rest ((low', high') :: rest')
      else interRanges ((low, high) :: rest) rest'
    if max low low' ≤ min high high' then (max low low', min high high') :: others else others
termination_by a b => a.length + b.length

def inter (a b : CharSet) : CharSet := ⟨(interRanges a.toList b.toList).toArray⟩

def diff (a b : CharSet) : CharSet := a.inter b.complement

def symmDiff (a b : CharSet) : CharSet := (a.union b).diff (a.inter b)

/-- What a set stands for when it is negated. Where the surrogates alone part two ranges there is
no gap between them, and the ends of the two stand in for it. -/
def negation (s : CharSet) : CharSet :=
  if s.toList.any (·.2 == 0xD7FF) && s.toList.any (·.1 == 0xE000) then
    s.complement.union (.ofRanges [(0xD7FF, 0xD7FF), (0xE000, 0xE000)])
  else s.complement

def search (ranges : Array (Nat × Nat)) (code low high : Nat) : Bool :=
  if _h : low < high then
    let middle := (low + high) / 2
    match ranges[middle]? with
    | none => false
    | some (first, last) =>
      if code < first then search ranges code low middle
      else if last < code then search ranges code (middle + 1) high
      else true
  else false
termination_by high - low
decreasing_by all_goals omega

def containsCode (s : CharSet) (code : Nat) : Bool := search s.ranges code 0 s.ranges.size

def contains (s : CharSet) (c : Char) : Bool := s.containsCode c.toNat

def isEmpty (s : CharSet) : Bool := s.ranges.isEmpty

def isAscii (s : CharSet) : Bool := s.toList.all fun r => decide (r.2 < 128)

/-! ### Ranges in text -/

/-- The range that a word such as `41-5A` or `AA` stands for. -/
def ofWord (word : List Char) : Nat × Nat :=
  let number (digits : List Char) : Nat := digits.foldl (fun n c => 16 * n + hexDigit c) 0
  let low := word.takeWhile (· != '-')
  let high := (word.dropWhile (· != '-')).drop 1
  (number low, number (if high.isEmpty then low else high))
where
  hexDigit (c : Char) : Nat := if c ≤ '9' then c.toNat - 48 else c.toNat - 55

def splitWords (text : List Char) : List (List Char) :=
  let step (c : Char) (words : List (List Char)) : List (List Char) :=
    if c == ' ' then [] :: words
    else
      match words with
      | [] => [[c]]
      | word :: rest => (c :: word) :: rest
  text.foldr step []

/-- The set that is written as lines of hexadecimal ranges with blanks between them. -/
def ofText (lines : List String) : CharSet :=
  ofRanges (lines.flatMap fun line =>
    ((splitWords line.toList).filter fun w => !w.isEmpty).map ofWord)

end CharSet

end RecordQuery.Unicode
