import RecordQuery.Pattern.Syntax
import RecordQuery.Unicode.CharSet

/-!
Regular expressions with their flags resolved.

What remains of a pattern is literal text, sets of characters, conditions on places, sequences,
choices and counted repetitions. Expressions are built by `ofSet`, `ofSequence`, `ofChoice` and
`repeated`, which keep them in a simple form: literals that touch are one, a set of one character
is a literal, no sequence lies in a sequence and no choice in a choice, a choice between characters
is a set, and branches that all start alike share their start.
-/

namespace RecordQuery.Pattern

open Unicode (CharSet)

inductive WordKind where
  | ascii
  | unicode
deriving DecidableEq

inductive Place where
  | textStart
  | textEnd
  | lineStart
  | lineEnd
  | lineStartPairs
  | lineEndPairs
  | wordBoundary (kind : WordKind)
  | notWordBoundary (kind : WordKind)
  | wordStart (kind : WordKind)
  | wordEnd (kind : WordKind)
  | wordStartHalf (kind : WordKind)
  | wordEndHalf (kind : WordKind)
deriving DecidableEq

/-- A regular expression over characters. A greedy repetition prefers to go on, a lazy one to
stop; both match alike, but they are different expressions. -/
inductive Regex where
  | empty
  | literal (text : List Char)
  | set (chars : CharSet)
  | place (condition : Place)
  | sequence (items : List Regex)
  | choice (branches : List Regex)
  | capture (body : Regex)
  | counted (least : Nat) (most : Option Nat) (greedy : Bool) (body : Regex)

namespace Regex

/-! ### Comparison and length -/

mutual

/-- Whether two parts of one pattern are the same expression. Two groups that capture are not,
for each has its own number. -/
def same : Regex → Regex → Bool
  | .empty, .empty => true
  | .literal a, .literal b => a == b
  | .set a, .set b => a == b
  | .place a, .place b => a == b
  | .sequence as, .sequence bs | .choice as, .choice bs => sameAll as bs
  | .counted least most greedy body, .counted least' most' greedy' body' =>
    least == least' && most == most' && greedy == greedy' && same body body'
  | _, _ => false

def sameAll : List Regex → List Regex → Bool
  | [], [] => true
  | a :: as, b :: bs => same a b && sameAll as bs
  | _, _ => false

end

mutual

def takesNothing : Regex → Bool
  | .empty | .place _ => true
  | .literal _ | .set _ => false
  | .sequence items | .choice items => allTakeNothing items
  | .capture body => body.takesNothing
  | .counted _ most _ body => most == some 0 || body.takesNothing

def allTakeNothing : List Regex → Bool
  | [] => true
  | item :: rest => item.takesNothing && allTakeNothing rest

end

mutual

def minLength : Regex → Option Nat
  | .empty | .place _ => some 0
  | .literal text => some text.length
  | .set chars => if chars.isEmpty then none else some 1
  | .sequence items => sumLengths items
  | .choice branches => leastLength branches
  | .capture body => body.minLength
  | .counted least _ _ body => body.minLength.map (least * ·)

def sumLengths : List Regex → Option Nat
  | [] => some 0
  | item :: rest => do return (← item.minLength) + (← sumLengths rest)

def leastLength : List Regex → Option Nat
  | [] => none
  | [branch] => branch.minLength
  | branch :: rest => do return min (← branch.minLength) (← leastLength rest)

end

mutual

/-- Whether a match can only begin at the start of the text, as the conditions in front tell. -/
def startsText : Regex → Bool
  | .place condition => condition == .textStart
  | .sequence items => someStartsText items
  | .choice branches => !branches.isEmpty && allStartText branches
  | .capture body => body.startsText
  | .counted least _ _ body => least != 0 && body.startsText
  | .empty | .literal _ | .set _ => false

/-- The items count up to the first that can take a character. -/
def someStartsText : List Regex → Bool
  | [] => false
  | item :: rest => item.startsText || item.takesNothing && someStartsText rest

def allStartText : List Regex → Bool
  | [] => true
  | branch :: rest => branch.startsText && allStartText rest

end

mutual

def endsText : Regex → Bool
  | .place condition => condition == .textEnd
  | .sequence items => (lastEndsText items).1
  | .choice branches => !branches.isEmpty && allEndText branches
  | .capture body => body.endsText
  | .counted least _ _ body => least != 0 && body.endsText
  | .empty | .literal _ | .set _ => false

/-- Whether one of the items behind the last that can take a character, or that item itself, ends
the text; and whether there is no such item. -/
def lastEndsText : List Regex → Bool × Bool
  | [] => (false, true)
  | item :: rest =>
    let (ends, nothing) := lastEndsText rest
    (ends || nothing && item.endsText, nothing && item.takesNothing)

def allEndText : List Regex → Bool
  | [] => true
  | branch :: rest => branch.endsText && allEndText rest

end

/-! ### Construction -/

/-- The expression for a set; one character is a literal. -/
def ofSet (chars : CharSet) : Regex :=
  match chars.toList with
  | [(low, high)] => if low = high then .literal [Char.ofNat low] else .set chars
  | _ => .set chars

/-- A repetition. To repeat a part that takes nothing more than once is to repeat it once. -/
def repeated (least : Nat) (most : Option Nat) (greedy : Bool) (body : Regex) : Regex :=
  let counts : Nat × Option Nat :=
    if body.takesNothing then (min least 1, some (min (most.getD 1) 1)) else (least, most)
  if counts = (0, some 0) then .empty
  else if counts = (1, some 1) then body
  else .counted counts.1 counts.2 greedy body

def items : Regex → List Regex
  | .sequence items => items
  | r => [r]

def branches : Regex → List Regex
  | .choice branches => branches
  | r => [r]

def pushItem : Regex → List Regex → List Regex
  | .empty, rest => rest
  | .literal a, .literal b :: rest => .literal (a ++ b) :: rest
  | item, rest => item :: rest

def ofSequence (parts : List Regex) : Regex :=
  match (parts.flatMap items).foldr pushItem [] with
  | [] => .empty
  | [item] => item
  | items => .sequence items

def character? : Regex → Option Char
  | .literal [c] => some c
  | _ => none

def set? : Regex → Option CharSet
  | .set chars => some chars
  | _ => none

def merged? (branches : List Regex) : Option Regex :=
  match branches.mapM character? with
  | some cs => some (ofSet (.ofRanges (cs.map fun c => (c.toNat, c.toNat))))
  | none => (branches.mapM set?).map fun sets => ofSet (.ofRanges (sets.flatMap CharSet.toList))

/-- A choice whose branches do not share their starts. -/
def ofBranches (parts : List Regex) : Regex :=
  match parts.flatMap branches with
  | [] => .set .empty
  | [branch] => branch
  | branches => (merged? branches).getD (.choice branches)

def sharedStart : List Regex → List Regex → List Regex
  | a :: as, b :: bs => if same a b then a :: sharedStart as bs else []
  | _, _ => []

def sequence? : Regex → Option (List Regex)
  | .sequence items => some items
  | _ => none

/-- A choice between sequences with the same start, as that start and a choice between what
follows it. -/
def lifted? (branches : List Regex) : Option Regex := do
  let sequences ← branches.mapM sequence?
  let start := sequences.tail.foldl sharedStart (sequences.headD [])
  if start.isEmpty then none
  else
    let rests := sequences.map fun items => ofSequence (items.drop start.length)
    some (ofSequence (start ++ [ofBranches rests]))

/-- One of several expressions. What follows a shared start has no start in common, so sharing
once is enough. -/
def ofChoice (parts : List Regex) : Regex :=
  match ofBranches parts with
  | .choice branches => (lifted? branches).getD (.choice branches)
  | r => r

end Regex

end RecordQuery.Pattern
