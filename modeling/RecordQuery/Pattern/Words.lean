import RecordQuery.Pattern.Regex

/-!
Patterns that are searched for as words.

The matches of a pattern begin in a number of ways, listed here in order of preference. A way that
an earlier one is the start of never comes to bear, for the earlier one is there as well. If each
way that remains is a whole match, the pattern is found by looking for these words, and its search
takes no automaton. So it is with a choice between words, and with a choice whose later branches
begin with the first.

Lists are kept short: only small sets are spelled out, words are cut at a length, and what would
make a list too long leaves its end open.
-/

namespace RecordQuery.Pattern

/-- The bytes that a match begins with; `whole` says that it ends with them. -/
structure Beginning where
  bytes : List UInt8
  whole : Bool

namespace Beginning

def unfinished (b : Beginning) : Beginning := { b with whole := false }

def cut (length : Nat) (b : Beginning) : Beginning :=
  if b.bytes.length ≤ length then b else ⟨b.bytes.take length, false⟩

def append (a b : Beginning) : Beginning := ⟨a.bytes ++ b.bytes, b.whole⟩

def isStartOf (a b : Beginning) : Bool := a.bytes.isPrefixOf b.bytes

/-- Makes one of neighbours with the same bytes. -/
def merge (ways : List Beginning) : List Beginning :=
  ways.foldr (fun b done =>
    match done with
    | next :: rest =>
      if b.bytes = next.bytes then { b with whole := b.whole && next.whole } :: rest
      else b :: done
    | [] => [b]) []

def unhidden (ways : List Beginning) : List Beginning :=
  ways.foldl (fun kept b => if kept.any (·.isStartOf b) then kept else kept ++ [b]) []

def commonStart : List Beginning → List UInt8
  | [] => []
  | [b] => b.bytes
  | b :: rest => ((b.bytes.zip (commonStart rest)).takeWhile fun (x, y) => x == y).map (·.1)

end Beginning

/-! ### Lists of beginnings -/

/-- The beginnings of the matches of a part, in order of preference; unknown if too many. -/
abbrev Beginnings := Option (List Beginning)

namespace Beginnings

def limit : Nat := 250

def lengthLimit : Nat := 100

/-- The most characters of a set that is spelled out. -/
def setLimit : Nat := 10

/-- The most copies of a repeated part that are spelled out. -/
def copyLimit : Nat := 10

def nothing : Beginnings := some [⟨[], true⟩]

def ofBytes (bytes : List UInt8) : Beginnings := some [.cut lengthLimit ⟨bytes, true⟩]

def ofSet (chars : Unicode.CharSet) : Beginnings :=
  if setLimit < chars.toList.foldl (fun n (low, high) => n + (high + 1 - low)) 0 then none
  else
    some (chars.toList.flatMap fun (low, high) =>
      (List.range (high + 1 - low)).map fun i =>
        ⟨String.utf8EncodeChar (Char.ofNat (low + i)), true⟩)

def unfinished (ways : Beginnings) : Beginnings := ways.map (·.map .unfinished)

def isClosed (ways : Beginnings) : Bool := ways.all (·.all (!·.whole))

/-- The beginnings of one part after another. Where the second part is not known, the first is left
open; if the first can take nothing, its beginnings are no more known than those of the second. -/
def append (first second : Beginnings) : Beginnings := do
  let first ← first
  match second.filter fun second => first.length * second.length ≤ limit with
  | none => if first.any (·.bytes.isEmpty) then none else some (first.map .unfinished)
  | some second =>
    let ways := first.flatMap fun a => if a.whole then second.map a.append else [a]
    some ((Beginning.merge ways).map (.cut lengthLimit))

/-- The beginnings of either of two parts, cut to four bytes if there are too many. -/
def union (first second : Beginnings) : Beginnings := do
  let first ← first
  let second ← second
  if first.length + second.length ≤ limit then return Beginning.merge (first ++ second)
  let first := Beginning.merge (first.map (.cut 4))
  let second := Beginning.merge (second.map (.cut 4))
  if first.length + second.length ≤ limit then return Beginning.merge (first ++ second)
  none

def counted (least : Nat) (most : Option Nat) (greedy : Bool) (body : Beginnings) : Beginnings :=
  if least = 0 then
    let body := if most = some 1 then body else body.unfinished
    if greedy then body.union nothing else nothing.union body
  else
    let copies :=
      (min least copyLimit).repeat (fun ways => if ways.isClosed then ways else ways.append body)
        nothing
    if most = some least && least ≤ copyLimit then copies else copies.unfinished

end Beginnings

namespace Regex

def bytes? : Regex → Option (List UInt8)
  | .literal text => some (text.flatMap String.utf8EncodeChar)
  | _ => none

mutual

def beginnings : Regex → Beginnings
  | .empty | .place _ => .nothing
  | .literal text => .ofBytes (text.flatMap String.utf8EncodeChar)
  | .set chars => .ofSet chars
  | .sequence items => beginningsInRow items .nothing
  | .choice branches => beginningsOfAny branches (some [])
  | .capture body => body.beginnings
  | .counted least most greedy body => .counted least most greedy body.beginnings

def beginningsInRow : List Regex → Beginnings → Beginnings
  | [], ways => ways
  | item :: rest, ways =>
    if ways.isClosed then ways else beginningsInRow rest (ways.append item.beginnings)

def beginningsOfAny : List Regex → Beginnings → Beginnings
  | [], ways => ways
  | branch :: rest, ways =>
    if ways.isNone then none else beginningsOfAny rest (ways.union branch.beginnings)

end

mutual

def isPlain : Regex → Bool
  | .empty | .literal _ | .set _ => true
  | .place _ | .capture _ => false
  | .sequence items | .choice items => allPlain items
  | .counted _ _ _ body => body.isPlain

def allPlain : List Regex → Bool
  | [] => true
  | item :: rest => item.isPlain && allPlain rest

end

end Regex

/-! ### What is looked for -/

namespace Beginning

/-- The ASCII bytes that are common in all kinds of data. -/
def commonAscii : List Char := "\n\r (),-./0129:_abcdefghilmnoprstuvxy|".toList

def isRare (byte : UInt8) : Bool := byte < 128 && !commonAscii.contains (Char.ofNat byte.toNat)

def shorten : List (Nat × Nat) → List Beginning → List Beginning
  | [], ways => ways
  | (length, few) :: rest, ways =>
    if ways.length ≤ few then ways else shorten rest (unhidden (ways.map (.cut length)))

/-- Whether some words are looked for as they are. They are not if it pays to look for a start
that they share, or to cut them; cutting pays unless it leaves too little or too many of them.
`hidden` says that there are other beginnings, which do not come to bear. -/
def areLookedFor (hidden : Bool) (words : List Beginning) : Bool :=
  let start := commonStart words
  let several := 1 < words.length
  if (several || hidden) && start.length ≤ 3 && start.head?.any isRare then
    words.all (·.bytes.length ≤ 1)
  else if several && (4 < start.length || 1 < start.length && 16 < words.length) then false
  else
    let short := shorten [(5, 10), (4, 10), (3, 64), (2, 64), (1, 10)] words
    short.all (·.whole) || short.any (·.bytes.length ≤ 2) || 64 < short.length

end Beginning

namespace Regex

def isFewWords (r : Regex) : Bool :=
  r.isPlain && r.beginnings.any fun ways =>
    let ways := Beginning.merge ways
    let words := Beginning.unhidden ways
    !words.isEmpty && words.all (fun b => b.whole && !b.bytes.isEmpty)
      && Beginning.areLookedFor (words.length < ways.length) words

/-- Whether a pattern is a choice between very many words. -/
def isManyWords (r : Regex) : Bool :=
  3000 ≤ r.branches.length && r.branches.all fun branch => branch.bytes?.isSome

/-- Whether a pattern is searched for without an automaton. -/
def isWordSearch (r : Regex) : Bool := r.isManyWords || r.isFewWords

end Regex

end RecordQuery.Pattern
