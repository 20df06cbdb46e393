import RecordQuery.Pattern.Regex
import RecordQuery.Unicode.CaseFolding
import RecordQuery.Unicode.Lookup

/-!
What a pattern means under its flags.

`Regex.ofSyntax?` walks the pattern as written with the flags in force, and has no result when a
part of the pattern could match something other than whole characters, or names a property that is
not known.
-/

namespace RecordQuery.Pattern

open Unicode (CharSet)

structure Flags where
  caseInsensitive : Bool
  multiLine : Bool
  dotMatchesNewLine : Bool
  swapGreed : Bool
  unicode : Bool
  lineFeedPairs : Bool

namespace Flags

/-- The flags that a pattern starts with: Unicode and nothing else. -/
def initial : Flags := ⟨false, false, false, false, true, false⟩

def set (flags : Flags) : Flag × Bool → Flags
  | (.caseInsensitive, on) => { flags with caseInsensitive := on }
  | (.multiLine, on) => { flags with multiLine := on }
  | (.dotMatchesNewLine, on) => { flags with dotMatchesNewLine := on }
  | (.unicode, on) => { flags with unicode := on }
  | (.lineFeedPairs, on) => { flags with lineFeedPairs := on }
  | (.swapGreed, on) => { flags with swapGreed := on }
  | (.extended, _) => flags

def apply (flags : Flags) (change : FlagChange) : Flags := change.foldl set flags

def wordKind (flags : Flags) : WordKind := if flags.unicode then .unicode else .ascii

/-! ### Sets -/

def asciiLetterPairs : List (Nat × Nat) := (List.range 26).map fun i => (65 + i, 97 + i)

def closeUnderAsciiCase (s : CharSet) : CharSet :=
  s.union (.ofRanges (asciiLetterPairs.flatMap fun (upper, lower) =>
    (if s.containsCode upper then [(lower, lower)] else [])
      ++ if s.containsCode lower then [(upper, upper)] else []))

def fold (flags : Flags) (s : CharSet) : CharSet :=
  if !flags.caseInsensitive then s
  else if flags.unicode then s.closeUnderCase
  else closeUnderAsciiCase s

/-- A set as it counts without Unicode: it must be of ASCII characters, for others are several
bytes each. -/
def checked (flags : Flags) (s : CharSet) : Option CharSet :=
  if flags.unicode || s.isAscii then some s else none

/-- A set with its case closed and then negated if asked for. -/
def foldAndNegate (flags : Flags) (negated : Bool) (s : CharSet) : Option CharSet :=
  let s := flags.fold s
  flags.checked (if negated then s.negation else s)

def asciiRanges : AsciiClass → List (Nat × Nat)
  | .alnum => [(48, 57), (65, 90), (97, 122)]
  | .alpha => [(65, 90), (97, 122)]
  | .ascii => [(0, 127)]
  | .blank => [(9, 9), (32, 32)]
  | .cntrl => [(0, 31), (127, 127)]
  | .digit => [(48, 57)]
  | .graph => [(33, 126)]
  | .lower => [(97, 122)]
  | .print => [(32, 126)]
  | .punct => [(33, 47), (58, 64), (91, 96), (123, 126)]
  | .space => [(9, 13), (32, 32)]
  | .upper => [(65, 90)]
  | .word => [(48, 57), (65, 90), (95, 95), (97, 122)]
  | .xdigit => [(48, 57), (65, 70), (97, 102)]

def shortSet (flags : Flags) (negated : Bool) (name : ShortClass) : Option CharSet :=
  let s :=
    match flags.unicode, name with
    | true, .digit => Unicode.decimalDigits
    | true, .space => Unicode.whiteSpace
    | true, .word => Unicode.wordCharacters
    | false, .digit => .ofRanges (asciiRanges .digit)
    | false, .space => .ofRanges (asciiRanges .space)
    | false, .word => .ofRanges (asciiRanges .word)
  flags.checked (if negated then s.negation else s)

def propertySet (flags : Flags) (negated : Bool) (query : PropertyQuery) : Option CharSet := do
  if !flags.unicode then none
  let s ←
    match query with
    | .named name => Unicode.named? name
    | .valued name value => Unicode.valued? name value
  flags.foldAndNegate negated s

/-- A literal that stands for a character; without Unicode, a byte that is no ASCII character
does not. -/
def literalCode (flags : Flags) (c : Literal) : Option Nat :=
  if !flags.unicode && c.isByte && 128 ≤ c.char.toNat then none else some c.char.toNat

def setLiteral (flags : Flags) (c : Literal) : Option Nat := do
  let code ← flags.literalCode c
  if flags.unicode || code < 128 then some code else none

mutual

/-- The set that the text between brackets stands for, before the brackets close it under case
and negate it. -/
def bracketSet (flags : Flags) : SetSyntax → Option CharSet
  | .empty => some .empty
  | .literal c => (flags.setLiteral c).map .singleton
  | .range first last => do
    let low ← flags.setLiteral first
    let high ← flags.setLiteral last
    some (.ofRanges [(low, high)])
  | .ascii negated name => flags.foldAndNegate negated (.ofRanges (asciiRanges name))
  | .property negated query => flags.propertySet negated query
  | .short negated name => flags.shortSet negated name
  | .bracketed negated body => do flags.foldAndNegate negated (← bracketSet flags body)
  | .union items => do
    let sets ← bracketSets flags items
    some (.ofRanges (sets.flatMap CharSet.toList))
  | .binary operator left right => do
    let left := flags.fold (← bracketSet flags left)
    let right := flags.fold (← bracketSet flags right)
    match operator with
    | .intersection => some (left.inter right)
    | .difference => some (left.diff right)
    | .symmetricDifference => some (left.symmDiff right)

def bracketSets (flags : Flags) : List SetSyntax → Option (List CharSet)
  | [] => some []
  | item :: rest => do
    let s ← bracketSet flags item
    let others ← bracketSets flags rest
    some (s :: others)

end

/-! ### Characters and places -/

def newLine : CharSet := .singleton 10

def literalSet (flags : Flags) (c : Literal) : Option CharSet := do
  let code ← flags.literalCode c
  some (flags.fold (.singleton code))

/-- The dot: any character, as a rule but the ends of lines. It is no set of ASCII characters, so
it takes Unicode. -/
def dotSet (flags : Flags) : Option CharSet :=
  if !flags.unicode then none
  else if flags.dotMatchesNewLine then some .all
  else if flags.lineFeedPairs then some (CharSet.complement (.ofRanges [(10, 10), (13, 13)]))
  else some newLine.complement

def placeOf (flags : Flags) : Anchor → Place
  | .lineStart =>
    if !flags.multiLine then .textStart
    else if flags.lineFeedPairs then .lineStartPairs
    else .lineStart
  | .lineEnd =>
    if !flags.multiLine then .textEnd
    else if flags.lineFeedPairs then .lineEndPairs
    else .lineEnd
  | .textStart => .textStart
  | .textEnd => .textEnd
  | .wordBoundary => .wordBoundary flags.wordKind
  | .notWordBoundary => .notWordBoundary flags.wordKind
  | .wordStart => .wordStart flags.wordKind
  | .wordEnd => .wordEnd flags.wordKind
  | .wordStartHalf => .wordStartHalf flags.wordKind
  | .wordEndHalf => .wordEndHalf flags.wordKind

end Flags

namespace Regex

mutual

/-- The pattern under flags, with the flags in force after it. The flags of a group end with the
group; those of an item run to the end of the group around it. -/
def resolve : Flags → Syntax → Option (Regex × Flags)
  | flags, .empty => some (.empty, flags)
  | flags, .flags change => some (.empty, flags.apply change)
  | flags, .literal c => do some (ofSet (← flags.literalSet c), flags)
  | flags, .dot => do some (ofSet (← flags.dotSet), flags)
  | flags, .anchor kind => some (.place (flags.placeOf kind), flags)
  | flags, .property negated query => do some (ofSet (← flags.propertySet negated query), flags)
  | flags, .short negated name => do some (ofSet (← flags.shortSet negated name), flags)
  | flags, .bracketed negated body => do
    some (ofSet (← flags.foldAndNegate negated (← flags.bracketSet body)), flags)
  | flags, .counted least most greedy body => do
    let (body, after) ← resolve flags body
    some (repeated least most (greedy != flags.swapGreed) body, after)
  | flags, .group change body => do
    let (body, _) ← resolve (flags.apply change) body
    some (body, flags)
  | flags, .capture body => do
    let (body, _) ← resolve flags body
    some (.capture body, flags)
  | flags, .alternatives branches => do
    let (branches, after) ← resolveList flags branches
    some (ofChoice branches, after)
  | flags, .sequence items => do
    let (items, after) ← resolveList flags items
    some (ofSequence items, after)

def resolveList : Flags → List Syntax → Option (List Regex × Flags)
  | flags, [] => some ([], flags)
  | flags, item :: rest => do
    let (item, flags) ← resolve flags item
    let (rest, flags) ← resolveList flags rest
    some (item :: rest, flags)

end

def ofSyntax? (tree : Syntax) : Option Regex := (resolve .initial tree).map (·.1)

end Regex

end RecordQuery.Pattern
