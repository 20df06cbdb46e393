import RecordQuery.Pattern.Syntax
import RecordQuery.Unicode.Lookup

/-!
Reading regular expressions.

The reader walks the characters once and has no result when the text is no regular expression.
In extended mode blanks and comments between the parts of a pattern do not count. Every round of
its loops takes at least one character, so the length of the text bounds the rounds.
-/

namespace RecordQuery.Pattern

open Unicode (CharSet)

/-- What is left to read, whether blanks count, and the names given to groups so far. -/
structure Cursor where
  rest : List Char
  extended : Bool
  names : List String

abbrev Reader := StateT Cursor Option

namespace Reader

def isBlank (c : Char) : Bool := Unicode.whiteSpace.contains c

def skipIgnored : Bool → List Char → List Char
  | _, [] => []
  | true, c :: rest => skipIgnored (c != '\n') rest
  | false, c :: rest =>
    if isBlank c then skipIgnored false rest
    else if c == '#' then skipIgnored true rest
    else c :: rest

def peek : Reader (Option Char) := do return (← get).rest.head?

def look : Reader Char := do
  match ← peek with
  | some c => pure c
  | none => failure

def bump : Reader Unit := modify fun s => { s with rest := s.rest.drop 1 }

def skip : Reader Unit :=
  modify fun s => if s.extended then { s with rest := skipIgnored false s.rest } else s

def advance : Reader Unit := do bump; skip

def takeText (text : String) : Reader Bool := do
  let s ← get
  if text.toList.isPrefixOf s.rest then
    set { s with rest := s.rest.drop text.length }
    return true
  else return false

def takeChar (c : Char) : Reader Bool := do
  if (← peek) == some c then
    bump
    return true
  else return false

/-- The second next character that counts, by the rule that in extended mode one comment sign
hides itself only. -/
def peekSecondCounting : Reader (Option Char) := do
  let s ← get
  let after := s.rest.drop 1
  if s.extended then
    match after.dropWhile isBlank with
    | '#' :: more => return (more.dropWhile isBlank).head?
    | more => return more.head?
  else return after.head?

def takeWhileCounting (test : Char → Bool) : Nat → Reader (List Char)
  | 0 => pure []
  | rounds + 1 => do
    match ← peek with
    | some c =>
      if test c then
        advance
        return c :: (← takeWhileCounting test rounds)
      else return []
    | none => return []

def takeWhile (test : Char → Bool) : Reader (List Char) := do
  let s ← get
  set { s with rest := s.rest.dropWhile test }
  return s.rest.takeWhile test

/-- A bound on the rounds of any loop from here on. -/
def rounds : Reader Nat := do return (← get).rest.length + 1

/-! ### Numbers and escapes -/

/-- A count of 32 bits, blanks around it not counting. -/
def decimal : Reader Nat := do
  let _ ← takeWhile isBlank
  let digits ← takeWhileCounting Char.isDigit (← rounds)
  let _ ← takeWhileCounting isBlank (← rounds)
  let n := digits.foldl (fun n c => 10 * n + (c.toNat - 48)) 0
  if digits.isEmpty || 2 ^ 32 ≤ n then failure else pure n

def isHexDigit (c : Char) : Bool :=
  c.isDigit || ('a' ≤ c && c ≤ 'f') || ('A' ≤ c && c ≤ 'F')

def hexValue (c : Char) : Nat :=
  if c.isDigit then c.toNat - 48 else if c ≤ 'F' then c.toNat - 55 else c.toNat - 87

def charOfHex (digits : List Char) : Reader Char :=
  let n := digits.foldl (fun n c => min (16 * n + hexValue c) (2 ^ 32)) 0
  if h : n.isValidChar then pure (Char.ofNatAux n h) else failure

def hexDigits : Nat → Reader (List Char)
  | 0 => pure []
  | n + 1 => do
    let c ← look
    if isHexDigit c then
      advance
      return c :: (← hexDigits n)
    else failure

/-- The digits of a hexadecimal escape, after its letter: as many as the letter asks for, or any
number of them in braces. -/
def hexEscape (count : Nat) : Reader Literal := do
  advance
  if (← look) == '\x7b' then
    advance
    let digits ← takeWhileCounting isHexDigit (← rounds)
    if (← look) != '\x7d' || digits.isEmpty then failure
    advance
    return ⟨← charOfHex digits, false⟩
  else
    let digits ← hexDigits count
    return ⟨← charOfHex digits, count == 2⟩

/-- The parts of a property name around an operator: the name, whether the value is ruled out,
and the value. The operators are tried in this order over the whole text. -/
def splitProperty (text : List Char) : List Char × Option (Bool × List Char) :=
  match splitAt2 '!' '=' text with
  | some (name, value) => (name, some (true, value))
  | none =>
    if text.contains ':' then
      (text.takeWhile (· != ':'), some (false, (text.dropWhile (· != ':')).drop 1))
    else if text.contains '=' then
      (text.takeWhile (· != '='), some (false, (text.dropWhile (· != '=')).drop 1))
    else (text, none)
where
  splitAt2 (a b : Char) : List Char → Option (List Char × List Char)
    | x :: y :: rest =>
      if x == a && y == b then some ([], rest)
      else (splitAt2 a b (y :: rest)).map fun (before, after) => (x :: before, after)
    | _ => none

def propertyClass (negated : Bool) : Reader (Bool × PropertyQuery) := do
  advance
  let c ← look
  if c == '\x7b' then
    advance
    let text ← takeWhileCounting (· != '\x7d') (← rounds)
    if (← look) != '\x7d' then failure
    bump
    match splitProperty text with
    | (name, none) => return (negated, .named (String.ofList name))
    | (name, some (ruledOut, value)) =>
      return (negated != ruledOut, .valued (String.ofList name) (String.ofList value))
  else if c == '\\' then failure
  else
    advance
    return (negated, .named c.toString)

inductive Escape where
  | literal (c : Literal)
  | anchor (kind : Anchor)
  | property (negated : Bool) (query : PropertyQuery)
  | short (negated : Bool) (name : ShortClass)

/-- The special boundary that may follow in braces. Braces that do not start with a letter or a
hyphen are a count and are left alone. -/
def boundaryName : Reader Anchor := do
  let before ← get
  if (← peek) != some '\x7b' then return .wordBoundary
  advance
  let isNameChar (c : Char) : Bool := c.isAlpha || c == '-'
  if !isNameChar (← look) then
    set before
    return .wordBoundary
  let name ← takeWhileCounting isNameChar (← rounds)
  if (← look) != '\x7d' then failure
  bump
  match String.ofList name with
  | "start" => return .wordStart
  | "end" => return .wordEnd
  | "start-half" => return .wordStartHalf
  | "end-half" => return .wordEndHalf
  | _ => failure

/-- Whether a backslash before the character gives the character itself: so for all of ASCII
but letters, digits and the two angle brackets. -/
def isPlainEscape (c : Char) : Bool := c.toNat < 128 && !c.isAlphanum && c != '<' && c != '>'

def escape : Reader Escape := do
  bump
  let c ← look
  match c with
  | 'x' => return .literal (← hexEscape 2)
  | 'u' => return .literal (← hexEscape 4)
  | 'U' => return .literal (← hexEscape 8)
  | 'p' | 'P' =>
    let (negated, query) ← propertyClass (c == 'P')
    return .property negated query
  | _ =>
    bump
    match c with
    | 'd' => return .short false .digit
    | 'D' => return .short true .digit
    | 's' => return .short false .space
    | 'S' => return .short true .space
    | 'w' => return .short false .word
    | 'W' => return .short true .word
    | 'a' => return .literal ⟨'\x07', false⟩
    | 'f' => return .literal ⟨'\x0c', false⟩
    | 't' => return .literal ⟨'\t', false⟩
    | 'n' => return .literal ⟨'\n', false⟩
    | 'r' => return .literal ⟨'\r', false⟩
    | 'v' => return .literal ⟨'\x0b', false⟩
    | 'A' => return .anchor .textStart
    | 'z' => return .anchor .textEnd
    | 'b' => return .anchor (← boundaryName)
    | 'B' => return .anchor .notWordBoundary
    | '<' => return .anchor .wordStart
    | '>' => return .anchor .wordEnd
    | _ => if isPlainEscape c then return .literal ⟨c, false⟩ else failure

/-! ### Sets in brackets -/

def asciiClass? : String → Option AsciiClass
  | "alnum" => some .alnum
  | "alpha" => some .alpha
  | "ascii" => some .ascii
  | "blank" => some .blank
  | "cntrl" => some .cntrl
  | "digit" => some .digit
  | "graph" => some .graph
  | "lower" => some .lower
  | "print" => some .print
  | "punct" => some .punct
  | "space" => some .space
  | "upper" => some .upper
  | "word" => some .word
  | "xdigit" => some .xdigit
  | _ => none

def asciiItem? : Reader (Option SetSyntax) := do
  let before ← get
  let giveUp : Reader (Option SetSyntax) := do
    set before
    return none
  if !(← takeText "[:") then return ← giveUp
  let negated ← takeChar '^'
  let name ← takeWhile (· != ':')
  if !(← takeText ":]") then return ← giveUp
  match asciiClass? (String.ofList name) with
  | some cls => return some (.ascii negated cls)
  | none => giveUp

def setPrimitive : Reader SetSyntax := do
  let c ← look
  if c == '\\' then
    match ← escape with
    | .literal c => return .literal c
    | .property negated query => return .property negated query
    | .short negated name => return .short negated name
    | .anchor _ => failure
  else
    bump
    return .literal ⟨c, false⟩

/-- A range, a literal or an escaped class. A hyphen before the closing bracket is a literal, and
two hyphens are an operator. -/
def setItem : Reader SetSyntax := do
  let first ← setPrimitive
  skip
  if (← look) != '-' then return first
  let second ← peekSecondCounting
  if second == some ']' || second == some '-' then return first
  advance
  match first, ← setPrimitive with
  | .literal a, .literal b => if a.char ≤ b.char then return .range a b else failure
  | _, _ => failure

/-- The literals that may open a set: hyphens, or else one closing bracket. -/
def openingLiterals : Reader (List SetSyntax) := do
  let hyphens ← takeWhileCounting (· == '-') (← rounds)
  if hyphens.isEmpty then
    if (← look) == ']' then
      advance
      return [.literal ⟨']', false⟩]
    else return []
  else return hyphens.map fun c => .literal ⟨c, false⟩

def setOperator? : Reader (Option SetOperator) := do
  if ← takeText "&&" then return some .intersection
  if ← takeText "--" then return some .difference
  if ← takeText "~~" then return some .symmetricDifference
  return none

/-- The set so far: the operators bind alike and to the left. -/
def combine (left : Option (SetSyntax × SetOperator)) (right : SetSyntax) : SetSyntax :=
  match left with
  | none => right
  | some (left, operator) => .binary operator left right

mutual

def bracketed : Nat → Reader (Bool × SetSyntax)
  | 0 => failure
  | fuel + 1 => do
    advance
    let negated := (← look) == '^'
    if negated then advance
    let opening ← openingLiterals
    let body ← setItems fuel none opening.reverse
    return (negated, body)

/-- The rest of a set, up to its closing bracket: what stands left of the last operator, and the
items since then, last first. -/
def setItems : Nat → Option (SetSyntax × SetOperator) → List SetSyntax → Reader SetSyntax
  | 0, _, _ => failure
  | fuel + 1, left, items => do
    skip
    match ← look with
    | '[' =>
      match ← asciiItem? with
      | some item => setItems fuel left (item :: items)
      | none =>
        let (negated, body) ← bracketed fuel
        setItems fuel left (.bracketed negated body :: items)
    | ']' =>
      bump
      return combine left (.ofItems items.reverse)
    | _ =>
      match ← setOperator? with
      | some operator => setItems fuel (some (combine left (.ofItems items.reverse), operator)) []
      | none => setItems fuel left ((← setItem) :: items)

end

/-! ### Groups and repetitions -/

def flag? : Char → Option Flag
  | 'i' => some .caseInsensitive
  | 'm' => some .multiLine
  | 's' => some .dotMatchesNewLine
  | 'U' => some .swapGreed
  | 'u' => some .unicode
  | 'R' => some .lineFeedPairs
  | 'x' => some .extended
  | _ => none

/-- The flags after `(?`, up to the character that ends them. A flag comes once, a hyphen once
and not last. -/
def flagChange (text : List Char) : Option FlagChange := do
  let on := text.takeWhile (· != '-')
  let off := text.dropWhile (· != '-')
  if off == ['-'] then none
  let onFlags ← on.mapM flag?
  let offFlags ← (off.drop 1).mapM flag?
  let flags := onFlags ++ offFlags
  if flags.eraseDups.length == flags.length then
    some (onFlags.map (·, true) ++ offFlags.map (·, false))
  else none

def nameStart : CharSet := Unicode.alphabetic

def nameRest : CharSet := nameStart.union Unicode.numbers

/-- A group name, up to its closing angle bracket. Letters, digits, underscores, and after the
first character also points and square brackets, make up a name; no two groups share one. -/
def groupName : Reader Unit := do
  let name ← takeWhile (· != '>')
  if !(← takeChar '>') then failure
  let isRest (c : Char) : Bool :=
    c == '_' || c == '.' || c == '[' || c == ']' || nameRest.contains c
  match name with
  | [] => failure
  | c :: more =>
    if (c == '_' || nameStart.contains c) && more.all isRest then
      let s ← get
      let name := String.ofList name
      if s.names.contains name then failure
      set { s with names := name :: s.names }
    else failure

inductive Opening where
  | flags (change : FlagChange)
  | group (change : FlagChange)
  | capture

/-- The opening of a group, from its parenthesis on. There is no looking around. -/
def opening : Reader Opening := do
  advance
  if (← takeText "?=") || (← takeText "?!") || (← takeText "?<=") || (← takeText "?<!") then failure
  if (← takeText "?P<") || (← takeText "?<") then
    groupName
    return .capture
  else if ← takeChar '?' then
    let text ← takeWhile fun c => c != ':' && c != ')'
    match flagChange text with
    | none => failure
    | some change =>
      let last ← look
      bump
      if last == ':' then return .group change
      else if change.isEmpty then failure
      else return .flags change
  else return .capture

def counts : Reader (Nat × Option Nat) := do
  advance
  let least ← decimal
  if (← look) == ',' then
    advance
    if (← look) == '\x7d' then return (least, none)
    let most ← decimal
    if least ≤ most then return (least, some most) else failure
  else return (least, some least)

/-- A repetition of the last item; `none` if there is nothing that can be repeated. -/
def repeatLast (least : Nat) (most : Option Nat) (greedy : Bool) :
    List Syntax → Option (List Syntax)
  | [] | .empty :: _ | .flags _ :: _ => none
  | item :: rest => some (.counted least most greedy item :: rest)

/-! ### Patterns -/

/-- The items and the branches of a group so far, the last ones first. -/
structure Open where
  items : List Syntax
  branches : List Syntax

structure Frame where
  before : Open
  opening : Opening
  extended : Bool

def Open.push (o : Open) (item : Syntax) : Open := { o with items := item :: o.items }

def Open.branch (o : Open) : Open := ⟨[], .ofItems o.items.reverse :: o.branches⟩

def Open.close (o : Open) : Syntax := .ofBranches o.branch.branches.reverse

def extendedAfter (change : FlagChange) (now : Bool) : Bool := (change.lookup .extended).getD now

def setExtended (extended : Bool) : Reader Unit := modify fun s => { s with extended }

def primitive (c : Char) : Reader Syntax := do
  match c with
  | '\\' =>
    match ← escape with
    | .literal c => return .literal c
    | .anchor kind => return .anchor kind
    | .property negated query => return .property negated query
    | .short negated name => return .short negated name
  | '.' => bump; return .dot
  | '^' => bump; return .anchor .lineStart
  | '$' => bump; return .anchor .lineEnd
  | _ => bump; return .literal ⟨c, false⟩

/-- Puts a repetition in the place of the last item. A question mark after it makes it lazy. -/
def repeated (o : Open) (least : Nat) (most : Option Nat) : Reader Open := do
  let lazy ← takeChar '?'
  match repeatLast least most (!lazy) o.items with
  | none => failure
  | some items => return { o with items }

def pattern : Nat → Open → List Frame → Reader Syntax
  | 0, _, _ => failure
  | fuel + 1, o, frames => do
    skip
    match ← peek with
    | none => if frames.isEmpty then return o.close else failure
    | some '(' =>
      let extended := (← get).extended
      match ← opening with
      | .flags change =>
        setExtended (extendedAfter change extended)
        pattern fuel (o.push (.flags change)) frames
      | .group change =>
        setExtended (extendedAfter change extended)
        pattern fuel ⟨[], []⟩ (⟨o, .group change, extended⟩ :: frames)
      | .capture => pattern fuel ⟨[], []⟩ (⟨o, .capture, extended⟩ :: frames)
    | some ')' =>
      match frames with
      | [] => failure
      | frame :: rest =>
        setExtended frame.extended
        bump
        let body := o.close
        let item : Syntax :=
          match frame.opening with
          | .group change | .flags change => .group change body
          | .capture => .capture body
        pattern fuel (frame.before.push item) rest
    | some '|' =>
      bump
      pattern fuel o.branch frames
    | some '[' =>
      let (negated, body) ← bracketed fuel
      pattern fuel (o.push (.bracketed negated body)) frames
    | some '?' =>
      bump
      pattern fuel (← repeated o 0 (some 1)) frames
    | some '*' =>
      bump
      pattern fuel (← repeated o 0 none) frames
    | some '+' =>
      bump
      pattern fuel (← repeated o 1 none) frames
    | some '\x7b' =>
      let (least, most) ← counts
      if (← look) != '\x7d' then failure
      advance
      pattern fuel (← repeated o least most) frames
    | some c => pattern fuel (o.push (← primitive c)) frames

end Reader

/-- The regular expression that a text writes, if it writes one that is not too deep. -/
def Syntax.parse? (text : String) : Option Syntax :=
  match (Reader.pattern (text.length + 1) ⟨[], []⟩ []).run ⟨text.toList, false, []⟩ with
  | some (tree, _) => if tree.depth ≤ depthLimit then some tree else none
  | none => none

end RecordQuery.Pattern
