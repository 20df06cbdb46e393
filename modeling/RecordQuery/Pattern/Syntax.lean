/-!
Regular expressions as they are written.

The tree keeps what the text says, flags included; what it means is settled when the flags are
known.
-/

namespace RecordQuery.Pattern

inductive Flag where
  | caseInsensitive
  | multiLine
  | dotMatchesNewLine
  | swapGreed
  | unicode
  | lineFeedPairs
  | extended
deriving DecidableEq

abbrev FlagChange := List (Flag × Bool)

/-- A literal character. A character that was written as two hexadecimal digits stands for a byte
where patterns are not read as text. -/
structure Literal where
  char : Char
  isByte : Bool
deriving DecidableEq

inductive ShortClass where
  | digit
  | space
  | word
deriving DecidableEq

inductive AsciiClass where
  | alnum
  | alpha
  | ascii
  | blank
  | cntrl
  | digit
  | graph
  | lower
  | print
  | punct
  | space
  | upper
  | word
  | xdigit
deriving DecidableEq

inductive PropertyQuery where
  | named (name : String)
  | valued (name value : String)
deriving DecidableEq

/-- The conditions on a place between characters. -/
inductive Anchor where
  | lineStart
  | lineEnd
  | textStart
  | textEnd
  | wordBoundary
  | notWordBoundary
  | wordStart
  | wordEnd
  | wordStartHalf
  | wordEndHalf
deriving DecidableEq

inductive SetOperator where
  | intersection
  | difference
  | symmetricDifference
deriving DecidableEq

inductive SetSyntax where
  | empty
  | literal (c : Literal)
  | range (first last : Literal)
  | ascii (negated : Bool) (name : AsciiClass)
  | property (negated : Bool) (query : PropertyQuery)
  | short (negated : Bool) (name : ShortClass)
  | bracketed (negated : Bool) (body : SetSyntax)
  | union (items : List SetSyntax)
  | binary (operator : SetOperator) (left right : SetSyntax)

inductive Syntax where
  | empty
  | flags (change : FlagChange)
  | literal (c : Literal)
  | dot
  | anchor (kind : Anchor)
  | property (negated : Bool) (query : PropertyQuery)
  | short (negated : Bool) (name : ShortClass)
  | bracketed (negated : Bool) (body : SetSyntax)
  | counted (least : Nat) (most : Option Nat) (greedy : Bool) (body : Syntax)
  | group (change : FlagChange) (body : Syntax)
  | capture (body : Syntax)
  | alternatives (branches : List Syntax)
  | sequence (items : List Syntax)

/-! ### Depth -/

mutual

/-- How deep bracketed sets, unions and operators lie in each other. -/
def SetSyntax.depth : SetSyntax → Nat
  | .bracketed _ body => body.depth + 1
  | .union items => depthList items + 1
  | .binary _ left right => max left.depth right.depth + 1
  | _ => 0

def SetSyntax.depthList : List SetSyntax → Nat
  | [] => 0
  | item :: rest => max item.depth (depthList rest)

end

mutual

/-- How deep groups, repetitions, alternatives, sequences and sets lie in each other. -/
def Syntax.depth : Syntax → Nat
  | .bracketed _ body => body.depth + 1
  | .counted _ _ _ body | .group _ body | .capture body => body.depth + 1
  | .alternatives items | .sequence items => depthList items + 1
  | _ => 0

def Syntax.depthList : List Syntax → Nat
  | [] => 0
  | item :: rest => max item.depth (depthList rest)

end

def depthLimit : Nat := 250

/-- The union of items, without a union where one item or none is all there is. -/
def SetSyntax.ofItems : List SetSyntax → SetSyntax
  | [] => .empty
  | [item] => item
  | items => .union items

def Syntax.ofItems : List Syntax → Syntax
  | [] => .empty
  | [item] => item
  | items => .sequence items

/-- Alternatives, without a choice where there is one branch only. -/
def Syntax.ofBranches : List Syntax → Syntax
  | [] => .empty
  | [branch] => branch
  | branches => .alternatives branches

end RecordQuery.Pattern
