import RecordQuery.Pattern.Regex
import RecordQuery.Unicode.Lookup

/-!
Searching a text for a match of a regular expression.

The expression becomes a program of steps, and the search keeps all places of the program that
the text read so far can lead to. It starts anew at every character, so a match may begin
anywhere, and it ends as soon as one is found. The work is at most the product of the sizes of
program and text.
-/

namespace RecordQuery.Pattern

open Unicode (CharSet)

inductive Step where
  | take (chars : CharSet) (next : Nat)
  | require (condition : Place) (next : Nat)
  | fork (first second : Nat)
  | accept

structure Program where
  steps : Array Step
  start : Nat

namespace Program

/-- A place in a program under construction, and the steps so far. -/
abbrev Draft := Nat × Array Step

def emit (step : Step) (steps : Array Step) : Draft := (steps.size, steps.push step)

def buildCopies (part : Nat → Array Step → Draft) : Nat → Nat → Array Step → Draft
  | 0, next, steps => (next, steps)
  | n + 1, next, steps =>
    let (next, steps) := part next steps
    buildCopies part n next steps

def buildLiteral : List Char → Nat → Array Step → Draft
  | [], next, steps => (next, steps)
  | c :: rest, next, steps =>
    let (next, steps) := buildLiteral rest next steps
    emit (.take (.singleton c.toNat) next) steps

def buildLoop (part : Nat → Array Step → Draft) (next : Nat) (steps : Array Step) : Draft :=
  let loop := steps.size
  let (entry, steps) := part loop (steps.push (.fork next next))
  (loop, steps.setIfInBounds loop (.fork entry next))

/-- Adds a part, and a way past it to a given place. -/
def buildOptional (part : Nat → Array Step → Draft) (past next : Nat) (steps : Array Step) :
    Draft :=
  let (entry, steps) := part next steps
  emit (.fork entry past) steps

mutual

/-- Adds the steps of an expression that goes on at a given place; gives the place where the
expression begins. -/
def build : Regex → Nat → Array Step → Draft
  | .empty, next, steps => (next, steps)
  | .literal text, next, steps => buildLiteral text next steps
  | .set chars, next, steps => emit (.take chars next) steps
  | .place condition, next, steps => emit (.require condition next) steps
  | .sequence items, next, steps => buildSequence items next steps
  | .choice branches, next, steps => buildChoice branches next steps
  | .capture body, next, steps => build body next steps
  | .counted least none _ body, next, steps =>
    let (next, steps) := buildLoop (build body) next steps
    buildCopies (build body) least next steps
  | .counted least (some most) _ body, next, steps =>
    let (next, steps) :=
      buildCopies (buildOptional (build body) next) (most - least) next steps
    buildCopies (build body) least next steps

def buildSequence : List Regex → Nat → Array Step → Draft
  | [], next, steps => (next, steps)
  | item :: rest, next, steps =>
    let (next, steps) := buildSequence rest next steps
    build item next steps

def buildChoice : List Regex → Nat → Array Step → Draft
  | [], next, steps => (next, steps)
  | [branch], next, steps => build branch next steps
  | branch :: rest, next, steps =>
    let (first, steps) := build branch next steps
    let (second, steps) := buildChoice rest next steps
    emit (.fork first second) steps

end

def ofRegex (r : Regex) : Program :=
  let (start, steps) := build r 0 #[.accept]
  ⟨steps, start⟩

end Program

/-! ### Places in a text -/

def isWordChar : WordKind → Char → Bool
  | .ascii, c => c.isAlphanum || c == '_'
  | .unicode, c => if c.toNat < 128 then c.isAlphanum || c == '_' else wordChars.contains c
where
  wordChars : CharSet := Unicode.wordCharacters

def Place.holds (before after : Option Char) : Place → Bool
  | .textStart => before.isNone
  | .textEnd => after.isNone
  | .lineStart => before.isNone || before == some '\n'
  | .lineEnd => after.isNone || after == some '\n'
  | .lineStartPairs =>
    before.isNone || before == some '\n' || (before == some '\r' && after != some '\n')
  | .lineEndPairs =>
    after.isNone || after == some '\r' || (after == some '\n' && before != some '\r')
  | .wordBoundary kind => inWord kind before != inWord kind after
  | .notWordBoundary kind => inWord kind before == inWord kind after
  | .wordStart kind => !inWord kind before && inWord kind after
  | .wordEnd kind => inWord kind before && !inWord kind after
  | .wordStartHalf kind => !inWord kind before
  | .wordEndHalf kind => !inWord kind after
where
  inWord (kind : WordKind) (c : Option Char) : Bool := c.any (isWordChar kind)

/-! ### Search -/

namespace Program

/-- What can be reached without taking a character: whether a match ends here, and the steps
that take one. -/
structure Reach where
  accepted : Bool
  takes : List (CharSet × Nat)

/-- Follows the steps that take nothing, each place once. Every place adds at most two others,
so twice the number of places bounds the rounds. -/
def reach (steps : Array Step) (before after : Option Char) :
    Nat → List Nat → Array Bool → List (CharSet × Nat) → Reach
  | 0, _, _, takes => ⟨false, takes⟩
  | _, [], _, takes => ⟨false, takes⟩
  | fuel + 1, place :: rest, seen, takes =>
    if seen.getD place true then reach steps before after fuel rest seen takes
    else
      let seen := seen.setIfInBounds place true
      match steps[place]? with
      | none => reach steps before after fuel rest seen takes
      | some .accept => ⟨true, takes⟩
      | some (.take chars next) => reach steps before after fuel rest seen ((chars, next) :: takes)
      | some (.require condition next) =>
        if condition.holds before after then
          reach steps before after fuel (next :: rest) seen takes
        else reach steps before after fuel rest seen takes
      | some (.fork first second) =>
        reach steps before after fuel (first :: second :: rest) seen takes

def reachAll (p : Program) (before after : Option Char) (places : List Nat) : Reach :=
  reach p.steps before after (places.length + 2 * p.steps.size + 2) (p.start :: places)
    (Array.replicate p.steps.size false) []

/-- Searches the rest of a text, from the places that a match may have come to. -/
def search (p : Program) (before : Option Char) (places : List Nat) : List Char → Bool
  | [] => (reachAll p before none places).accepted
  | c :: rest =>
    let found := reachAll p before (some c) places
    found.accepted ||
      search p (some c)
        (found.takes.filterMap fun (chars, next) => if chars.contains c then some next else none)
        rest

def isMatch (p : Program) (text : String) : Bool := search p none [] text.toList

end Program

end RecordQuery.Pattern
