import RecordQuery.Pattern.ByteRanges
import RecordQuery.Pattern.Words

/-!
The memory that a pattern may take.

A pattern is affordable if it is searched for as words, or if the automata that read its bytes
forward and backward take ten mebibytes each at most. An automaton is laid out state after state:
a state takes 32 bytes, each way out of a choice four more, and each range of bytes in a state with
several eight more. Repetitions are laid out copy by copy, so the layout stops as soon as the room
is used up.

The states of a set are shared: forward if they have the same ways out, backward if they read the
same bytes and go on alike. What has been laid out is looked up in a table in which every key has
one slot, and a key that comes to a taken slot drives out the one before; so a state may be laid
out a second time.
-/

namespace RecordQuery.Pattern

open Unicode (CharSet)

def footprintLimit : Nat := 10 * 2 ^ 20

inductive Direction where
  | forward
  | backward
deriving DecidableEq

/-! ### Plans -/

/-- What of an expression bears on the layout in one direction: parts of a fixed size, with the
number of states and the bytes that these take besides, sets of several bytes, and how they are
put together. A counted part says whether each of its matches takes something. -/
inductive Plan where
  | fixed (states extra : Nat)
  | set (sequences : List (List ByteRange))
  | row (parts : List Plan)
  | choice (parts : List Plan)
  | capture (part : Plan)
  | counted (least : Nat) (most : Option Nat) (takes : Bool) (part : Plan)

def byFirstByte : List (List UInt8) → List (UInt8 × List (List UInt8))
  | [] => []
  | [] :: words => byFirstByte words
  | (byte :: word) :: words =>
    let groups := byFirstByte words
    match groups.lookup byte with
    | none => (byte, [word]) :: groups
    | some group => (byte, word :: group) :: groups.filter (·.1 != byte)

/-- Cuts words at the empty ones, which are matches; of several matches in front, one counts. -/
def cutAtMatches (words : List (List UInt8)) : List (List (List UInt8)) :=
  let cut := cut (words.dropWhile List.isEmpty)
  if words.head?.any List.isEmpty then [] :: cut else cut
where
  cut : List (List UInt8) → List (List (List UInt8))
    | [] => [[]]
    | [] :: words => [] :: cut words
    | word :: words =>
      match cut words with
      | [] => [[word]]
      | chunk :: chunks => (word :: chunk) :: chunks

/-- The states, and the bytes that these take besides, of a choice between words that share their
starts: a state for the bytes between two matches, a choice between such states and the matches,
and the states for what follows. -/
def wordStates : Nat → List (List UInt8) → Nat × Nat
  | 0, _ => (0, 0)
  | depth + 1, words =>
    let chunks := (cutAtMatches words).map byFirstByte
    let wholes := (chunks.filter fun groups => !groups.isEmpty).map fun groups =>
      if groups.length = 1 then 0 else 8 * groups.length
    let ways := wholes.length + (chunks.length - 1)
    let below := chunks.flatten.map fun (_, rests) =>
      if rests.all List.isEmpty then (0, 0) else wordStates depth rests
    (below.foldl (fun n b => n + b.1) (wholes.length + 1),
      below.foldl (fun n b => n + b.2) (wholes.sum + 4 * ways))

namespace Regex

def wordsPlan (direction : Direction) (words : List (List UInt8)) : Plan :=
  let words := if direction = .forward then words else words.map List.reverse
  let (states, extra) := wordStates ((words.map List.length).foldl max 0) words
  .fixed (states + 1) extra

mutual

def plan (direction : Direction) : Regex → Plan
  | .empty | .place _ => .fixed 1 0
  | .literal text => .fixed (text.map Char.utf8Size).sum 0
  | .set chars =>
    if chars.isAscii then .fixed 2 (8 * chars.ranges.size) else .set (byteSequences chars)
  | .sequence items =>
    let parts := planAll direction items
    .row (if direction = .forward then parts else parts.reverse)
  | .choice branches =>
    match branches.mapM bytes? with
    | some words => wordsPlan direction words
    | none => .choice (planAll direction branches)
  | .capture body =>
    if direction = .forward then .capture (body.plan direction) else body.plan direction
  | .counted least most _ body =>
    .counted least most (body.minLength.any (0 < ·)) (body.plan direction)

def planAll (direction : Direction) : List Regex → List Plan
  | [] => []
  | item :: rest => item.plan direction :: planAll direction rest

end

end Regex

/-! ### Layouts -/

/-- What has been laid out: the number of states, the bytes taken, and for the states of sets the
last key that came to each slot, with its state. States are numbered from zero. -/
structure Layout where
  states : Nat
  bytes : Nat
  slots : Array (List Nat × Nat)

namespace Layout

def start (slots : Nat) : Layout := ⟨0, 0, Array.replicate slots ([], 0)⟩

def grow (l : Layout) (states extra : Nat) : Option Layout :=
  let bytes := l.bytes + 32 * states + extra
  if bytes ≤ footprintLimit then some { l with states := l.states + states, bytes } else none

/-- Joins a part that has been laid out to the next; a part that ends in a choice gets one more
way out. -/
def join (l : Layout) (endsInChoice : Bool) : Option Layout :=
  if endsInChoice then l.grow 0 4 else some l

def slotOf (key : List Nat) (slots : Nat) : Nat :=
  let mixed : UInt64 :=
    key.foldl (fun mixed n => (mixed ^^^ n.toUInt64) * 1099511628211) 14695981039346656037
  mixed.toNat % slots

/-- The state of a key, laid out unless its slot holds it. Keys name states of the set that is
being laid out, so what slots hold from sets before it is never taken for it. -/
def share (l : Layout) (key : List Nat) (extra : Nat) : Option (Nat × Layout) :=
  let slot := slotOf key l.slots.size
  let held := l.slots.getD slot ([], 0)
  if held.1 == key then some (held.2, l)
  else
    let state := l.states
    match l.grow 1 extra with
    | none => none
    | some ⟨states, bytes, slots⟩ =>
      some (state, ⟨states, bytes, slots.setIfInBounds slot (key, state)⟩)

/-! ### Sets -/

def byFirstRange : List (List ByteRange) → List (ByteRange × List (List ByteRange))
  | [] => []
  | [] :: sequences => byFirstRange sequences
  | (range :: sequence) :: sequences =>
    match byFirstRange sequences with
    | [] => [(range, [sequence])]
    | (first, group) :: groups =>
      if range = first then (range, sequence :: group) :: groups
      else (range, [sequence]) :: (first, group) :: groups

/-- The state that reads sequences of at most a given length forward and goes on to a given one;
the states after it come first. -/
def forwardState (next : Nat) : Nat → List (List ByteRange) → Layout → Option (Nat × Layout)
  | 0, _, l => some (next, l)
  | depth + 1, sequences, l => do
    if sequences.all List.isEmpty then return (next, l)
    let groups := byFirstRange sequences
    let (key, l) ← groups.foldlM (fun (key, l) (range, rests) => do
      let (state, l) ← forwardState next depth rests l
      return (state :: range.2 :: range.1 :: key, l)) (([] : List Nat), l)
    l.share key.reverse (8 * groups.length)

def forwardSet (l : Layout) (sequences : List (List ByteRange)) : Option Layout := do
  let next := l.states
  let (_, l) ← forwardState next 4 sequences (← l.grow 1 0)
  return l

/-- A choice between the sequences, each read from its last byte on; the states of the first bytes
come first. -/
def backwardSet (l : Layout) (sequences : List (List ByteRange)) : Option Layout := do
  let next := l.states + 1
  sequences.foldlM (fun l sequence => do
    let (_, l) ← sequence.foldlM (fun (state, l) range => share l [state, range.1, range.2] 0)
      (next, l)
    l.grow 0 4) (← l.grow 2 0)

/-! ### Expressions -/

def repeatStep {α : Type} (step : α → Option α) : Nat → α → Option α
  | 0, x => some x
  | n + 1, x =>
    match step x with
    | none => none
    | some x => repeatStep step n x

def copies (lay : Layout → Option (Bool × Layout)) (n : Nat) (l : Layout) :
    Option (Bool × Layout) := do
  if n = 0 then return (false, ← l.grow 1 0)
  repeatStep (fun (ends, l) => do
    let (next, l) ← lay l
    return (next, ← l.join ends)) (n - 1) (← lay l)

def counted (least : Nat) (most : Option Nat) (takes : Bool)
    (lay : Layout → Option (Bool × Layout)) (l : Layout) : Option (Bool × Layout) := do
  match least, most with
  | 0, some 1 =>
    let (ends, l) ← lay (← l.grow 1 0)
    return (false, ← (← l.grow 1 8).join ends)
  | 0, none =>
    if takes then
      let (ends, l) ← lay (← l.grow 1 0)
      return (true, ← (← l.grow 0 4).join ends)
    else
      let (ends, l) ← lay l
      return (false, ← (← l.grow 3 16).join ends)
  | least, none =>
    let (ends, l) ← copies lay least l
    return (true, ← (← l.grow 1 4).join ends)
  | least, some most =>
    let (ends, l) ← copies lay least l
    if least = most then return (ends, l)
    let (ends, l) ← repeatStep (fun (ends, l) => do
      let (next, l) ← lay (← l.grow 1 8)
      return (next, ← l.join ends)) (most - least) (ends, ← l.grow 1 0)
    return (false, ← l.join ends)

mutual

def lay (direction : Direction) : Plan → Layout → Option (Bool × Layout)
  | .fixed states extra, l => do return (false, ← l.grow states extra)
  | .set sequences, l => do
    return (false, ← if direction = .forward then forwardSet l sequences
      else backwardSet l sequences)
  | .row [], l => do return (false, ← l.grow 1 0)
  | .row (part :: parts), l => do
    let (ends, l) ← lay direction part l
    layRow direction parts ends l
  | .choice [], l => do return (false, ← l.grow 1 0)
  | .choice [part], l => lay direction part l
  | .choice (first :: second :: parts), l => do
    let (ends, l) ← lay direction first l
    let l ← l.join ends
    let (ends, l) ← lay direction second l
    let l ← l.join ends
    return (false, ← layBranches direction parts (← l.grow 2 8))
  | .capture part, l => do
    let (ends, l) ← lay direction part (← l.grow 1 0)
    return (false, ← (← l.grow 1 0).join ends)
  | .counted least most takes part, l => counted least most takes (lay direction part) l

def layRow (direction : Direction) : List Plan → Bool → Layout → Option (Bool × Layout)
  | [], ends, l => some (ends, l)
  | part :: parts, ends, l => do
    let (next, l) ← lay direction part l
    layRow direction parts next (← l.join ends)

def layBranches (direction : Direction) : List Plan → Layout → Option Layout
  | [], l => some l
  | part :: parts, l => do
    let (ends, l) ← lay direction part l
    layBranches direction parts (← (← l.grow 0 4).join ends)

end

end Layout

/-! ### Patterns -/

namespace Regex

/-- The layout of a whole pattern. A match may begin anywhere unless the pattern says otherwise,
which takes a loop over all bytes; forward, the match itself is a group that captures. -/
def layout? (direction : Direction) (r : Regex) : Option Layout := do
  let anchored := if direction = .forward then r.startsText else r.endsText
  let l := Layout.start (if direction = .forward then 10000 else 1000)
  let l ← if anchored then l.grow 1 0 else l.grow 3 16
  let plan := r.plan direction
  let (ends, l) ← Layout.lay direction (if direction = .forward then .capture plan else plan) l
  (← l.grow 1 0).join ends

def isAffordable (r : Regex) : Bool :=
  r.isWordSearch || ((r.layout? .forward).isSome && (r.layout? .backward).isSome)

end Regex

end RecordQuery.Pattern
