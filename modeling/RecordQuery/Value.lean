import RecordQuery.Binary64.Basic
import RecordQuery.Schema

/-!
Values: what records hold.

A set keeps its elements in a list, in the order in which it was given them and with repetitions
if it was given some; equality of sets does not look at that order. Equality takes floats by
value, so a value that contains a NaN does not equal itself.
-/

namespace RecordQuery

inductive Value where
  | string (text : String)
  | bool (b : Bool)
  | int (n : Int64)
  | float (x : Binary64)
  | list (items : List Value)
  | set (items : List Value)

/-- The list without its first element that satisfies the test, if one does. -/
def removeFirst? {α : Type} (p : α → Bool) : List α → Option (List α)
  | [] => none
  | x :: rest => if p x then some rest else (removeFirst? p rest).map (x :: ·)

namespace Value

instance : Inhabited Value := ⟨.bool false⟩

def tag : Value → TypeTag
  | string _ => .string
  | bool _ => .bool
  | int _ => .int
  | float _ => .float
  | list _ => .list
  | set _ => .set

def asString? : Value → Option String
  | string text => some text
  | _ => none

def asBool? : Value → Option Bool
  | bool b => some b
  | _ => none

def asInt? : Value → Option Int64
  | int n => some n
  | _ => none

def asFloat? : Value → Option Binary64
  | float x => some x
  | _ => none

def elements? : Value → Option (List Value)
  | list items | set items => some items
  | _ => none

def conforms : Schema → Value → Bool
  | .string, string _ | .bool, bool _ | .int, int _ | .float, float _ => true
  | .list element, list items | .set element, set items => items.all (conforms element)
  | _, _ => false

/-! ### Equality -/

mutual

/-- Equality of values: floats by value, lists element by element, sets as multisets. -/
def eqv : Value → Value → Bool
  | string a, string b => a == b
  | bool a, bool b => a == b
  | int a, int b => a == b
  | float a, float b => a.eqv b
  | list a, list b => eqvList a b
  | set a, set b => eqvSet a b
  | _, _ => false

def eqvList : List Value → List Value → Bool
  | [], [] => true
  | a :: as, b :: bs => a.eqv b && eqvList as bs
  | _, _ => false

/-- Pairs each element of the first list with the first element of the second that is equal to
it and not yet taken. -/
def eqvSet : List Value → List Value → Bool
  | [], bs => bs.isEmpty
  | a :: as, bs =>
    match removeFirst? (a.eqv ·) bs with
    | some rest => eqvSet as rest
    | none => false

end

/-- The list without the elements that equal an earlier one. -/
def distinct (items : List Value) : List Value :=
  items.foldl (fun seen v => if seen.any (·.eqv v) then seen else seen ++ [v]) []

@[simp] theorem eqvList_nil : eqvList [] [] = true := by simp [eqvList]

@[simp] theorem eqvSet_nil (bs : List Value) : eqvSet [] bs = bs.isEmpty := by simp [eqvSet]

theorem tag_eq_of_conforms {s : Schema} {v : Value} (h : conforms s v = true) :
    v.tag = s.tag := by
  cases s <;> cases v <;> first | rfl | simp [conforms] at h

end Value

end RecordQuery
