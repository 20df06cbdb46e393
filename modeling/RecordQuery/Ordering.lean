import RecordQuery.Binary64.Rounding
import RecordQuery.EngineError
import RecordQuery.Value

/-!
Two orders of values.

`compareValues` is the order that a reader sees: scalars of one type have it, and floats within
the tolerance of each other are equal in it. That makes equality a relation that does not carry
over from one pair to the next, so sorting uses `sortOrder`, which is finer, is total on all
values, and agrees with `compareValues` wherever that says less or greater.
-/

namespace RecordQuery

def pairMismatch (expected : TypeTag) (left right : Value) : EngineError :=
  .mismatch expected (if left.tag = expected then right.tag else left.tag)

def compareFloats (a b : Binary64) : Except EngineError Ordering :=
  match a.compareValue? b with
  | none => .error (.invalidInput .unordered)
  | some ordering => .ok (if a.near b then .eq else ordering)

def compareValues : Schema → Value → Value → Except EngineError Ordering
  | .string, .string a, .string b => .ok (compare a b)
  | .bool, .bool a, .bool b => .ok (compare a b)
  | .int, .int a, .int b => .ok (compare a.toInt b.toInt)
  | .float, .float a, .float b => compareFloats a b
  | .list _, _, _ => .error (.unorderable .list)
  | .set _, _, _ => .error (.unorderable .set)
  | schema, left, right => .error (pairMismatch schema.tag left right)

def orderSign : Ordering → Int
  | .lt => -1
  | .eq => 0
  | .gt => 1

def compareSign (schema : Schema) (left right : Value) : Except EngineError Int :=
  (compareValues schema left right).map orderSign

/-- A total order on all values. Values of different types go by their types; two lists, or two
sets, are equal in it. -/
def sortOrder : Value → Value → Ordering
  | .string a, .string b => compare a b
  | .bool a, .bool b => compare a b
  | .int a, .int b => compare a.toInt b.toInt
  | .float a, .float b => a.compareTotal b
  | a, b => compare a.tag.rank b.tag.rank

/-- Whether a value can be ordered under a schema: the schema is a scalar, the value is of its
type, and it is not a NaN. -/
def checkOrderable (schema : Schema) (value : Value) : Except EngineError Unit :=
  if !schema.isOrderable then .error (.unorderable schema.tag)
  else if !value.conforms schema then .error (.mismatch schema.tag value.tag)
  else
    match value with
    | .float x => if x.isNaN then .error (.invalidInput .unordered) else .ok ()
    | _ => .ok ()

def checkAll {ε α : Type} (check : α → Except ε Unit) : List α → Except ε Unit
  | [] => .ok ()
  | x :: rest =>
    match check x with
    | .ok () => checkAll check rest
    | .error e => .error e

/-- The values in rising order; values equal in it keep their places. -/
def sortValues (schema : Schema) (values : List Value) : Except EngineError (List Value) :=
  if !schema.isOrderable then .error (.unorderable schema.tag)
  else
    match checkAll (checkOrderable schema) values with
    | .error e => .error e
    | .ok () => .ok (values.mergeSort fun a b => (sortOrder a b).isLE)

/-- The same, done to the values in place: whatever has been done to them by the time of an error
stays. -/
def sortInPlace (schema : Schema) : EStateM EngineError (List Value) Unit := do
  if !schema.isOrderable then throw (.unorderable schema.tag)
  MonadExcept.ofExcept (checkAll (checkOrderable schema) (← get))
  modify fun values => values.mergeSort fun a b => (sortOrder a b).isLE

end RecordQuery
