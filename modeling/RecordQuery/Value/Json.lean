import RecordQuery.Binary64.Rounding
import RecordQuery.Json.Basic
import RecordQuery.Value

/-!
Values in documents: an object with the name of the type over what the value holds.

Documents have no numbers that are not finite. Floats that are not are written as null, and null
is read as no value at all.
-/

namespace RecordQuery.Value

def numberOfInt64 (n : Int64) : Json.Number :=
  .integer n.toInt ⟨n.le_toInt, Int.lt_trans n.toInt_lt (by decide)⟩

mutual

def toJson : Value → Json
  | string text => .object [("String", .string text)]
  | bool b => .object [("Bool", .bool b)]
  | int n => .object [("Int", .number (numberOfInt64 n))]
  | float x => .object [("Float", ((Json.Number.ofReal? x).map .number).getD .null)]
  | list items => .object [("List", .array (listToJson items))]
  | set items => .object [("Set", .array (listToJson items))]

def listToJson : List Value → List Json
  | [] => []
  | v :: rest => v.toJson :: listToJson rest

end

def int64? (n : Int) : Option Int64 :=
  if -2 ^ 63 ≤ n ∧ n < 2 ^ 63 then some (Int64.ofInt n) else none

/-- A number of a document as a float; an integer gives the float nearest to it. -/
def floatOfNumber : Json.Number → Binary64
  | .integer n _ => Binary64.ofInt n
  | .real x _ => x

mutual

def ofJson? : Json → Option Value
  | .object [(name, payload)] =>
    match name, payload with
    | "String", .string text => some (string text)
    | "Bool", .bool b => some (bool b)
    | "Int", .number (.integer n _) => (int64? n).map int
    | "Float", .number n => some (float (floatOfNumber n))
    | "List", .array items => (listOfJson? items).map list
    | "Set", .array items => (listOfJson? items).map set
    | _, _ => none
  | _ => none

def listOfJson? : List Json → Option (List Value)
  | [] => some []
  | tree :: rest => do
    let v ← ofJson? tree
    let others ← listOfJson? rest
    some (v :: others)

end

end RecordQuery.Value
