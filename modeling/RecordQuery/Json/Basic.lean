import RecordQuery.Binary64.Basic

/-!
JSON documents as trees.

An object keeps its fields in the order in which the document gives them, repeated names
included; who reads an object says what a repetition means.
-/

namespace RecordQuery

/-- A number of a document: an integer of 64 bits, with or without sign, if it was written as one
and is small enough, or else the floating point number it stands for. There is no number that is
not finite. -/
inductive Json.Number where
  | integer (n : Int) (bounds : -2 ^ 63 ≤ n ∧ n < 2 ^ 64)
  | real (x : Binary64) (finite : x.isFinite = true)
deriving DecidableEq

inductive Json where
  | null
  | bool (b : Bool)
  | number (n : Json.Number)
  | string (text : String)
  | array (items : List Json)
  | object (fields : List (String × Json))

namespace Json

instance : Inhabited Json := ⟨null⟩

def Number.ofInt? (n : Int) : Option Number :=
  if h : -2 ^ 63 ≤ n ∧ n < 2 ^ 64 then some (.integer n h) else none

/-- A floating point number as a number of a document, if it is finite. -/
def Number.ofReal? (x : Binary64) : Option Number :=
  if h : x.isFinite = true then some (.real x h) else none

inductive Kind where
  | null
  | bool
  | number
  | string
  | array
  | object
deriving DecidableEq

def Kind.name : Kind → String
  | null => "null"
  | bool => "bool"
  | number => "number"
  | string => "string"
  | array => "array"
  | object => "object"

def kind : Json → Kind
  | null => .null
  | bool _ => .bool
  | number _ => .number
  | string _ => .string
  | array _ => .array
  | object _ => .object

end Json

end RecordQuery
