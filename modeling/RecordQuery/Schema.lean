/-!
Schemas: the types that attributes are declared with.

A schema is a scalar type or a list or set over a schema. Its tag is its outermost shape, and its
scalar is the type at the bottom of all lists and sets.
-/

namespace RecordQuery

/-- The outermost shape of a value or of a schema. -/
inductive TypeTag where
  | string
  | bool
  | int
  | float
  | list
  | set
deriving DecidableEq

namespace TypeTag

/-- All tags, in the order in which values of different types are sorted. -/
def all : List TypeTag := [.string, .bool, .int, .float, .list, .set]

def rank : TypeTag → Nat
  | string => 0
  | bool => 1
  | int => 2
  | float => 3
  | list => 4
  | set => 5

def name : TypeTag → String
  | string => "String"
  | bool => "Bool"
  | int => "Int"
  | float => "Float"
  | list => "List"
  | set => "Set"

def id : TypeTag → String
  | string => "string"
  | bool => "bool"
  | int => "int"
  | float => "float"
  | list => "list"
  | set => "set"

def ofId? : String → Option TypeTag
  | "string" => some string
  | "bool" => some bool
  | "int" => some int
  | "float" => some float
  | "list" => some list
  | "set" => some set
  | _ => none

def isCollection : TypeTag → Bool
  | list | set => true
  | _ => false

/-- Only scalars have an order. -/
def isOrderable (t : TypeTag) : Bool := !t.isCollection

theorem all_getElem?_rank (t : TypeTag) : all[t.rank]? = some t := by cases t <;> rfl

end TypeTag

inductive Schema where
  | string
  | bool
  | int
  | float
  | list (element : Schema)
  | set (element : Schema)
deriving DecidableEq

namespace Schema

def tag : Schema → TypeTag
  | string => .string
  | bool => .bool
  | int => .int
  | float => .float
  | list _ => .list
  | set _ => .set

def element? : Schema → Option Schema
  | list element | set element => some element
  | _ => none

/-- The type below all lists and sets. -/
def scalar : Schema → Schema
  | list element | set element => element.scalar
  | s => s

def depth : Schema → Nat
  | list element | set element => element.depth + 1
  | _ => 0

def isOrderable (s : Schema) : Bool := s.tag.isOrderable

/-- The name of the type, collections with the element type in angle brackets. -/
def display : Schema → String
  | list element => "List<" ++ element.display ++ ">"
  | set element => "Set<" ++ element.display ++ ">"
  | s => s.tag.name

theorem isOrderable_scalar (s : Schema) : s.scalar.isOrderable = true := by
  induction s with
  | list _ ih => exact ih
  | set _ ih => exact ih
  | _ => rfl

end Schema

end RecordQuery
