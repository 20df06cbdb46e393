import RecordQuery.Json.Basic

/-!
How documents write things that are not plain data: bare names, names with a payload, and
structures with named fields.

A structure may be written as an object, each field once at most and no others, or as an array of
its fields in their order. A bare name may be written as a string, or as an object with the name
over nothing. What counts as nothing, and whether an array may go on after the fields, depends on
the kind of document.
-/

namespace RecordQuery.Json

structure Convention where
  isNothing : Json → Bool
  toleratesMoreItems : Bool

namespace Convention

/-- The convention of JSON: null is nothing, and an array holds the fields and no more. -/
def strict : Convention where
  isNothing
    | .null => true
    | _ => false
  toleratesMoreItems := false

/-- The convention of documents without null: an empty array or table is nothing, and items after
the fields are passed over. -/
def tabular : Convention where
  isNothing
    | .array [] | .object [] => true
    | _ => false
  toleratesMoreItems := true

def bareName? (convention : Convention) : Json → Option String
  | .string name => some name
  | .object [(name, payload)] => if convention.isNothing payload then some name else none
  | _ => none

/-- The values of named fields, in the order of the names, for a tree that writes a structure. -/
def fields? (convention : Convention) (names : List String) : Json → Option (List (Option Json))
  | .object fields =>
    let given := fields.map (·.1)
    if given.all names.contains && given.eraseDups.length == given.length then
      some (names.map fun name => fields.lookup name)
    else none
  | .array items =>
    if items.length ≤ names.length || convention.toleratesMoreItems then
      some ((List.range names.length).map fun i => items[i]?)
    else none
  | _ => none

end Convention

def asString? : Json → Option String
  | string text => some text
  | _ => none

def asBool? : Json → Option Bool
  | bool b => some b
  | _ => none

def asArray? : Json → Option (List Json)
  | array items => some items
  | _ => none

end RecordQuery.Json
