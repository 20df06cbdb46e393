import RecordQuery.Json.Convention
import RecordQuery.Mode
import RecordQuery.Schema

/-!
Schemas, type tags and modes in documents.
-/

namespace RecordQuery

open Json (Convention)

def TypeTag.ofJson? (convention : Convention) (tree : Json) : Option TypeTag :=
  (convention.bareName? tree).bind TypeTag.ofId?

def TypeTag.toJson (t : TypeTag) : Json := .string t.id

/-- Any string is a mode. -/
def Mode.ofJson? (tree : Json) : Option Mode := tree.asString?.map Mode.parse

def Mode.toJson (m : Mode) : Json := .string m.id

namespace Schema

def scalar? : String → Option Schema
  | "string" => some string
  | "bool" => some bool
  | "int" => some int
  | "float" => some float
  | _ => none

/-- A scalar is its name; a collection is an object with its name over the element schema. -/
def ofJson? (convention : Convention) : Json → Option Schema
  | .string name => scalar? name
  | .object [("list", element)] => (ofJson? convention element).map list
  | .object [("set", element)] => (ofJson? convention element).map set
  | .object [(name, payload)] => if convention.isNothing payload then scalar? name else none
  | _ => none

def toJson : Schema → Json
  | list element => .object [("list", element.toJson)]
  | set element => .object [("set", element.toJson)]
  | s => .string s.tag.id

/-- Reading what was written gives the schema back, in every kind of document. -/
theorem ofJson?_toJson (convention : Convention) (s : Schema) :
    ofJson? convention s.toJson = some s := by
  induction s with
  | list e ih => simp [toJson, ofJson?, ih]
  | set e ih => simp [toJson, ofJson?, ih]
  | _ => rfl

end Schema

end RecordQuery
