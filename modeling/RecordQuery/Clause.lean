import RecordQuery.Matching
import RecordQuery.Ordering
import RecordQuery.Record

/-!
Filter and sort clauses, as they are declared and as they are bound to the type of their
attribute.

Binding finds what is wrong with a clause before any record is looked at: a filter without
operands, an operand of the wrong type, a bad pattern, a sort by a collection. Where the mode asks
for regular expressions, binding turns the texts among the operands into patterns.
-/

namespace RecordQuery

/-- Asks of an attribute that it match some of the operands, or all of them. -/
structure Filter where
  name : String
  operands : List Operand
  mode : Mode
  all : Bool

inductive Direction where
  | asc
  | desc
deriving DecidableEq

namespace Direction

def id : Direction → String
  | asc => "asc"
  | desc => "desc"

def ofId? : String → Option Direction
  | "asc" => some asc
  | "desc" => some desc
  | _ => none

def ofJson? (convention : Json.Convention) (tree : Json) : Option Direction :=
  (convention.bareName? tree).bind ofId?

def toJson (d : Direction) : Json := .string d.id

def apply : Direction → Ordering → Ordering
  | asc, ordering => ordering
  | desc, ordering => ordering.swap

end Direction

structure SortKey where
  name : String
  direction : Direction
deriving DecidableEq

structure BoundFilter where
  filter : Filter
  schema : Schema

structure BoundSort where
  key : SortKey
  schema : Schema

/-! ### Filters -/

/-- Whether a mode means something else than equality for a scalar type. -/
def Mode.isSupported : Schema → Mode → Bool
  | _, .equals => true
  | .string, mode => mode.isTextual
  | .int, mode | .float, mode => mode.isRelational
  | _, _ => false

namespace Filter

def wantsPatterns (mode : Mode) (scalar : Schema) : Bool := mode = .regex && scalar = .string

def bindOperand (scalar : Schema) (patterns : Bool) (operand : Operand) :
    Except EngineError Operand :=
  match patterns, operand with
  | true, .literal (.string source) => Operand.ofPattern source
  | true, .pattern p => .ok (.pattern p)
  | _, .literal value =>
    if value.conforms scalar then .ok operand
    else .error (.typeMismatch (expected scalar patterns) operand.typeName)
  | _, .pattern _ => .error (.typeMismatch (expected scalar patterns) operand.typeName)
where
  expected (scalar : Schema) (patterns : Bool) : TypeName :=
    if patterns then .pattern else .value scalar.tag

def bind (filter : Filter) (schema : Schema) : Except QueryError BoundFilter :=
  if filter.operands.isEmpty then .error (.emptyFilter filter.name)
  else
    let scalar := schema.scalar
    match mapOk (bindOperand scalar (wantsPatterns filter.mode scalar)) filter.operands with
    | .error e => .error (.engine e)
    | .ok operands => .ok ⟨{ filter with operands }, schema⟩

end Filter

/-- Whether a record passes the filter. A record without the attribute does not; else operands
are tried in order, and no more of them than are needed. -/
def BoundFilter.accepts (bound : BoundFilter) (record : Record) : Except EngineError Bool :=
  match record.get? bound.filter.name with
  | none => .ok false
  | some value =>
    let test (operand : Operand) := matchValue bound.schema value operand bound.filter.mode
    if bound.filter.all then allOk test bound.filter.operands
    else anyOk test bound.filter.operands

/-! ### Sorts -/

/-- Binds a sort to the type of its attribute, which has to be a scalar. -/
def SortKey.bind (key : SortKey) (schema : Schema) : Except QueryError BoundSort :=
  if schema.isOrderable then .ok ⟨key, schema⟩
  else .error (.engine (.unorderable schema.tag))

namespace BoundSort

/-- The order of two records by one sort. A record without the attribute comes after those with
it, in either direction. -/
def compareRecords (bound : BoundSort) (a b : Record) : Ordering :=
  match a.get? bound.key.name, b.get? bound.key.name with
  | some left, some right => bound.key.direction.apply (sortOrder left right)
  | some _, none => .lt
  | none, some _ => .gt
  | none, none => .eq

/-- Whether the value that a record has for the sort, if it has one, can be ordered. -/
def checkRecord (bound : BoundSort) (record : Record) : Except EngineError Unit :=
  match record.get? bound.key.name with
  | some value => checkOrderable bound.schema value
  | none => .ok ()

end BoundSort

end RecordQuery
