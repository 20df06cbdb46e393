import RecordQuery.Json.Reader
import RecordQuery.Json.Writer
import RecordQuery.Query
import RecordQuery.Toml.Reader

/-!
Queries in documents.

A document declares attributes and gives filters and sorts over them. The operands of its filters
stay raw until the document is compiled, which decodes them against the scalar type of their
attribute and builds the query.
-/

namespace RecordQuery

open Json (Convention)

structure RawFilter where
  name : String
  operands : List Json
  mode : Mode
  all : Bool

structure QueryDocument where
  schema : RecordSchema
  filters : List RawFilter
  sorts : List SortKey

/-- A field that is read if it is there and has a default if it is not. -/
def fieldOr {α : Type} (default : α) (read : Json → Option α) : Option Json → Option α
  | none => some default
  | some tree => read tree

namespace RawFilter

def fieldNames : List String := ["attribute", "values", "match_by", "all"]

def ofJson? (convention : Convention) (tree : Json) : Option RawFilter := do
  match ← convention.fields? fieldNames tree with
  | [name, operands, mode, all] =>
    some {
      name := ← name.bind Json.asString?
      operands := ← operands.bind Json.asArray?
      mode := ← fieldOr .equals Mode.ofJson? mode
      all := ← fieldOr false Json.asBool? all }
  | _ => none

def toJson (f : RawFilter) : Json := .object [
  ("attribute", .string f.name),
  ("values", .array f.operands),
  ("match_by", f.mode.toJson),
  ("all", .bool f.all)]

end RawFilter

namespace SortKey

def fieldNames : List String := ["attribute", "direction"]

def ofJson? (convention : Convention) (tree : Json) : Option SortKey := do
  match ← convention.fields? fieldNames tree with
  | [name, direction] =>
    some {
      name := ← name.bind Json.asString?
      direction := ← fieldOr .asc (Direction.ofJson? convention) direction }
  | _ => none

def toJson (key : SortKey) : Json := .object [
  ("attribute", .string key.name),
  ("direction", key.direction.toJson)]

end SortKey

namespace QueryDocument

def fieldNames : List String := ["schema", "filter", "sort"]

def arrayOf? {α : Type} (read : Json → Option α) (tree : Json) : Option (List α) :=
  tree.asArray?.bind fun items => items.mapM read

def ofJson? (convention : Convention) (tree : Json) : Option QueryDocument := do
  match ← convention.fields? fieldNames tree with
  | [schema, filters, sorts] =>
    some {
      schema := ← fieldOr .empty (RecordSchema.ofJson? convention) schema
      filters := ← fieldOr [] (arrayOf? (RawFilter.ofJson? convention)) filters
      sorts := ← fieldOr [] (arrayOf? (SortKey.ofJson? convention)) sorts }
  | _ => none

/-- The document tree, with all defaults written out. -/
def toJson (d : QueryDocument) : Json := .object [
  ("schema", d.schema.toJson),
  ("filter", .array (d.filters.map RawFilter.toJson)),
  ("sort", .array (d.sorts.map SortKey.toJson))]

/-- The document with its raw operands in their canonical form. -/
def canonical (d : QueryDocument) : QueryDocument :=
  { d with filters := d.filters.map fun f => { f with operands := f.operands.map Json.canonical } }

def text (d : QueryDocument) : String := d.canonical.toJson.text

/-! ### Reading -/

def ofTree (convention : Convention) (tree : Option Json) : Except QueryError QueryDocument :=
  match tree.bind (ofJson? convention) with
  | some d => .ok d
  | none => .error .malformed

def parseJson (text : String) : Except QueryError QueryDocument :=
  ofTree .strict (Json.parse? text)

def parseToml (text : String) : Except QueryError QueryDocument :=
  ofTree .tabular (Toml.parse? text)

/-! ### Compiling -/

/-- The filter with its operands decoded against the scalar type of its attribute. -/
def decodeFilter (schema : RecordSchema) (f : RawFilter) : Except QueryError Filter :=
  match schema.require f.name with
  | .error e => .error e
  | .ok s =>
    match mapOk (decodeValue s.scalar) f.operands with
    | .error e => .error (.undecodable f.name e)
    | .ok values => .ok ⟨f.name, values.map .literal, f.mode, f.all⟩

def clauses (d : QueryDocument) : Except QueryError QueryClauses :=
  match mapOk (decodeFilter d.schema) d.filters with
  | .error e => .error e
  | .ok filters => .ok ⟨filters, d.sorts⟩

/-- The query of the document. All filters are decoded before any clause is bound. -/
def compile (d : QueryDocument) : Except QueryError Query :=
  match d.clauses with
  | .error e => .error e
  | .ok clauses => clauses.build d.schema

/-- The query of the document and its schema, so that records can be decoded by the declarations
that the query is bound to. -/
def compileWithSchema (d : QueryDocument) : Except QueryError (RecordSchema × Query) :=
  d.compile.map fun q => (d.schema, q)

end QueryDocument

end RecordQuery
