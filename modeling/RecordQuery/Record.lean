import RecordQuery.NameMap
import RecordQuery.QueryError
import RecordQuery.Schema.Json
import RecordQuery.Value.Json

/-!
Records and the schemas they are declared with.

A record holds values under the names of its attributes. A record schema says of which type each
attribute is; an attribute that is declared may be missing from a record, but a record has no
others. Raw documents are decoded against the schema, and records that come from elsewhere are
checked against it.
-/

namespace RecordQuery

abbrev Record := NameMap Value

abbrev RecordSchema := NameMap Schema

/-! ### Decoding -/

/-- The value that a document tree has under a schema. Nothing is converted: a number with a
fraction or an exponent is no integer, and a name is no set of one name. A set keeps the first of
equal elements. -/
def decodeValue : Schema → Json → Except EngineError Value
  | .string, .string text => .ok (.string text)
  | .bool, .bool b => .ok (.bool b)
  | .int, .number (.integer n _) =>
    match Value.int64? n with
    | some n => .ok (.int n)
    | none => .error (.invalidInput (.tooLarge n))
  | .int, .number (.real x _) => .error (.invalidInput (.notWhole x))
  | .float, .number n => .ok (.float (Value.floatOfNumber n))
  | .list element, .array items => (mapOk (decodeValue element) items).map .list
  | .set element, .array items =>
    (mapOk (decodeValue element) items).map fun values => .set (Value.distinct values)
  | schema, tree => .error (.typeMismatch (.value schema.tag) (.document tree.kind))

namespace RecordSchema

/-- The type of an attribute that has to be declared. -/
def require (schema : RecordSchema) (name : String) : Except QueryError Schema :=
  match schema.get? name with
  | some s => .ok s
  | none => .error (.unknownAttribute name)

/-- Decodes the fields of an object in order into a record; a field with null is left out. -/
def decodeFields (schema : RecordSchema) :
    Record → List (String × Json) → Except QueryError Record
  | record, [] => .ok record
  | record, (name, tree) :: rest =>
    match schema.require name with
    | .error e => .error e
    | .ok s =>
      match tree with
      | .null => decodeFields schema record rest
      | tree =>
        match decodeValue s tree with
        | .error e => .error (.undecodable name e)
        | .ok value => decodeFields schema (record.insert name value) rest

/-- The record that an object writes. The fields are decoded in the order of their names, the
last one where a name is repeated. -/
def decodeRecord (schema : RecordSchema) : Json → Except QueryError Record
  | .object fields => schema.decodeFields .empty (NameMap.ofList fields).entries
  | tree => .error (.undecodable "<record>" (.typeMismatch .object (.document tree.kind)))

/-! ### Checking -/

def checkEntry (schema : RecordSchema) (entry : String × Value) : Except QueryError Unit :=
  match schema.require entry.1 with
  | .error e => .error e
  | .ok s =>
    if entry.2.conforms s then .ok ()
    else .error (.undecodable entry.1 (.mismatch s.tag entry.2.tag))

def checkEntries (schema : RecordSchema) : List (String × Value) → Except QueryError Unit
  | [] => .ok ()
  | entry :: rest =>
    match schema.checkEntry entry with
    | .error e => .error e
    | .ok () => checkEntries schema rest

def validateRecord (schema : RecordSchema) (record : Record) : Except QueryError Unit :=
  schema.checkEntries record.entries

/-! ### In documents -/

def entriesOfJson? (convention : Json.Convention) :
    List (String × Json) → Option (List (String × Schema))
  | [] => some []
  | (name, tree) :: rest => do
    let s ← Schema.ofJson? convention tree
    let others ← entriesOfJson? convention rest
    some ((name, s) :: others)

def ofJson? (convention : Json.Convention) : Json → Option RecordSchema
  | .object fields => (entriesOfJson? convention fields).map NameMap.ofList
  | _ => none

def toJson (schema : RecordSchema) : Json :=
  .object (schema.entries.map fun (name, s) => (name, s.toJson))

end RecordSchema

end RecordQuery
