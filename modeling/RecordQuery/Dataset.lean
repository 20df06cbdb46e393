import RecordQuery.QueryDocument

/-!
Datasets: records in the order in which they came, with the schema that all of them follow.

Records come in through the schema only, so every record that a query sees is of the types that
the schema declares. What changes a dataset in place is a program over it: what it has done by the
time of an error stays.
-/

namespace RecordQuery

inductive DatasetError where
  | query (error : QueryError)
  | malformed
  | conflict (name : String) (declared held : Schema)
deriving DecidableEq

/-- The message. What is wrong with a malformed document is not told. -/
def DatasetError.message? : DatasetError → Option String
  | query error => error.message?
  | malformed => none
  | conflict name declared held =>
    some ("configuration error: attribute " ++ name ++ " declared as " ++ declared.display
      ++ " but dataset holds " ++ held.display)

structure Dataset where
  schema : RecordSchema
  records : List Record

namespace Dataset

def empty (schema : RecordSchema) : Dataset := ⟨schema, []⟩

def size (d : Dataset) : Nat := d.records.length

def push (d : Dataset) (record : Record) : Dataset :=
  { d with records := d.records ++ [record] }

def liftQuery {α : Type} : Except QueryError α → Except DatasetError α
  | .ok x => .ok x
  | .error e => .error (.query e)

def insert (record : Record) : EStateM DatasetError Dataset Unit := do
  MonadExcept.ofExcept (liftQuery ((← get).schema.validateRecord record))
  modify (·.push record)

def insertTree (tree : Json) : EStateM DatasetError Dataset Unit := do
  let record ← MonadExcept.ofExcept (liftQuery ((← get).schema.decodeRecord tree))
  modify (·.push record)

def insertJson (text : String) : EStateM DatasetError Dataset Unit :=
  match Json.parse? text with
  | none => throw .malformed
  | some tree => insertTree tree

/-- The dataset of the records in a JSON array. They are inserted one by one into a dataset that
is lost at the first error. -/
def ofJson (schema : RecordSchema) (text : String) : Except DatasetError Dataset :=
  match (Json.parse? text).bind Json.asArray? with
  | none => .error .malformed
  | some trees => finalState (trees.forM insertTree) (empty schema)

def select (d : Dataset) (q : Query) : Except DatasetError (List Record) :=
  liftQuery (q.apply d.records)

/-- Adds declarations to a schema that declares none of their attributes otherwise; the first
attribute that it does declare otherwise is a conflict. -/
def addDeclarations : RecordSchema → List (String × Schema) → Except DatasetError RecordSchema
  | schema, [] => .ok schema
  | schema, (name, held) :: rest =>
    match schema.get? name with
    | none => addDeclarations (schema.insert name held) rest
    | some declared =>
      if declared = held then addDeclarations schema rest
      else .error (.conflict name declared held)

/-- The records that the query of a document selects. The document may leave out declarations of
the dataset and may add others, but may not change any. -/
def selectDocument (d : Dataset) (document : QueryDocument) : Except DatasetError (List Record) :=
  match addDeclarations document.schema d.schema.entries with
  | .error e => .error e
  | .ok schema =>
    match { document with schema }.compile with
    | .error e => .error (.query e)
    | .ok q => d.select q

def selectToml (d : Dataset) (text : String) : Except DatasetError (List Record) :=
  match QueryDocument.parseToml text with
  | .error e => .error (.query e)
  | .ok document => d.selectDocument document

end Dataset

inductive Command where
  | load (text : String)
  | insert (record : Record)
  | insertTree (tree : Json)
  | insertJson (text : String)
  | select (q : Query)
  | selectToml (text : String)

namespace Command

/-- Does a command to a dataset, and gives the records that it selects. -/
def step (schema : RecordSchema) : Command → EStateM DatasetError Dataset (List Record)
  | load text => do
    set (← MonadExcept.ofExcept (Dataset.ofJson schema text))
    return []
  | insert record => do
    Dataset.insert record
    return []
  | insertTree tree => do
    Dataset.insertTree tree
    return []
  | insertJson text => do
    Dataset.insertJson text
    return []
  | select q => do MonadExcept.ofExcept ((← get).select q)
  | selectToml text => do MonadExcept.ofExcept ((← get).selectToml text)

/-- The dataset that a command leaves, whether it fails or not. -/
def stateAfter (schema : RecordSchema) (d : Dataset) (c : Command) : Dataset :=
  match (c.step schema).run d with
  | .ok _ left => left
  | .error _ left => left

def run (schema : RecordSchema) (commands : List Command) : Dataset :=
  commands.foldl (stateAfter schema) (Dataset.empty schema)

end Command

end RecordQuery
