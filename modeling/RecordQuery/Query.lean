import RecordQuery.Clause

/-!
Queries: filters that a record has to pass, all of them, and sorts by which the records that pass
are put in order, the first sort counting most.

A query is built from clauses against a record schema. What is built runs without errors on
records of that schema, but for a NaN under an attribute that it sorts by.
-/

namespace RecordQuery

structure Query where
  filters : List BoundFilter
  sorts : List BoundSort

structure QueryClauses where
  filters : List Filter
  sorts : List SortKey

namespace QueryClauses

def bindFilter (schema : RecordSchema) (filter : Filter) : Except QueryError BoundFilter :=
  match schema.require filter.name with
  | .error e => .error e
  | .ok s => filter.bind s

def bindSort (schema : RecordSchema) (key : SortKey) : Except QueryError BoundSort :=
  match schema.require key.name with
  | .error e => .error e
  | .ok s => key.bind s

/-- Binds all clauses, the filters before the sorts; the first fault counts. -/
def build (clauses : QueryClauses) (schema : RecordSchema) : Except QueryError Query :=
  match mapOk (bindFilter schema) clauses.filters with
  | .error e => .error e
  | .ok filters =>
    match mapOk (bindSort schema) clauses.sorts with
    | .error e => .error e
    | .ok sorts => .ok ⟨filters, sorts⟩

end QueryClauses

/-- The members of a list that pass a test that may fail; the first error counts. -/
def filterOk {ε α : Type} (test : α → Except ε Bool) : List α → Except ε (List α)
  | [] => .ok []
  | x :: rest =>
    match test x with
    | .error e => .error e
    | .ok keep =>
      match filterOk test rest with
      | .error e => .error e
      | .ok others => .ok (if keep then x :: others else others)

def compareRecords : List BoundSort → Record → Record → Ordering
  | [], _, _ => .eq
  | bound :: rest, a, b => (bound.compareRecords a b).then (compareRecords rest a b)

/-- What a change leaves of a state that is its own: nothing, when it fails. -/
def finalState {ε σ : Type} (change : EStateM ε σ Unit) (s : σ) : Except ε σ :=
  match change.run s with
  | .ok () after => .ok after
  | .error e _ => .error e

namespace Query

def clauses (q : Query) : QueryClauses := ⟨q.filters.map (·.filter), q.sorts.map (·.key)⟩

/-- Whether a record passes all filters; those after the first that it does not pass are not
tried. -/
def accepts (q : Query) (record : Record) : Except QueryError Bool :=
  liftEngine (allOk (·.accepts record) q.filters)

def checkRecords (q : Query) (records : List Record) : Except EngineError Unit :=
  checkAll (fun record => checkAll (·.checkRecord record) q.sorts) records

/-- Puts the records in the order of the sorts, those equal in it in their old places. Every value
is checked before any record moves. -/
def sort (q : Query) : EStateM QueryError (List Record) Unit := do
  MonadExcept.ofExcept (liftEngine (q.checkRecords (← get)))
  modify fun records => records.mergeSort fun a b => (compareRecords q.sorts a b).isLE

def apply (q : Query) (records : List Record) : Except QueryError (List Record) :=
  match filterOk q.accepts records with
  | .error e => .error e
  | .ok selected => finalState q.sort selected

end Query

end RecordQuery
