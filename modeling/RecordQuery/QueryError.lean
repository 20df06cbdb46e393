import RecordQuery.EngineError

/-!
What can be wrong with a query, a record or a query document.
-/

namespace RecordQuery

inductive QueryError where
  | engine (error : EngineError)
  | unknownAttribute (name : String)
  | emptyFilter (name : String)
  | undecodable (name : String) (error : EngineError)
  | malformed
deriving DecidableEq

/-- The message. What is wrong with a malformed document is not told. -/
def QueryError.message? : QueryError → Option String
  | engine error => some error.message
  | unknownAttribute name => some ("unknown attribute: " ++ name)
  | emptyFilter name => some ("filter on " ++ name ++ " has no values")
  | undecodable name error =>
    some ("cannot decode attribute " ++ name ++ ": " ++ error.message)
  | malformed => none

def liftEngine {α : Type} : Except EngineError α → Except QueryError α
  | .ok x => .ok x
  | .error e => .error (.engine e)

/-- Applies a function that may fail to the members of a list in order, up to the first error. -/
def mapOk {ε α β : Type} (f : α → Except ε β) : List α → Except ε (List β)
  | [] => .ok []
  | x :: rest =>
    match f x with
    | .error e => .error e
    | .ok y =>
      match mapOk f rest with
      | .error e => .error e
      | .ok ys => .ok (y :: ys)

end RecordQuery
