import RecordQuery.Binary64.Shortest
import RecordQuery.Json.Basic
import RecordQuery.Schema
import RecordQuery.Text.Quoted

/-!
What can be wrong with a value, an operand or a pattern.
-/

namespace RecordQuery

/-- What a message about types can name: the type of a value, a compiled pattern, the object that
a record has to be, or the sort of a document tree. -/
inductive TypeName where
  | value (tag : TypeTag)
  | pattern
  | object
  | document (kind : Json.Kind)
deriving DecidableEq

def TypeName.text : TypeName → String
  | value tag => tag.name
  | pattern => "Pattern"
  | object => "Object"
  | document kind => kind.name

inductive NumberFault where
  | unordered
  | tooLarge (n : Int)
  | notWhole (x : Binary64)
deriving DecidableEq

def NumberFault.message : NumberFault → String
  | unordered => "NaN has no sort order"
  | tooLarge n => "integer " ++ toString n ++ " does not fit in i64"
  | notWhole x => "expected a whole number, got " ++ x.text

inductive EngineError where
  | typeMismatch (expected actual : TypeName)
  | unorderable (tag : TypeTag)
  | invalidInput (fault : NumberFault)
  | invalidPattern (source : String)
deriving DecidableEq

/-- The message; for a pattern it names the pattern and not the fault in it. -/
def EngineError.message : EngineError → String
  | typeMismatch expected actual =>
    "type mismatch: expected " ++ expected.text ++ ", got " ++ actual.text
  | unorderable tag => "unsupported value type for sort: " ++ tag.name
  | invalidInput fault => "invalid input: " ++ fault.message
  | invalidPattern source => "invalid pattern " ++ Text.quoted source

def EngineError.mismatch (expected actual : TypeTag) : EngineError :=
  .typeMismatch (.value expected) (.value actual)

end RecordQuery
