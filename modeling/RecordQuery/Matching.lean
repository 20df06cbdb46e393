import RecordQuery.Binary64.Rounding
import RecordQuery.EngineError
import RecordQuery.Mode
import RecordQuery.Pattern
import RecordQuery.Unicode.CaseFolding
import RecordQuery.Value

/-!
Matching a value against the operand of a filter.

A scalar is matched by the relation that the mode asks for, if its type has one, and else by
equality: without regard to case for strings, within the tolerance for floats. A list or set
matches when one of its elements does, at any depth. A float zero stands for an absent value and
is neither less nor greater than anything.
-/

namespace RecordQuery

inductive Operand where
  | literal (value : Value)
  | pattern (pattern : Pattern)

namespace Operand

def ofPattern (source : String) : Except EngineError Operand :=
  match Pattern.compile? source with
  | some p => .ok (pattern p)
  | none => .error (.invalidPattern source)

def typeName : Operand → TypeName
  | literal value => .value value.tag
  | pattern _ => .pattern

end Operand

def Text.containsList (part : List Char) : List Char → Bool
  | [] => part.isEmpty
  | c :: rest => part.isPrefixOf (c :: rest) || containsList part rest

def Text.contains (text part : String) : Bool := containsList part.toList text.toList

def matchString (text : String) (operand : Operand) (mode : Mode) : Except EngineError Bool :=
  match mode, operand with
  | .regex, .pattern p => .ok (p.isMatch text)
  | .regex, other => .error (.typeMismatch .pattern other.typeName)
  | .substring, .literal (.string part) => .ok (Text.contains text part)
  | _, .literal (.string other) => .ok (Unicode.caseless text other)
  | _, other => .error (.typeMismatch (.value .string) other.typeName)

def matchInt (n other : Int64) : Mode → Bool
  | .lessThan => n < other
  | .lessThanOrEqual => n ≤ other
  | .greaterThan => other < n
  | .greaterThanOrEqual => other ≤ n
  | _ => n == other

def matchFloat (x other : Binary64) (mode : Mode) : Bool :=
  if mode.isRelational && x.isZero then false
  else
    match mode with
    | .lessThan => x.lt other
    | .lessThanOrEqual => x.lt other || other.near x
    | .greaterThan => other.lt x
    | .greaterThanOrEqual => other.lt x || other.near x
    | _ => other.near x

/-- Whether some element passes a test that may fail; elements after the first that passes or
fails are not tested. -/
def anyOk {ε α : Type} (test : α → Except ε Bool) : List α → Except ε Bool
  | [] => .ok false
  | x :: rest =>
    match test x with
    | .ok false => anyOk test rest
    | result => result

/-- Whether all elements pass a test that may fail; elements after the first that does not pass
or fails are not tested. -/
def allOk {ε α : Type} (test : α → Except ε Bool) : List α → Except ε Bool
  | [] => .ok true
  | x :: rest =>
    match test x with
    | .ok true => allOk test rest
    | result => result

/-- Whether one of the elements matches. All of them are checked against the schema before any
is matched. -/
def matchElements (element : Schema) (test : Value → Except EngineError Bool)
    (items : List Value) : Except EngineError Bool :=
  match items.find? fun item => !item.conforms element with
  | some bad => .error (.mismatch element.tag bad.tag)
  | none => anyOk test items

/-- Whether a value of the schema matches the operand. A value or an operand of another type is
an error; the value is looked at first. -/
def matchValue : Schema → Value → Operand → Mode → Except EngineError Bool
  | .string, .string text, operand, mode => matchString text operand mode
  | .bool, .bool b, .literal (.bool other), _ => .ok (b == other)
  | .int, .int n, .literal (.int other), mode => .ok (matchInt n other mode)
  | .float, .float x, .literal (.float other), mode => .ok (matchFloat x other mode)
  | .list element, .list items, operand, mode
  | .set element, .set items, operand, mode =>
    matchElements element (fun item => matchValue element item operand mode) items
  | schema, value, operand, _ =>
    if value.tag = schema.tag then .error (.typeMismatch (.value schema.tag) operand.typeName)
    else .error (.mismatch schema.tag value.tag)

end RecordQuery
