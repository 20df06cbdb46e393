/-!
Match modes: which relation a filter asks for between a value and its operand.

A mode that means nothing for a type is no fault; such a type is matched by equality.
-/

namespace RecordQuery

inductive Mode where
  | equals
  | substring
  | regex
  | lessThan
  | lessThanOrEqual
  | greaterThan
  | greaterThanOrEqual
deriving DecidableEq

namespace Mode

instance : Inhabited Mode := ⟨equals⟩

def index : Mode → Nat
  | equals => 0
  | substring => 1
  | regex => 2
  | lessThan => 3
  | lessThanOrEqual => 4
  | greaterThan => 5
  | greaterThanOrEqual => 6

/-- The name in documents; equality has the empty name. -/
def id : Mode → String
  | equals => ""
  | substring => "substring"
  | regex => "re"
  | lessThan => "less_than"
  | lessThanOrEqual => "less_than_or_equal"
  | greaterThan => "greater_than"
  | greaterThanOrEqual => "greater_than_or_equal"

/-- The mode of a name; equality and regular expressions have two names each. -/
def ofId? : String → Option Mode
  | "" | "equals" => some equals
  | "substring" => some substring
  | "re" | "regex" => some regex
  | "less_than" => some lessThan
  | "less_than_or_equal" => some lessThanOrEqual
  | "greater_than" => some greaterThan
  | "greater_than_or_equal" => some greaterThanOrEqual
  | _ => none

/-- The mode of a name, equality for an unknown one. -/
def parse (name : String) : Mode := (ofId? name).getD equals

def display : Mode → String
  | equals => "equals"
  | m => m.id

def isRelational : Mode → Bool
  | lessThan | lessThanOrEqual | greaterThan | greaterThanOrEqual => true
  | _ => false

def isTextual : Mode → Bool
  | substring | regex => true
  | _ => false

@[simp] theorem parse_id (m : Mode) : parse m.id = m := by cases m <;> rfl

end Mode

end RecordQuery
