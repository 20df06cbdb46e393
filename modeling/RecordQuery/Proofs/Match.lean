import RecordQuery.Proofs.FirstFault

/-!
What matching gives on a value of the schema.

The scalars at the bottom of a value are its leaves. A value that conforms to the schema, matched
against an operand that the mode can use over the schema, matches when one of its leaves stands
in the relation of the mode to the operand, and no error branch is reached at any depth.
-/

namespace RecordQuery

mutual

/-- The scalars of a value, through all lists and sets. -/
def Value.leaves : Value → List Value
  | .list items | .set items => Value.leavesAll items
  | v => [v]

def Value.leavesAll : List Value → List Value
  | [] => []
  | v :: rest => v.leaves ++ Value.leavesAll rest

end

lemma Value.leavesAll_eq_flatMap (items : List Value) :
    Value.leavesAll items = items.flatMap Value.leaves := by
  induction items with
  | nil => simp [Value.leavesAll]
  | cons v rest ih => simp [Value.leavesAll, ih]

/-- What holds of the floats of a collection holds of those of every element. -/
lemma Value.forall_float_leavesAll_iff {P : Binary64 → Prop} {items : List Value} :
    (∀ x, .float x ∈ Value.leavesAll items → P x) ↔
      ∀ w ∈ items, ∀ x, .float x ∈ w.leaves → P x := by
  simp only [Value.leavesAll_eq_flatMap, List.mem_flatMap]
  constructor
  · intro h w hw x hx
    exact h x ⟨w, hw, hx⟩
  · rintro h x ⟨w, hw, hx⟩
    exact h w hw x hx

namespace Operand

/-- The operands that a mode can use over a schema: patterns where texts are matched by regular
expression, and otherwise literals of the scalar type. -/
def Admissible (s : Schema) (mode : Mode) : Operand → Prop
  | pattern _ => s.scalar = .string ∧ mode = .regex
  | literal v => ¬(s.scalar = .string ∧ mode = .regex) ∧ v.conforms s.scalar = true

/-- Whether a scalar stands in the relation of the mode to the operand. -/
def holds (mode : Mode) : Operand → Value → Bool
  | pattern p, .string text => p.isMatch text
  | literal (.string other), .string text =>
    if mode = .substring then Text.contains text other else Unicode.caseless text other
  | literal (.bool other), .bool b => b == other
  | literal (.int other), .int n => matchInt n other mode
  | literal (.float other), .float x => matchFloat x other mode
  | _, _ => false

end Operand

variable {s : Schema} {v : Value} {o : Operand} {mode : Mode}

lemma matchString_eq_ok {text : String} (h : o.Admissible .string mode) :
    matchString text o mode = .ok (o.holds mode (.string text)) := by
  cases o with
  | pattern p =>
    obtain ⟨-, rfl⟩ := h
    rfl
  | literal w =>
    obtain ⟨hmode, hw⟩ := h
    cases w <;> simp [Schema.scalar, Value.conforms] at hw
    cases mode <;> first | rfl | exact absurd ⟨rfl, rfl⟩ hmode

section Elements

variable {element : Schema} {items : List Value} {test : Value → Except EngineError Bool}

lemma matchElements_of_conforms (h : ∀ w ∈ items, w.conforms element = true) :
    matchElements element test items = anyOk test items := by
  have hnone : items.find? (fun item => !item.conforms element) = none := by
    rw [List.find?_eq_none]
    intro w hw
    simp [h w hw]
  rw [matchElements, hnone]

lemma matchElements_eq_ok {p : Value → Bool} (hc : ∀ v ∈ items, v.conforms element = true)
    (ht : ∀ v ∈ items, test v = .ok (p v)) :
    matchElements element test items = .ok (items.any p) := by
  rw [matchElements_of_conforms hc, anyOk_eq_ok_any ht]

end Elements

/-- **Matching a value of the schema** by an operand that the mode can use asks for one leaf. -/
theorem matchValue_eq_ok (hv : v.conforms s = true) (ho : o.Admissible s mode) :
    matchValue s v o mode = .ok (v.leaves.any (o.holds mode)) := by
  induction s generalizing v with
  | string =>
    cases v <;> simp [Value.conforms] at hv
    simp [matchValue, matchString_eq_ok ho, Value.leaves]
  | bool | int | float =>
    cases v <;> simp [Value.conforms] at hv
    cases o with
    | pattern p => simp [Operand.Admissible, Schema.scalar] at ho
    | literal w =>
      cases w <;> simp [Operand.Admissible, Schema.scalar, Value.conforms] at ho
      simp [matchValue, Value.leaves, Operand.holds]
  | list e ih | set e ih =>
    cases v <;> simp only [Value.conforms, reduceCtorEq, List.all_eq_true] at hv
    rw [matchValue, matchElements_eq_ok hv fun w hw => ih (hv w hw) ho, Value.leaves,
      Value.leavesAll_eq_flatMap, List.any_flatMap]

end RecordQuery
