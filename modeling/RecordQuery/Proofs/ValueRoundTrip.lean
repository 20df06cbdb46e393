import RecordQuery.Proofs.DecodeDomain

/-!
Which values are read back from the document trees that they are written to.

A tree names the type of every value in it, so integers and floats, and lists and sets, are not
mistaken for each other, and a set is read with its elements in their order and as often as they
stand there. What is lost is a float that is not finite: it is written as null, and a tree with a
null in it, however deep, is read as no value.
-/

namespace RecordQuery.Value

/-! ### Scalars -/

lemma ofJson?_toJson_int (n : Int64) : ofJson? (int n).toJson = some (int n) := by
  have hread : int64? n.toInt = some n := int64?_eq_some_iff.2 rfl
  simp [toJson, ofJson?, numberOfInt64, hread]

lemma ofJson?_toJson_float_of_isFinite {x : Binary64} (h : x.isFinite = true) :
    ofJson? (float x).toJson = some (float x) := by
  simp [toJson, ofJson?, Json.Number.ofReal?, h, floatOfNumber]

lemma ofJson?_toJson_float_of_not_isFinite {x : Binary64} (h : x.isFinite = false) :
    ofJson? (float x).toJson = none := by
  simp [toJson, ofJson?, Json.Number.ofReal?, h]

lemma finite_float_iff {x : Binary64} : (float x).Finite ↔ x.isFinite = true := by
  simp [Finite, leaves]

/-! ### Collections -/

/-- The tree of the value is read as the value itself if it is finite, and as no other value. -/
def ReadBack (v : Value) : Prop := ∀ w, ofJson? v.toJson = some w ↔ v.Finite ∧ w = v

variable {items : List Value}

lemma listOfJson?_listToJson_eq_some_iff (h : ∀ v ∈ items, v.ReadBack) (read : List Value) :
    listOfJson? (listToJson items) = some read ↔ (∀ v ∈ items, v.Finite) ∧ read = items := by
  induction items generalizing read with
  | nil => simp [listToJson, listOfJson?, eq_comm]
  | cons v items ih =>
    obtain ⟨hv, hitems⟩ := List.forall_mem_cons.1 h
    simp only [listToJson, listOfJson?, Option.bind_eq_bind, Option.bind_eq_some_iff, hv _,
      ih hitems, List.forall_mem_cons]
    constructor
    · rintro ⟨w, ⟨hfin, rfl⟩, ws, ⟨hall, rfl⟩, hread⟩
      exact ⟨⟨hfin, hall⟩, (Option.some.inj hread).symm⟩
    · rintro ⟨⟨hfin, hall⟩, rfl⟩
      exact ⟨v, ⟨hfin, rfl⟩, items, ⟨hall, rfl⟩, rfl⟩

lemma map_listOfJson?_eq_some_iff (collect : List Value → Value) (h : ∀ v ∈ items, v.ReadBack)
    (w : Value) : (listOfJson? (listToJson items)).map collect = some w ↔
      (∀ v ∈ items, v.Finite) ∧ w = collect items := by
  simp only [Option.map_eq_some_iff, listOfJson?_listToJson_eq_some_iff h]
  constructor
  · rintro ⟨read, ⟨hall, rfl⟩, rfl⟩
    exact ⟨hall, rfl⟩
  · rintro ⟨hall, rfl⟩
    exact ⟨items, ⟨hall, rfl⟩, rfl⟩

/-! ### All values -/

lemma ReadBack.of_finite {v : Value} (hfin : v.Finite) (h : ofJson? v.toJson = some v) :
    v.ReadBack := by
  intro w
  rw [h, Option.some.injEq, and_iff_right hfin, eq_comm]

lemma readBack_float (x : Binary64) : (float x).ReadBack := by
  cases h : x.isFinite with
  | true => exact .of_finite (finite_float_iff.2 h) (ofJson?_toJson_float_of_isFinite h)
  | false =>
    intro w
    simp [finite_float_iff, ofJson?_toJson_float_of_not_isFinite h, h]

lemma readBack (v : Value) : v.ReadBack := by
  induction v using Value.induction with
  | string text => exact .of_finite (by simp [Finite, leaves]) (by simp [toJson, ofJson?])
  | bool b => exact .of_finite (by simp [Finite, leaves]) (by simp [toJson, ofJson?])
  | int n => exact .of_finite (by simp [Finite, leaves]) (ofJson?_toJson_int n)
  | float x => exact readBack_float x
  | list items ih =>
    intro w
    rw [finite_list_iff, ← map_listOfJson?_eq_some_iff list ih w, toJson, ofJson?]
  | set items ih =>
    intro w
    rw [finite_set_iff, ← map_listOfJson?_eq_some_iff set ih w, toJson, ofJson?]

/-- **Exactly the finite values are read back.** The tree that a value is written to is read as
that very value if all its floats are finite, and as no value at all if one of them is not. -/
theorem written_value_read_back (v : Value) :
    (ofJson? v.toJson = some v ↔ ∀ x, .float x ∈ v.leaves → x.isFinite = true) ∧
    (ofJson? v.toJson = none ↔ ∃ x, .float x ∈ v.leaves ∧ x.isFinite = false) := by
  have hread : ∀ w, ofJson? v.toJson = some w ↔ v.Finite ∧ w = v := readBack v
  have hinfinite : (∃ x, .float x ∈ v.leaves ∧ x.isFinite = false) ↔ ¬v.Finite := by
    simp [Finite]
  refine ⟨(hread v).trans (and_iff_left rfl), ?_⟩
  rw [hinfinite, Option.eq_none_iff_forall_ne_some]
  simp only [ne_eq, hread]
  exact ⟨fun h hfin => h v ⟨hfin, rfl⟩, fun h w hw => h hw.1⟩

end RecordQuery.Value
