import RecordQuery.Proofs.Building
import RecordQuery.Proofs.Match

/-!
What building a query establishes, and what it buys on records of the schema.

Building puts every clause against the declaration of its attribute. What is kept of that is
`WellBound`: the declared type stands in the bound clause, a filter has operands and can use all
of them, and a sort has a scalar type. On a record that the schema admits, a well-bound filter
answers without an error, and a well-bound sort finds fault with a NaN only.
-/

namespace RecordQuery

/-- The schema declares every attribute of the record, with a type that its value conforms to. -/
def RecordSchema.Admits (schema : RecordSchema) (record : Record) : Prop :=
  ∀ name v, record.get? name = some v → ∃ s, schema.get? name = some s ∧ v.conforms s = true

/-- What is known of a filter bound to a declared attribute. -/
structure BoundFilter.WellBound (schema : RecordSchema) (bound : BoundFilter) : Prop where
  declared : schema.get? bound.filter.name = some bound.schema
  nonempty : bound.filter.operands ≠ []
  admissible : ∀ o ∈ bound.filter.operands, o.Admissible bound.schema bound.filter.mode

/-- What is known of a sort bound to a declared attribute. -/
structure BoundSort.WellBound (schema : RecordSchema) (bound : BoundSort) : Prop where
  declared : schema.get? bound.key.name = some bound.schema
  orderable : bound.schema.isOrderable = true

/-- What is known of a query built against a schema. -/
structure Query.WellBound (schema : RecordSchema) (q : Query) : Prop where
  filters : ∀ f ∈ q.filters, f.WellBound schema
  sorts : ∀ s ∈ q.sorts, s.WellBound schema

/-! ### Building -/

/-- An operand that binding lets through can be used by the mode. -/
lemma Operand.Becomes.admissible {s : Schema} {mode : Mode} {o o' : Operand}
    (h : o.Becomes s mode o') : o'.Admissible s mode := by
  cases h with
  | compiled h => exact h
  | pattern _ h => exact h
  | literal h hv => exact ⟨h, hv⟩

lemma BoundFilter.Binds.wellBound {schema : RecordSchema} {f : Filter} {bound : BoundFilter}
    (h : bound.Binds schema f) : bound.WellBound schema := by
  refine ⟨h.name ▸ h.declared, h.operands_ne_nil, fun o ho => ?_⟩
  obtain ⟨o', -, hbind⟩ :=
    exists_of_mem_mapOk (Operand.mapOk_bindOperand_eq_ok_iff.2 h.operands) ho
  rw [h.mode]
  exact (((Operand.bindOperand_iff _ _ o').1 o).1 hbind).admissible

lemma BoundSort.Binds.wellBound {schema : RecordSchema} {key : SortKey} {bound : BoundSort}
    (h : bound.Binds schema key) : bound.WellBound schema :=
  ⟨h.key ▸ h.declared, Schema.isOrderable_iff_scalar_eq.2 h.scalar⟩

/-- **What is built is well-bound.** -/
theorem QueryClauses.wellBound_of_build {schema : RecordSchema} {clauses : QueryClauses}
    {q : Query} (h : clauses.build schema = .ok q) : q.WellBound schema := by
  obtain ⟨hf, hs⟩ := build_eq_ok h
  constructor
  · intro bound hbound
    obtain ⟨f, -, hbind⟩ := exists_of_mem_mapOk hf hbound
    exact (((bindFilter_iff schema f).1 bound).1 hbind).wellBound
  · intro bound hbound
    obtain ⟨key, -, hbind⟩ := exists_of_mem_mapOk hs hbound
    exact (((bindSort_iff schema key).1 bound).1 hbind).wellBound

/-! ### Records of the schema -/

lemma RecordSchema.checkEntry_eq_ok_iff {schema : RecordSchema} {entry : String × Value} :
    schema.checkEntry entry = .ok () ↔
      ∃ s, schema.get? entry.1 = some s ∧ entry.2.conforms s = true := by
  unfold checkEntry require
  cases schema.get? entry.1 with
  | none => simp
  | some s => cases hc : entry.2.conforms s <;> simp [hc]

lemma RecordSchema.checkEntries_eq_checkAll (schema : RecordSchema)
    (entries : List (String × Value)) :
    schema.checkEntries entries = checkAll schema.checkEntry entries := by
  induction entries with
  | nil => rfl
  | cons entry rest ih =>
    rw [checkEntries, checkAll, ih]
    cases schema.checkEntry entry <;> rfl

lemma RecordSchema.validateRecord_eq_ok_iff {schema : RecordSchema} {record : Record} :
    schema.validateRecord record = .ok () ↔ schema.Admits record := by
  rw [validateRecord, checkEntries_eq_checkAll, checkAll_eq_ok_iff]
  simp only [checkEntry_eq_ok_iff, Admits, NameMap.get?_eq_some_iff (m := record), Prod.forall]

variable {schema : RecordSchema} {record : Record}

/-- Whether one of the leaves, or all operands, as the filter asks: what a filter answers when
nothing is wrong. -/
def BoundFilter.holds (bound : BoundFilter) (record : Record) : Bool :=
  match record.get? bound.filter.name with
  | none => false
  | some v =>
    let test (o : Operand) := v.leaves.any (o.holds bound.filter.mode)
    if bound.filter.all then bound.filter.operands.all test else bound.filter.operands.any test

/-- A filter that can use its operands answers where the value is of its schema. -/
lemma BoundFilter.accepts_eq_ok_holds {bound : BoundFilter} {v : Value}
    (hadm : ∀ o ∈ bound.filter.operands, o.Admissible bound.schema bound.filter.mode)
    (hv : record.get? bound.filter.name = some v) (hc : v.conforms bound.schema = true) :
    bound.accepts record = .ok (bound.holds record) := by
  have htest : ∀ o ∈ bound.filter.operands,
      matchValue bound.schema v o bound.filter.mode =
        .ok (v.leaves.any (o.holds bound.filter.mode)) :=
    fun o ho => matchValue_eq_ok hc (hadm o ho)
  simp only [accepts, holds, hv]
  split
  · exact allOk_eq_ok_all htest
  · exact anyOk_eq_ok_any htest

/-- A well-bound filter answers on every record of the schema. -/
lemma BoundFilter.WellBound.accepts_eq_ok {bound : BoundFilter} (h : bound.WellBound schema)
    (hr : schema.Admits record) : bound.accepts record = .ok (bound.holds record) := by
  cases hv : record.get? bound.filter.name with
  | none => simp only [accepts, holds, hv]
  | some v =>
    obtain ⟨s, hs, hc⟩ := hr _ _ hv
    rw [h.declared] at hs
    cases hs
    exact accepts_eq_ok_holds h.admissible hv hc

lemma Query.WellBound.accepts_eq_ok {q : Query} (h : q.WellBound schema)
    (hr : schema.Admits record) :
    q.accepts record = .ok (q.filters.all (·.holds record)) := by
  rw [accepts, allOk_eq_ok_all fun f hf => (h.filters f hf).accepts_eq_ok hr, liftEngine]

end RecordQuery
