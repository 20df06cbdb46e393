import RecordQuery.Proofs.FirstFault
import RecordQuery.Proofs.RecordOrder
import RecordQuery.Proofs.StableSort

/-!
What applying a query to records gives.

The records are filtered first and the values to sort by are checked after that, so an error of a
filter comes before any error of a value. Without errors the result is the list of the accepted
records in the order of the sorts, records that tie in their old order; there is only one such
list, and applying the query to it again leaves it as it is.
-/

namespace RecordQuery

open StableSort

/-- Every value that the record has for the sort can be ordered. -/
def BoundSort.Orderable (s : BoundSort) (r : Record) : Prop :=
  ∀ v, r.get? s.key.name = some v → checkOrderable s.schema v = .ok ()

namespace Query

variable (q : Query)

/-- The records that pass all filters, in their order. -/
def accepted (records : List Record) : List Record := records.filter (passes q.accepts)

/-- Every value that the record has for one of the sorts can be ordered. -/
def Sortable (r : Record) : Prop := ∀ s ∈ q.sorts, s.Orderable r

/-- The first value of a record that cannot be ordered, the sorts in their order. -/
inductive ValueFault (r : Record) : EngineError → Prop where
  | mk {earlier later : List BoundSort} {s : BoundSort} {v : Value} {e : EngineError}
    (sorts : q.sorts = earlier ++ s :: later) (orderable : ∀ t ∈ earlier, t.Orderable r)
    (held : r.get? s.key.name = some v) (error : checkOrderable s.schema v = .error e) :
    ValueFault r e

/-- What is wrong with records that a query cannot be applied to: the first record on which a
filter fails, or without such a record the first accepted one with a value that cannot be
ordered. -/
inductive Fault (records : List Record) : QueryError → Prop where
  | filter {e : QueryError} (first : FirstFault q.accepts records e) : Fault records e
  | value {before after : List Record} {r : Record} {e : EngineError}
    (faultless : Faultless q.accepts records)
    (split : q.accepted records = before ++ r :: after) (sortable : ∀ b ∈ before, q.Sortable b)
    (first : q.ValueFault r e) : Fault records (.engine e)

/-- The accepted records in the order of the sorts, records that tie on all sorts in their old
order. -/
structure IsResult (records out : List Record) : Prop where
  perm : out.Perm (q.accepted records)
  inOrder : out.Pairwise (InOrder q.sorts)
  ties : ∀ r, out.filter (fun s => decide (TieOn q.sorts r s)) =
    (q.accepted records).filter fun s => decide (TieOn q.sorts r s)

end Query

/-! ### The check before the sort -/

namespace BoundSort

variable {s : BoundSort} {r : Record}

lemma checkRecord_eq_ok_iff : s.checkRecord r = .ok () ↔ s.Orderable r := by
  unfold checkRecord Orderable
  cases r.get? s.key.name <;> simp

lemma checkRecord_eq_error_iff {e : EngineError} :
    s.checkRecord r = .error e ↔
      ∃ v, r.get? s.key.name = some v ∧ checkOrderable s.schema v = .error e := by
  unfold checkRecord
  cases r.get? s.key.name <;> simp

end BoundSort

namespace Query

variable {q : Query} {records : List Record}

lemma checkAll_checkRecord_eq_ok_iff {r : Record} :
    checkAll (·.checkRecord r) q.sorts = .ok () ↔ q.Sortable r := by
  simp only [checkAll_eq_ok_iff, BoundSort.checkRecord_eq_ok_iff, Sortable]

lemma checkAll_checkRecord_eq_error_iff {r : Record} {e : EngineError} :
    checkAll (·.checkRecord r) q.sorts = .error e ↔ q.ValueFault r e := by
  rw [checkAll_eq_error_iff, firstFault_check_iff]
  constructor
  · rintro ⟨earlier, s, later, hs, ho, he⟩
    obtain ⟨v, hv, he⟩ := BoundSort.checkRecord_eq_error_iff.1 he
    exact ⟨hs, fun t ht => BoundSort.checkRecord_eq_ok_iff.1 (ho t ht), hv, he⟩
  · rintro ⟨hs, ho, hv, he⟩
    exact ⟨_, _, _, hs, fun t ht => BoundSort.checkRecord_eq_ok_iff.2 (ho t ht),
      BoundSort.checkRecord_eq_error_iff.2 ⟨_, hv, he⟩⟩

lemma checkRecords_eq_ok_iff :
    q.checkRecords records = .ok () ↔ ∀ r ∈ records, q.Sortable r := by
  simp only [checkRecords, checkAll_eq_ok_iff (l := records), checkAll_checkRecord_eq_ok_iff]

lemma checkRecords_eq_error_iff {e : EngineError} :
    q.checkRecords records = .error e ↔ ∃ before r after, records = before ++ r :: after ∧
      (∀ b ∈ before, q.Sortable b) ∧ q.ValueFault r e := by
  simp only [checkRecords, checkAll_eq_error_iff (l := records), firstFault_check_iff,
    checkAll_checkRecord_eq_ok_iff, checkAll_checkRecord_eq_error_iff]

/-! ### The result -/

/-- In place, sorting leaves the records in order behind, or as they were. -/
lemma sort_run (q : Query) (records : List Record) :
    q.sort.run records =
      match q.checkRecords records with
      | .ok () => .ok () (sorted (compareRecords q.sorts) records)
      | .error e => .error (.engine e) records := by
  rw [sort, run_checked fun records => liftEngine (q.checkRecords records)]
  cases q.checkRecords records <;> rfl

lemma finalState_sort (q : Query) (records : List Record) :
    finalState q.sort records =
      match q.checkRecords records with
      | .ok () => .ok (sorted (compareRecords q.sorts) records)
      | .error e => .error (.engine e) := by
  rw [finalState, sort_run]
  cases q.checkRecords records <;> rfl

lemma apply_eq_ok_iff {out : List Record} :
    q.apply records = .ok out ↔ Faultless q.accepts records ∧
      (∀ r ∈ q.accepted records, q.Sortable r) ∧
      sorted (compareRecords q.sorts) (q.accepted records) = out := by
  unfold apply
  cases hf : filterOk q.accepts records with
  | error e =>
    have hno : ¬Faultless q.accepts records := fun h =>
      h.not_firstFault e (filterOk_eq_error_iff.1 hf)
    simp [hno]
  | ok selected =>
    obtain ⟨hall, rfl⟩ := filterOk_eq_ok_iff.1 hf
    rw [← checkRecords_eq_ok_iff]
    change finalState q.sort (q.accepted records) = _ ↔ _
    simp only [finalState_sort, hall, true_and]
    cases q.checkRecords (q.accepted records) <;> simp

lemma apply_eq_error_iff {e : QueryError} : q.apply records = .error e ↔ q.Fault records e := by
  unfold apply
  cases hf : filterOk q.accepts records with
  | error e' =>
    have hfirst := filterOk_eq_error_iff.1 hf
    constructor
    · rintro ⟨⟩
      exact .filter hfirst
    · rintro (first | ⟨faultless, -⟩)
      · rw [filterOk_eq_error_iff.2 first] at hf
        exact hf.symm
      · exact absurd hfirst (faultless.not_firstFault e')
  | ok selected =>
    obtain ⟨hall, rfl⟩ := filterOk_eq_ok_iff.1 hf
    change finalState q.sort (q.accepted records) = _ ↔ _
    rw [finalState_sort]
    constructor
    · intro h
      cases hc : q.checkRecords (q.accepted records) with
      | ok => simp [hc] at h
      | error e' =>
        simp only [hc, Except.error.injEq] at h
        obtain ⟨before, r, after, hs, hb, hr⟩ := checkRecords_eq_error_iff.1 hc
        exact h ▸ .value hall hs hb hr
    · rintro (first | ⟨-, split, sortable, first⟩)
      · exact absurd first (hall.not_firstFault e)
      · rw [checkRecords_eq_error_iff.2 ⟨_, _, _, split, sortable, first⟩]

/-- What a query gives can be applied to again, and stays as it is. -/
lemma apply_of_apply {out : List Record} (h : q.apply records = .ok out) :
    q.apply out = .ok out := by
  obtain ⟨hall, hsort, rfl⟩ := apply_eq_ok_iff.1 h
  set out := sorted (compareRecords q.sorts) (q.accepted records) with hout
  have hmem : ∀ r ∈ out, r ∈ q.accepted records := fun r hr => (mem_sorted _).1 hr
  have hpass : ∀ r ∈ out, passes q.accepts r = true := fun r hr =>
    (List.mem_filter.1 (hmem r hr)).2
  have hself : q.accepted out = out := List.filter_eq_self.2 hpass
  refine apply_eq_ok_iff.2 ⟨fun r hr => ?_, fun r hr => ?_, ?_⟩
  · exact hall r (List.mem_filter.1 (hmem r hr)).1
  · exact hsort r (hmem r (hself ▸ hr))
  · rw [hself]
    exact sorted_of_rising _ (rising_sorted _ _)

/-- Without sorts nothing moves. -/
lemma sorted_compareRecords_nil (l : List Record) : sorted (compareRecords []) l = l :=
  sorted_of_rising _ (List.pairwise_of_forall fun _ _ => rfl)

lemma filter_tieOn (sorts : List BoundSort) (r : Record) (l : List Record) :
    l.filter (fun s => decide (TieOn sorts r s)) = ties (compareRecords sorts) r l :=
  List.filter_congr fun s _ => by
    rw [Bool.eq_iff_iff, decide_eq_true_iff, ← compareRecords_eq_eq_iff, Ordering.isEq_iff_eq_eq]

lemma isResult_sorted (q : Query) (records : List Record) :
    q.IsResult records (sorted (compareRecords q.sorts) (q.accepted records)) where
  perm := sorted_perm _ _
  inOrder := (rising_sorted _ _).imp compareRecords_isLE_iff.1
  ties r := by rw [filter_tieOn, filter_tieOn, ties_sorted]

lemma IsResult.eq_sorted {out : List Record} (h : q.IsResult records out) :
    out = sorted (compareRecords q.sorts) (q.accepted records) :=
  StableSort.eq_sorted _ (h.inOrder.imp compareRecords_isLE_iff.2) fun r => by
    rw [← filter_tieOn, ← filter_tieOn, h.ties]

/-- **Applying a query filters and then sorts, stably and by the first sort that decides.** If no
filter fails and all values to sort by can be ordered, the query gives the one list of the
accepted records that is in order and keeps the order of ties; otherwise it gives the first
fault. What it gives, it leaves as it is. -/
theorem apply_filters_and_sorts (q : Query) (records : List Record) :
    (Faultless q.accepts records → (∀ r ∈ q.accepted records, q.Sortable r) →
      ∃ out, q.apply records = .ok out ∧ q.IsResult records out ∧
        (∀ other, q.IsResult records other → other = out) ∧
        (q.sorts = [] → out = q.accepted records)) ∧
    (∀ e, q.apply records = .error e ↔ q.Fault records e) ∧
    ∀ out, q.apply records = .ok out → q.apply out = .ok out := by
  refine ⟨fun hall hsort => ?_, fun e => apply_eq_error_iff, fun out => apply_of_apply⟩
  refine ⟨_, apply_eq_ok_iff.2 ⟨hall, hsort, rfl⟩, isResult_sorted q records,
    fun other h => h.eq_sorted, fun hnone => ?_⟩
  rw [hnone, sorted_compareRecords_nil]

end Query

end RecordQuery
