import RecordQuery.Proofs.NumberOrder
import RecordQuery.Proofs.Soundness

/-!
Sorting values by one order and reading the result by another.

Values are sorted by `sortOrder`, which is transitive, and the result is in order by
`compareValues`, which is not: two values far apart in the result cannot be compared by way of
those between them. What carries over is that `compareValues` says less or greater only where
`sortOrder` says the same, so values that do not fall in one never fall in the other.
-/

namespace RecordQuery

open Std StableSort

variable {s : Schema} {v w : Value} {o : Ordering} {values : List Value}

/-! ### Which values have an order -/

/-- The value is of the schema and is not a NaN. -/
structure Value.Orderable (s : Schema) (v : Value) : Prop where
  conforms : v.conforms s = true
  not_nan : ¬∃ x, v = .float x ∧ x.isNaN = true

lemma Value.orderable_float {x : Binary64} (hx : x.isNaN = false) :
    (Value.float x).Orderable .float := by
  refine ⟨rfl, ?_⟩
  rintro ⟨_, ⟨⟩, hnan⟩
  exact Bool.false_ne_true (hx.symm.trans hnan)

lemma Value.Orderable.isNaN_eq_false {x : Binary64} (h : (Value.float x).Orderable s) :
    x.isNaN = false :=
  Bool.eq_false_iff.2 fun hnan => h.not_nan ⟨x, rfl, hnan⟩

/-- What keeps a value out of the order: another type than the schema's, or a NaN. -/
inductive Value.OrderFault (s : Schema) : Value → EngineError → Prop where
  | mistyped {v : Value} (h : v.conforms s = false) : OrderFault s v (.mismatch s.tag v.tag)
  | nan {x : Binary64} (hv : (Value.float x).conforms s = true) (h : x.isNaN = true) :
      OrderFault s (.float x) (.invalidInput .unordered)

lemma checkOrderable_of_not_conforms (hs : s.isOrderable = true) (h : v.conforms s = false) :
    checkOrderable s v = .error (.mismatch s.tag v.tag) := by
  simp [checkOrderable, hs, h]

lemma checkOrderable_eq_ok_iff_orderable (hs : s.isOrderable = true) :
    checkOrderable s v = .ok () ↔ v.Orderable s := by
  cases hv : v.conforms s with
  | false =>
    rw [checkOrderable_of_not_conforms hs hv]
    exact iff_of_false (by simp) fun h => Bool.false_ne_true (hv.symm.trans h.conforms)
  | true =>
    rw [checkOrderable_eq_ok_iff hs hv]
    exact ⟨fun h => ⟨hv, h⟩, fun h => h.not_nan⟩

lemma checkOrderable_eq_error_iff_orderFault (hs : s.isOrderable = true) {e : EngineError} :
    checkOrderable s v = .error e ↔ v.OrderFault s e := by
  cases hv : v.conforms s with
  | false =>
    rw [checkOrderable_of_not_conforms hs hv]
    constructor
    · rintro ⟨⟩
      exact .mistyped hv
    · rintro (- | ⟨hconf, -⟩)
      · rfl
      · simp [hv] at hconf
  | true =>
    rw [checkOrderable_eq_error_iff hs hv]
    constructor
    · rintro ⟨rfl, x, rfl, hnan⟩
      exact .nan hv hnan
    · rintro (h | ⟨-, hnan⟩)
      · simp [hv] at h
      · exact ⟨rfl, _, rfl, hnan⟩

/-! ### The two orders of values -/

namespace Binary64

variable {x y : Binary64}

lemma totalKey_lt_of_key_lt (h : x.key < y.key) : x.totalKey < y.totalKey := by
  cases hx : x.isNegative <;> cases hy : y.isNegative <;>
    simp only [key, totalKey, hx, hy, if_true, Bool.false_eq_true, if_false] at h ⊢ <;> omega

/-- Numbers of different value are in the same order by bits as by value. -/
lemma compareTotal_of_key_ne (h : x.key ≠ y.key) : x.compareTotal y = compare x.key y.key := by
  rw [compareTotal]
  rcases Int.lt_or_gt_of_ne h with hlt | hgt
  · rw [Int.compare_eq_lt.2 hlt, Int.compare_eq_lt.2 (totalKey_lt_of_key_lt hlt)]
  · rw [Int.compare_eq_gt.2 hgt, Int.compare_eq_gt.2 (totalKey_lt_of_key_lt hgt)]

end Binary64

/-- What two values of a schema compare as. Scalars of one type compare by their own order, floats
by value unless they are near each other; nothing else compares. -/
inductive Compares : Schema → Value → Value → Ordering → Prop where
  | string (a b : String) : Compares .string (.string a) (.string b) (compare a b)
  | bool (a b : Bool) : Compares .bool (.bool a) (.bool b) (compare a b)
  | int (m n : Int64) : Compares .int (.int m) (.int n) (compare m.toInt n.toInt)
  | float {x y : Binary64} (hx : x.isNaN = false) (hy : y.isNaN = false) :
      Compares .float (.float x) (.float y) (if x.near y then .eq else compare x.key y.key)

lemma compareValues_eq_ok_iff : compareValues s v w = .ok o ↔ Compares s v w o := by
  constructor
  · intro h
    unfold compareValues at h
    split at h
    case h_1 => exact Except.ok.inj h ▸ .string _ _
    case h_2 => exact Except.ok.inj h ▸ .bool _ _
    case h_3 => exact Except.ok.inj h ▸ .int _ _
    case h_4 =>
      obtain ⟨⟨hx, hy⟩, rfl⟩ := compareFloats_eq_ok_iff.1 h
      exact .float hx hy
    all_goals cases h
  · rintro (⟨a, b⟩ | ⟨a, b⟩ | ⟨m, n⟩ | ⟨hx, hy⟩)
    · rfl
    · rfl
    · rfl
    · exact compareFloats_eq_ok hx hy

/-- Values that have an order can be compared. -/
lemma exists_compareValues_eq_ok (hs : s.scalar = s) (hv : v.Orderable s) (hw : w.Orderable s) :
    ∃ o, compareValues s v w = .ok o := by
  simp only [compareValues_eq_ok_iff]
  cases Value.conforms_iff_shape.1 hv.conforms with
  | list | set => cases Schema.isOrderable_iff_scalar_eq.2 hs
  | float x =>
    cases Value.conforms_iff_shape.1 hw.conforms with
    | float y =>
      exact ⟨_, .float hv.isNaN_eq_false hw.isNaN_eq_false⟩
  | _ =>
    cases Value.conforms_iff_shape.1 hw.conforms
    exact ⟨_, by constructor⟩

/-- The order that sorting goes by agrees with the other wherever that does not say equal. -/
lemma compareValues_agrees (h : compareValues s v w = .ok o) : o = .eq ∨ o = sortOrder v w := by
  cases compareValues_eq_ok_iff.1 h with
  | @float x y =>
    by_cases hkey : x.key = y.key
    · rw [hkey, Std.compare_self, ite_self]
      exact .inl rfl
    · rw [← Binary64.compareTotal_of_key_ne hkey]
      exact ite_eq_or_eq _ _ _
  | _ => exact .inr rfl

/-- What does not fall in the one order does not fall in the other. -/
lemma exists_compareValues_ne_gt (hs : s.scalar = s) (hv : v.Orderable s) (hw : w.Orderable s)
    (h : (sortOrder v w).isLE = true) : ∃ o, compareValues s v w = .ok o ∧ o ≠ .gt := by
  obtain ⟨o, ho⟩ := exists_compareValues_eq_ok hs hv hw
  refine ⟨o, ho, ?_⟩
  rcases compareValues_agrees ho with rfl | rfl
  · decide
  · exact Ordering.isLE_iff_ne_gt.1 h

/-! ### Sorting -/

/-- The second list is the first one sorted: nothing is lost, values that tie stay in their
order, no value falls in the order of the sort, and no value falls in the other order either, next
to each other or far apart. -/
structure Sorts (s : Schema) (values after : List Value) : Prop where
  perm : after.Perm values
  stable : ∀ v, ties sortOrder v after = ties sortOrder v values
  rising : Rising sortOrder after
  ordered : ∀ i j (hj : j < after.length) (hij : i < j),
    ∃ o, compareValues s after[i] after[j] = .ok o ∧ o ≠ .gt

/-- What keeps values from being sorted: a collection for a schema, whatever the values are, or
else the first value that has no order. -/
inductive SortFault (s : Schema) (values : List Value) : EngineError → Prop where
  | collection (h : s.scalar ≠ s) : SortFault s values (.unorderable s.tag)
  | value {before after : List Value} {v : Value} {e : EngineError} (hs : s.scalar = s)
      (split : values = before ++ v :: after) (orderable : ∀ w ∈ before, w.Orderable s)
      (first : v.OrderFault s e) : SortFault s values e

lemma sorts_sorted (hs : s.scalar = s) (h : ∀ v ∈ values, v.Orderable s) :
    Sorts s values (sorted sortOrder values) where
  perm := sorted_perm _ _
  stable v := ties_sorted _ _ _
  rising := rising_sorted _ _
  ordered i j hj hij := by
    have horderable (k : Nat) (hk : k < (sorted sortOrder values).length) :
        (sorted sortOrder values)[k].Orderable s :=
      h _ ((mem_sorted sortOrder).1 (List.getElem_mem hk))
    have hle := List.pairwise_iff_getElem.1 (rising_sorted sortOrder values) i j
      (Nat.lt_trans hij hj) hj hij
    exact exists_compareValues_ne_gt hs (horderable i _) (horderable j hj) hle

lemma sortValues_eq_ok_iff {after : List Value} :
    sortValues s values = .ok after ↔ (s.scalar = s ∧ ∀ v ∈ values, v.Orderable s) ∧
      sorted sortOrder values = after := by
  rw [sortValues, ← Schema.isOrderable_iff_scalar_eq]
  cases hs : s.isOrderable with
  | false => simp
  | true =>
    have hall : checkAll (checkOrderable s) values = .ok () ↔ ∀ v ∈ values, v.Orderable s := by
      simp only [checkAll_eq_ok_iff, checkOrderable_eq_ok_iff_orderable hs]
    rw [← hall]
    cases checkAll (checkOrderable s) values <;> simp [sorted]

lemma sortValues_eq_error_iff {e : EngineError} :
    sortValues s values = .error e ↔ SortFault s values e := by
  rw [sortValues]
  cases hs : s.isOrderable with
  | false =>
    have hne : s.scalar ≠ s := fun h => by
      simp [Schema.isOrderable_iff_scalar_eq.2 h] at hs
    constructor
    · rintro ⟨⟩
      exact .collection hne
    · rintro (- | ⟨hscalar, -, -, -⟩)
      · rfl
      · exact absurd hscalar hne
  | true =>
    have hscalar := Schema.isOrderable_iff_scalar_eq.1 hs
    have hfault : checkAll (checkOrderable s) values = .error e ↔ SortFault s values e := by
      rw [checkAll_eq_error_iff, firstFault_check_iff]
      simp only [checkOrderable_eq_ok_iff_orderable hs,
        checkOrderable_eq_error_iff_orderFault hs]
      constructor
      · rintro ⟨before, v, after, split, hbefore, hv⟩
        exact .value hscalar split hbefore hv
      · rintro (h | ⟨-, split, hbefore, hv⟩)
        · exact absurd hscalar h
        · exact ⟨_, _, _, split, hbefore, hv⟩
    rw [← hfault]
    cases checkAll (checkOrderable s) values <;> simp

/-- In place, sorting leaves the sorted values behind, or the values as they were. -/
lemma sortInPlace_run (s : Schema) (values : List Value) :
    (sortInPlace s).run values =
      match sortValues s values with
      | .ok after => .ok () after
      | .error e => .error e values := by
  rw [sortValues]
  cases hs : s.isOrderable with
  | false =>
    rw [sortInPlace, hs]
    rfl
  | true =>
    -- only the check can fail, and it comes before anything is moved
    rw [sortInPlace, hs]
    refine (run_checked (checkAll (checkOrderable s))
      (fun _ values => values.mergeSort fun a b => (sortOrder a b).isLE) values).trans ?_
    cases checkAll (checkOrderable s) values <;> rfl

/-- **Values are sorted, or nothing is touched.** Sorting in place succeeds exactly if the schema
is a scalar and every value is of it and not a NaN. It leaves the values behind in order, by the
order of the sort and, for every two of them, by the other order too. When it fails, the values
are as they were, and the error is that of the schema or of the first value without an order. -/
theorem sortInPlace_domain (s : Schema) (values : List Value) :
    ((∃ after, (sortInPlace s).run values = .ok () after) ↔
      s.scalar = s ∧ ∀ v ∈ values, v.Orderable s) ∧
    (∀ after, (sortInPlace s).run values = .ok () after → Sorts s values after) ∧
    ∀ e after, (sortInPlace s).run values = .error e after ↔
      after = values ∧ SortFault s values e := by
  rw [sortInPlace_run]
  cases hsort : sortValues s values with
  | ok out =>
    obtain ⟨hok, rfl⟩ := sortValues_eq_ok_iff.1 hsort
    have hfault (e : EngineError) : ¬SortFault s values e := fun h => by
      rw [sortValues_eq_error_iff.2 h] at hsort
      cases hsort
    refine ⟨iff_of_true ⟨_, rfl⟩ hok, ?_, fun e after => ?_⟩
    · rintro after ⟨⟩
      exact sorts_sorted hok.1 hok.2
    · exact iff_of_false (by simp) fun h => hfault e h.2
  | error e =>
    refine ⟨iff_of_false (by simp) fun hok => ?_, by simp, fun e' after => ?_⟩
    · rw [sortValues_eq_ok_iff.2 ⟨hok, rfl⟩] at hsort
      cases hsort
    · rw [← sortValues_eq_error_iff, hsort]
      simp [and_comm, eq_comm]

end RecordQuery
