import RecordQuery.Proofs.ValueSorting

/-!
Where the order of values is defined, and how it goes with the order of sorting.

Two values compare exactly if each of them alone passes the check that comes before a sort.
Swapped, they compare the other way round, and where they do not compare equal, sorting puts them
in the same order. Only floats can compare equal and still have an order for sorting: two that are
near each other.
-/

namespace RecordQuery

open Std

variable {s : Schema} {v w : Value} {o : Ordering}

lemma checkOrderable_eq_ok_iff_scalar :
    checkOrderable s v = .ok () ↔ s.scalar = s ∧ v.Orderable s := by
  rw [← Schema.isOrderable_iff_scalar_eq]
  cases hs : s.isOrderable with
  | false => simp [checkOrderable, hs]
  | true => simp [checkOrderable_eq_ok_iff_orderable hs]

namespace Compares

lemma scalar (h : Compares s v w o) : s.scalar = s := by
  cases h <;> rfl

/-- What compares can be sorted; of the second value this follows by swapping. -/
lemma orderable_left (h : Compares s v w o) : v.Orderable s := by
  cases h with
  | float hx => exact Value.orderable_float hx
  | _ => exact ⟨rfl, by simp⟩

lemma swap (h : Compares s v w o) : Compares s w v o.swap := by
  cases h with
  | string a b =>
    have hswap : compare b a = (compare a b).swap := OrientedCmp.eq_swap
    exact hswap ▸ .string b a
  | bool a b =>
    have hswap : compare b a = (compare a b).swap := OrientedCmp.eq_swap
    exact hswap ▸ .bool b a
  | int m n =>
    have hswap : compare n.toInt m.toInt = (compare m.toInt n.toInt).swap := OrientedCmp.eq_swap
    exact hswap ▸ .int n m
  | @float x y hx hy =>
    -- the distance does not change, and the order by value turns round
    have hswap : (if y.near x then .eq else compare y.key x.key) =
        (if x.near y then .eq else compare x.key y.key).swap := by
      rw [Binary64.near_comm, apply_ite Ordering.swap, ← OrientedCmp.eq_swap]
      rfl
    exact hswap ▸ .float hy hx

lemma orderable_right (h : Compares s v w o) : w.Orderable s := h.swap.orderable_left

/-- Off the floats the two orders are one. -/
lemma sortOrder_eq (h : Compares s v w o) (hs : s ≠ .float) : sortOrder v w = o := by
  cases h with
  | float => exact absurd rfl hs
  | _ => rfl

end Compares

lemma exists_compareValues_iff_orderable : (∃ o, compareValues s v w = .ok o) ↔
    checkOrderable s v = .ok () ∧ checkOrderable s w = .ok () := by
  rw [checkOrderable_eq_ok_iff_scalar, checkOrderable_eq_ok_iff_scalar]
  constructor
  · rintro ⟨o, ho⟩
    have h := compareValues_eq_ok_iff.1 ho
    exact ⟨⟨h.scalar, h.orderable_left⟩, h.scalar, h.orderable_right⟩
  · rintro ⟨⟨hs, hv⟩, -, hw⟩
    exact exists_compareValues_eq_ok hs hv hw

lemma compareValues_swap (h : compareValues s v w = .ok o) : compareValues s w v = .ok o.swap :=
  compareValues_eq_ok_iff.2 (compareValues_eq_ok_iff.1 h).swap

lemma compareSign_eq_ok_iff : compareSign s v w = .ok (orderSign o) ↔ compareValues s v w = .ok o := by
  unfold compareSign
  cases compareValues s v w with
  | error e => simp [Except.map]
  | ok p => cases o <;> cases p <;> simp [Except.map, orderSign]

/-- **Values compare exactly if both can be sorted.** Their signs are those of their order, swapped
they compare the other way round, and sorting goes by the same order wherever that is not
equality, and for strings, booleans and integers everywhere. -/
theorem compareValues_domain (s : Schema) (v w : Value) :
    ((∃ o, compareValues s v w = .ok o) ↔
      checkOrderable s v = .ok () ∧ checkOrderable s w = .ok ()) ∧
    ((compareSign s v w = .ok (-1) ↔ compareValues s v w = .ok .lt) ∧
      (compareSign s v w = .ok 0 ↔ compareValues s v w = .ok .eq) ∧
      (compareSign s v w = .ok 1 ↔ compareValues s v w = .ok .gt)) ∧
    ∀ o, compareValues s v w = .ok o →
      compareValues s w v = .ok o.swap ∧
      (o ≠ .eq → sortOrder v w = o) ∧
      (s = .string ∨ s = .bool ∨ s = .int → sortOrder v w = o) := by
  refine ⟨exists_compareValues_iff_orderable, ⟨compareSign_eq_ok_iff (o := .lt),
    compareSign_eq_ok_iff (o := .eq), compareSign_eq_ok_iff (o := .gt)⟩, fun o ho => ?_⟩
  refine ⟨compareValues_swap ho, fun hne => ?_, fun hs => ?_⟩
  · exact ((compareValues_agrees ho).resolve_left hne).symm
  · have hfloat : s ≠ .float := by
      rintro rfl
      simp at hs
    exact (compareValues_eq_ok_iff.1 ho).sortOrder_eq hfloat

end RecordQuery
