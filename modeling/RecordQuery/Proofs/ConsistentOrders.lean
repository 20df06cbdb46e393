import RecordQuery.Proofs.EqualKeys

/-!
The orders that sorting goes by never contradict themselves.

A sort compares what its steps happen to bring together, and puts the rest in order by what
follows from that, so the order has to hold together whichever members it is asked about. That of
values does on values of all types, NaNs and collections among them, although the check before a
sort refuses those; that of records does on all records, whatever the sorts are. Values that pass
the check have one place only if they are the same value, and what a list of records is sorted to
does not depend on the steps of the sort.
-/

namespace RecordQuery

open Std StableSort

/-- The order does not contradict itself. -/
structure Consistent {α : Type*} (cmp : α → α → Ordering) : Prop where
  refl (a : α) : cmp a a = .eq
  /-- Swapped members compare the other way round. -/
  swap (a b : α) : cmp b a = (cmp a b).swap
  /-- Less, equal and greater carry over from two pairs in a row to the outer two members. -/
  trans {a b c : α} {o : Ordering} (hab : cmp a b = o) (hbc : cmp b c = o) : cmp a c = o
  /-- Equal members compare alike with every other. -/
  congr {a b : α} (hab : cmp a b = .eq) (c : α) : cmp a c = cmp b c

lemma consistent {α : Type*} (cmp : α → α → Ordering) [TransCmp cmp] : Consistent cmp where
  refl _ := ReflCmp.compare_self
  swap _ _ := OrientedCmp.eq_swap
  trans {_ _ _ o} hab hbc := by
    cases o with
    | lt => exact TransCmp.lt_trans hab hbc
    | eq => exact TransCmp.eq_trans hab hbc
    | gt => exact TransCmp.gt_trans hab hbc
  congr hab _ := TransCmp.congr_left hab

variable {s : Schema} {v w : Value}

lemma sortOrder_eq_eq_iff_of_checkOrderable (hv : checkOrderable s v = .ok ())
    (hw : checkOrderable s w = .ok ()) : sortOrder v w = .eq ↔ v = w := by
  obtain ⟨o, ho⟩ := exists_compareValues_iff_orderable.2 ⟨hv, hw⟩
  exact (compareValues_eq_ok_iff.1 ho).sortOrder_eq_eq_iff

/-- **Sorting goes by consistent orders.** The order of values is consistent on all values; equal
in it are a value and itself, and besides that two lists or two sets, so among the values that
pass the check for a schema only those that are the same. The order of records is consistent on
all records, by any sorts; equal in it are the records that tie on each of them; and every list
of records has one stable arrangement by it, the one that it is sorted to. -/
theorem sorting_orders_consistent :
    (Consistent sortOrder ∧
      (∀ v w, sortOrder v w = .eq ↔ v = w ∨ v.tag = w.tag ∧ v.tag.isCollection = true) ∧
      ∀ s v w, checkOrderable s v = .ok () → checkOrderable s w = .ok () →
        (sortOrder v w = .eq ↔ v = w)) ∧
    ∀ sorts, Consistent (compareRecords sorts) ∧
      (∀ a b, compareRecords sorts a b = .eq ↔ TieOn sorts a b) ∧
      ∀ records out, Arranges (compareRecords sorts) records out ↔
        sorted (compareRecords sorts) records = out := by
  constructor
  · refine ⟨consistent sortOrder, fun v w => sortOrder_eq_eq_iff, fun s v w hv hw => ?_⟩
    exact sortOrder_eq_eq_iff_of_checkOrderable hv hw
  · intro sorts
    refine ⟨consistent _, fun a b => compareRecords_eq_eq_iff, fun records out => ?_⟩
    exact arranges_iff _

end RecordQuery
