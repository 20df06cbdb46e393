import Mathlib.Tactic.Lemma
import RecordQuery.Query

/-!
The orders that sorting goes by: of two values, of two records by one sort, and of two records
by several.

All of them are total preorders on all values and records, conforming or not, so a stable sort by
them has one possible result. What they say of two records is put in words that do not mention
them: `Ties` and `Precedes` for one sort, `InOrder` for the first of several by which the records
differ.
-/

namespace RecordQuery

open Std

/-! ### Values -/

/-- The text by which a value is sorted among those of its type. -/
def Value.sortText : Value → String
  | .string text => text
  | _ => ""

/-- The number by which a value is sorted among those of its type. -/
def Value.sortNumber : Value → Int
  | .bool b => if b then 1 else 0
  | .int n => n.toInt
  | .float x => x.totalKey
  | _ => 0

lemma sortOrder_of_tag_ne {a b : Value} (h : a.tag ≠ b.tag) :
    sortOrder a b = compare a.tag.rank b.tag.rank := by
  cases a <;> cases b <;> first | rfl | exact absurd rfl h

lemma TypeTag.rank_injective {s t : TypeTag} (h : s.rank = t.rank) : s = t := by
  have := TypeTag.all_getElem?_rank s
  rw [h, TypeTag.all_getElem?_rank] at this
  exact (Option.some.inj this).symm

lemma TypeTag.compare_rank_eq_eq_iff {s t : TypeTag} : compare s.rank t.rank = .eq ↔ s = t := by
  rw [Nat.compare_eq_eq]
  exact ⟨rank_injective, congrArg rank⟩

/-- The sort order goes by the type, then by text and number. -/
lemma sortOrder_eq_compareLex :
    sortOrder = compareLex (compareOn fun v => v.tag.rank)
      (compareLex (compareOn Value.sortText) (compareOn Value.sortNumber)) := by
  funext a b
  simp only [compareLex, compareOn]
  by_cases h : a.tag = b.tag
  · rw [h, ReflOrd.compare_self, Ordering.eq_then]
    match a, b, h with
    | .string _, .string _, _ => exact Ordering.then_eq.symm
    | .bool x, .bool y, _ => cases x <;> cases y <;> rfl
    | .int _, .int _, _ | .float _, .float _, _ => rfl
    | .list _, .list _, _ | .set _, .set _, _ => rfl
  · rw [sortOrder_of_tag_ne h]
    have hne : compare a.tag.rank b.tag.rank ≠ .eq := mt TypeTag.compare_rank_eq_eq_iff.1 h
    cases hc : compare a.tag.rank b.tag.rank with
    | lt => rfl
    | eq => exact absurd hc hne
    | gt => rfl

instance : TransCmp sortOrder := by
  rw [sortOrder_eq_compareLex]
  infer_instance

/-- The order of present values in a direction. -/
def Direction.order (d : Direction) (a b : Value) : Ordering := d.apply (sortOrder a b)

instance (d : Direction) : TransCmp d.order := by
  cases d with
  | asc => exact inferInstanceAs (TransCmp sortOrder)
  | desc =>
    have h : Direction.desc.order = fun a b => sortOrder b a := by
      funext a b
      have hswap : sortOrder b a = (sortOrder a b).swap := OrientedCmp.eq_swap
      exact hswap.symm
    rw [h]
    exact TransCmp.opposite

/-! ### Records -/

instance (bound : BoundSort) : TransCmp bound.compareRecords where
  eq_swap {a b} := by
    have hpresent (x y : Value) :
        bound.key.direction.order x y = (bound.key.direction.order y x).swap :=
      OrientedCmp.eq_swap
    simp only [BoundSort.compareRecords]
    cases a.get? bound.key.name <;> cases b.get? bound.key.name <;> try rfl
    exact hpresent _ _
  isLE_trans {a b c} hab hbc := by
    have hpresent (x y z : Value) (hxy : (bound.key.direction.order x y).isLE = true)
        (hyz : (bound.key.direction.order y z).isLE = true) :
        (bound.key.direction.order x z).isLE = true := TransCmp.isLE_trans hxy hyz
    simp only [BoundSort.compareRecords] at *
    cases ha : a.get? bound.key.name <;> cases hb : b.get? bound.key.name <;>
      cases hc : c.get? bound.key.name <;> simp only [ha, hb, hc] at * <;> try contradiction
    all_goals try rfl
    exact hpresent _ _ _ hab hbc

lemma compareRecords_cons (bound : BoundSort) (sorts : List BoundSort) :
    compareRecords (bound :: sorts) = compareLex bound.compareRecords (compareRecords sorts) := rfl

lemma compareRecords_append (l m : List BoundSort) :
    compareRecords (l ++ m) = compareLex (compareRecords l) (compareRecords m) := by
  induction l with
  | nil => rfl
  | cons s l ih =>
    rw [List.cons_append, compareRecords_cons, ih]
    funext a b
    exact (Ordering.then_assoc _ _ _).symm

instance (sorts : List BoundSort) : TransCmp (compareRecords sorts) := by
  induction sorts with
  | nil => exact { eq_swap := rfl, isLE_trans := fun _ _ => rfl }
  | cons bound sorts ih =>
    rw [compareRecords_cons]
    infer_instance

/-! ### In words -/

namespace BoundSort

variable (bound : BoundSort) (a b : Record)

/-- The records do not differ by the sort: both lack its attribute, or both have it with values
that are equal in the sort order. -/
inductive Ties : Prop where
  | absent (left : a.get? bound.key.name = none) (right : b.get? bound.key.name = none)
  | equal {x y : Value} (left : a.get? bound.key.name = some x)
    (right : b.get? bound.key.name = some y) (order : sortOrder x y = .eq)

/-- The sort puts the first record before the second: a present value before an absent one in
either direction, and present values as the direction asks. -/
inductive Precedes : Prop where
  | present {x : Value} (left : a.get? bound.key.name = some x)
    (right : b.get? bound.key.name = none)
  | rising {x y : Value} (left : a.get? bound.key.name = some x)
    (right : b.get? bound.key.name = some y) (direction : bound.key.direction = .asc)
    (order : sortOrder x y = .lt)
  | falling {x y : Value} (left : a.get? bound.key.name = some x)
    (right : b.get? bound.key.name = some y) (direction : bound.key.direction = .desc)
    (order : sortOrder x y = .gt)

variable {bound a b}

lemma compareRecords_eq_eq_iff : bound.compareRecords a b = .eq ↔ bound.Ties a b := by
  constructor
  · intro h
    cases ha : a.get? bound.key.name <;> cases hb : b.get? bound.key.name <;>
      simp only [compareRecords, ha, hb, reduceCtorEq] at h
    · exact .absent ha hb
    · refine .equal ha hb ?_
      cases hd : bound.key.direction <;> simpa [hd, Direction.apply] using h
  · rintro (⟨ha, hb⟩ | ⟨ha, hb, h⟩)
    · simp [compareRecords, ha, hb]
    · cases hd : bound.key.direction <;> simp [compareRecords, ha, hb, h, hd, Direction.apply]

lemma compareRecords_eq_lt_iff : bound.compareRecords a b = .lt ↔ bound.Precedes a b := by
  constructor
  · intro h
    cases ha : a.get? bound.key.name <;> cases hb : b.get? bound.key.name <;>
      simp only [compareRecords, ha, hb, reduceCtorEq] at h
    · exact .present ha hb
    · cases hd : bound.key.direction
      · exact .rising ha hb hd (by simpa [hd, Direction.apply] using h)
      · exact .falling ha hb hd (by simpa [hd, Direction.apply] using h)
  · rintro (⟨ha, hb⟩ | ⟨ha, hb, hd, h⟩ | ⟨ha, hb, hd, h⟩)
    · simp [compareRecords, ha, hb]
    · simp [compareRecords, ha, hb, h, hd, Direction.apply]
    · simp [compareRecords, ha, hb, h, hd, Direction.apply]

end BoundSort

/-- The records do not differ by any of the sorts. -/
def TieOn (sorts : List BoundSort) (a b : Record) : Prop := ∀ s ∈ sorts, s.Ties a b

/-- The first of the sorts by which the records differ, if there is one, puts the first record
before the second. -/
def InOrder (sorts : List BoundSort) (a b : Record) : Prop :=
  TieOn sorts a b ∨
    ∃ before s after, sorts = before ++ s :: after ∧ TieOn before a b ∧ s.Precedes a b

lemma tieOn_cons {s : BoundSort} {sorts : List BoundSort} {a b : Record} :
    TieOn (s :: sorts) a b ↔ s.Ties a b ∧ TieOn sorts a b := List.forall_mem_cons

lemma inOrder_cons {s : BoundSort} {sorts : List BoundSort} {a b : Record} :
    InOrder (s :: sorts) a b ↔ s.Precedes a b ∨ s.Ties a b ∧ InOrder sorts a b := by
  constructor
  · rintro (h | ⟨before, t, after, h, hb, ht⟩)
    · exact .inr ⟨(tieOn_cons.1 h).1, .inl (tieOn_cons.1 h).2⟩
    · cases before with
      | nil =>
        obtain ⟨rfl, rfl⟩ := List.cons.inj h
        exact .inl ht
      | cons u before =>
        obtain ⟨rfl, rfl⟩ := List.cons.inj h
        exact .inr ⟨(tieOn_cons.1 hb).1, .inr ⟨before, t, after, rfl, (tieOn_cons.1 hb).2, ht⟩⟩
  · rintro (h | ⟨hs, h | ⟨before, t, after, rfl, hb, ht⟩⟩)
    · exact .inr ⟨[], s, sorts, rfl, by simp [TieOn], h⟩
    · exact .inl (tieOn_cons.2 ⟨hs, h⟩)
    · exact .inr ⟨s :: before, t, after, rfl, tieOn_cons.2 ⟨hs, hb⟩, ht⟩

lemma compareRecords_eq_eq_iff {sorts : List BoundSort} {a b : Record} :
    compareRecords sorts a b = .eq ↔ TieOn sorts a b := by
  induction sorts with
  | nil => simp [compareRecords, TieOn]
  | cons s sorts ih =>
    rw [compareRecords, Ordering.then_eq_eq, s.compareRecords_eq_eq_iff, ih, tieOn_cons]

lemma compareRecords_isLE_iff {sorts : List BoundSort} {a b : Record} :
    (compareRecords sorts a b).isLE = true ↔ InOrder sorts a b := by
  induction sorts with
  | nil => simp [compareRecords, InOrder, TieOn]
  | cons s sorts ih =>
    rw [compareRecords, Ordering.isLE_then_iff_or, s.compareRecords_eq_lt_iff,
      s.compareRecords_eq_eq_iff, ih, inOrder_cons]

/-- The first sort by which the records differ decides. -/
lemma compareRecords_eq_lt_of_tieOn {before after : List BoundSort} {s : BoundSort} {a b : Record}
    (htie : TieOn before a b) (h : s.Precedes a b) :
    compareRecords (before ++ s :: after) a b = .lt := by
  rw [compareRecords_append, compareRecords_cons, compareLex, compareLex,
    compareRecords_eq_eq_iff.2 htie, BoundSort.compareRecords_eq_lt_iff.2 h]
  rfl

instance (sorts : List BoundSort) (a b : Record) : Decidable (TieOn sorts a b) :=
  decidable_of_iff _ compareRecords_eq_eq_iff

end RecordQuery
