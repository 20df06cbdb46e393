import Mathlib.Data.List.Basic
import Mathlib.Data.List.Perm.Basic

/-!
Stable sorting by a comparison under which different members may tie.

A list that is sorted by such a comparison is not determined by its members. It is determined by
its ties: for each member, the members that tie with it, in their order. A stable sort leaves the
ties as they were, so it commutes with filtering, and sorting by one comparison and then by
another is sorting once by the second, its ties broken by the first.
-/

namespace RecordQuery.StableSort

open Std

variable {α : Type*} (cmp : α → α → Ordering)

/-- The list in rising order; members that tie keep their places. -/
def sorted (l : List α) : List α := l.mergeSort fun a b => (cmp a b).isLE

/-- The members that tie with `x`, in their order. -/
def ties (x : α) (l : List α) : List α := l.filter fun y => (cmp x y).isEq

/-- No member comes before a smaller one. -/
def Rising (l : List α) : Prop := l.Pairwise fun a b => (cmp a b).isLE = true

/-- What a stable sort may make of a list, whatever its steps are: the members in rising order,
those that tie in the order in which they stood. -/
structure Arranges (l out : List α) : Prop where
  perm : out.Perm l
  rising : Rising cmp out
  stable : ∀ x, ties cmp x out = ties cmp x l

lemma sorted_perm (l : List α) : (sorted cmp l).Perm l := List.mergeSort_perm _ _

@[simp] lemma mem_sorted {l : List α} {x : α} : x ∈ sorted cmp l ↔ x ∈ l := List.mem_mergeSort

lemma sorted_of_rising {l : List α} (h : Rising cmp l) : sorted cmp l = l :=
  List.mergeSort_of_pairwise h

lemma ties_sublist (x : α) (l : List α) : (ties cmp x l).Sublist l := List.filter_sublist

lemma mem_ties {x y : α} {l : List α} : y ∈ ties cmp x l ↔ y ∈ l ∧ cmp x y = .eq := by
  simp [ties]

lemma ties_cons (x a : α) (l : List α) :
    ties cmp x (a :: l) = if cmp x a = .eq then a :: ties cmp x l else ties cmp x l := by
  simp [ties, List.filter_cons]

variable [TransCmp cmp]

lemma isLE_or_isLE (a b : α) : ((cmp a b).isLE || (cmp b a).isLE) = true := by
  have hswap : cmp b a = (cmp a b).swap := OrientedCmp.eq_swap
  rw [hswap]
  cases cmp a b <;> rfl

lemma rising_sorted (l : List α) : Rising cmp (sorted cmp l) :=
  List.pairwise_mergeSort (fun _ _ _ => TransCmp.isLE_trans) (isLE_or_isLE cmp) l

/-- Members that tie with one member tie with each other, so they are in rising order as they
stand. -/
lemma rising_ties (x : α) (l : List α) : Rising cmp (ties cmp x l) := by
  refine List.pairwise_of_forall_mem_list fun a ha b hb => ?_
  have hxa := ((mem_ties cmp).1 ha).2
  have hxb := ((mem_ties cmp).1 hb).2
  rw [← TransCmp.congr_left hxa, hxb]
  rfl

/-- **Stability.** Sorting leaves all ties as they were. -/
theorem ties_sorted (x : α) (l : List α) : ties cmp x (sorted cmp l) = ties cmp x l := by
  have hsub : (ties cmp x l).Sublist (sorted cmp l) :=
    List.sublist_mergeSort (fun _ _ _ => TransCmp.isLE_trans) (isLE_or_isLE cmp)
      (rising_ties cmp x l) (ties_sublist cmp x l)
  have hkeep := hsub.filter fun y => (cmp x y).isEq
  have hself : (ties cmp x l).filter (fun y => (cmp x y).isEq) = ties cmp x l := by
    simp [ties]
  rw [hself] at hkeep
  exact (hkeep.eq_of_length ((sorted_perm cmp l).symm.filter _).length_eq).symm

lemma mem_ties_self {x : α} {l : List α} : x ∈ ties cmp x l ↔ x ∈ l := by
  have hself : cmp x x = .eq := ReflCmp.compare_self
  simp [mem_ties, hself]

/-- The ties of a list tell its members. -/
lemma mem_iff_of_ties {l m : List α} (h : ∀ x, ties cmp x l = ties cmp x m) (x : α) :
    x ∈ l ↔ x ∈ m := by
  rw [← mem_ties_self cmp, h, mem_ties_self]

lemma head_isLE {a b : α} {l : List α} (h : Rising cmp (a :: l)) (hb : b ∈ a :: l) :
    (cmp a b).isLE = true := by
  rcases List.mem_cons.1 hb with rfl | hb
  · exact ReflCmp.isLE_rfl
  · exact List.rel_of_pairwise_cons h hb

/-- **Uniqueness.** Two lists in rising order with the same ties are the same. -/
theorem eq_of_rising {l m : List α} (hl : Rising cmp l) (hm : Rising cmp m)
    (h : ∀ x, ties cmp x l = ties cmp x m) : l = m := by
  induction l generalizing m with
  | nil => exact (List.eq_nil_iff_forall_not_mem.2 fun x hx => by
      simpa using (mem_iff_of_ties cmp h x).2 hx).symm
  | cons a l ih =>
    cases m with
    | nil => exact absurd ((mem_iff_of_ties cmp h a).1 List.mem_cons_self) List.not_mem_nil
    | cons b m =>
      -- each head occurs in the other list, so the heads tie, and ties agree in their order
      have hab := head_isLE cmp hl ((mem_iff_of_ties cmp h b).2 List.mem_cons_self)
      have hba := head_isLE cmp hm ((mem_iff_of_ties cmp h a).1 List.mem_cons_self)
      have hheads := h a
      rw [ties_cons, ties_cons, if_pos ReflCmp.compare_self,
        if_pos (OrientedCmp.isLE_antisymm hab hba)] at hheads
      obtain ⟨rfl, -⟩ := List.cons.inj hheads
      refine congrArg (a :: ·) (ih hl.tail hm.tail fun x => ?_)
      have hx := h x
      rw [ties_cons, ties_cons] at hx
      split at hx
      · exact (List.cons.inj hx).2
      · exact hx

/-- A list in rising order with the ties of `l` is `l` sorted. -/
lemma eq_sorted {l out : List α} (hr : Rising cmp out) (ht : ∀ x, ties cmp x out = ties cmp x l) :
    out = sorted cmp l :=
  eq_of_rising cmp hr (rising_sorted cmp l) fun x => (ht x).trans (ties_sorted cmp x l).symm

/-- All stable sorts make the same of a list. -/
lemma arranges_iff {l out : List α} : Arranges cmp l out ↔ sorted cmp l = out := by
  constructor
  · intro h
    exact (eq_sorted cmp h.rising h.stable).symm
  · rintro rfl
    exact ⟨sorted_perm cmp l, rising_sorted cmp l, fun x => ties_sorted cmp x l⟩

/-- Comparisons that agree on the members of a list sort it alike. -/
theorem sorted_congr {cmp' : α → α → Ordering} [TransCmp cmp'] {l : List α}
    (h : ∀ a ∈ l, ∀ b ∈ l, cmp a b = cmp' a b) : sorted cmp l = sorted cmp' l := by
  refine eq_sorted cmp' ?_ fun x => ?_
  · refine (rising_sorted cmp l).imp_of_mem fun {a b} ha hb hab => ?_
    rw [← h a ((mem_sorted cmp).1 ha) b ((mem_sorted cmp).1 hb)]
    exact hab
  · by_cases hx : ∃ y ∈ l, cmp' x y = .eq
    · -- what ties with `x` ties with a member of the list, and there the comparisons agree
      obtain ⟨y, hy, hxy⟩ := hx
      have hties : ∀ m : List α, (∀ z ∈ m, z ∈ l) → ties cmp' x m = ties cmp y m := fun m hm =>
        List.filter_congr fun z hz => by rw [TransCmp.congr_left hxy, h y hy z (hm z hz)]
      rw [hties _ fun z hz => (mem_sorted cmp).1 hz, hties l fun _ hz => hz, ties_sorted]
    · have hnone : ∀ m : List α, (∀ z ∈ m, z ∈ l) → ties cmp' x m = [] := fun m hm =>
        List.eq_nil_iff_forall_not_mem.2 fun z hz =>
          hx ⟨z, hm z ((mem_ties cmp').1 hz).1, ((mem_ties cmp').1 hz).2⟩
      rw [hnone _ fun z hz => (mem_sorted cmp).1 hz, hnone l fun _ hz => hz]

/-- Filtering a sorted list is sorting the filtered one. -/
theorem filter_sorted (p : α → Bool) (l : List α) :
    (sorted cmp l).filter p = sorted cmp (l.filter p) := by
  refine eq_sorted cmp ((rising_sorted cmp l).filter p) fun x => ?_
  calc ties cmp x ((sorted cmp l).filter p)
      = (ties cmp x (sorted cmp l)).filter p := List.filter_comm _ _ _
    _ = (ties cmp x l).filter p := by rw [ties_sorted]
    _ = ties cmp x (l.filter p) := List.filter_comm _ _ _

/-! ### The order of members in the result -/

/-- Members that tie are found in a list where they are found among the ties of the first. -/
lemma sublist_ties_iff {a : α} {l m : List α} (h : (a :: m).Pairwise fun b c => cmp b c = .eq) :
    (a :: m).Sublist (ties cmp a l) ↔ (a :: m).Sublist l := by
  refine ⟨fun hsub => hsub.trans (ties_sublist cmp a l), fun hsub => ?_⟩
  have hself : ties cmp a (a :: m) = a :: m := List.filter_eq_self.2 fun b hb => by
    rcases List.mem_cons.1 hb with rfl | hb
    · simp [ReflCmp.compare_self]
    · simp [List.rel_of_pairwise_cons h hb]
  exact hself ▸ hsub.filter fun y => (cmp a y).isEq

/-- Among members that tie, sorting changes nothing: they stand in the sorted list as they stood
before. -/
theorem sublist_sorted_iff {l m : List α} (h : m.Pairwise fun a b => cmp a b = .eq) :
    m.Sublist (sorted cmp l) ↔ m.Sublist l := by
  cases m with
  | nil => simp
  | cons a m => rw [← sublist_ties_iff cmp h, ties_sorted, sublist_ties_iff cmp h]

omit [TransCmp cmp] in
lemma sublist_or_sublist_of_mem {a b : α} {l : List α} (ha : a ∈ l) (hb : b ∈ l) (hab : a ≠ b) :
    [a, b].Sublist l ∨ [b, a].Sublist l := by
  obtain ⟨front, back, rfl⟩ := List.append_of_mem ha
  rcases List.mem_append.1 hb with hb | hb
  · have hpair : ([b] ++ [a]).Sublist (front ++ a :: back) :=
      (List.singleton_sublist.2 hb).append (List.singleton_sublist.2 List.mem_cons_self)
    exact .inr hpair
  · have hback : b ∈ back := (List.mem_cons.1 hb).resolve_left hab.symm
    have hpair : [a, b].Sublist (a :: back) := (List.singleton_sublist.2 hback).cons_cons a
    exact .inl (hpair.trans (List.sublist_append_right front _))

/-- A smaller member stands before a greater one, and never after it. -/
theorem sublist_sorted_of_lt {a b : α} {l : List α} (ha : a ∈ l) (hb : b ∈ l)
    (h : cmp a b = .lt) : [a, b].Sublist (sorted cmp l) ∧ ¬[b, a].Sublist (sorted cmp l) := by
  have hnot : ¬[b, a].Sublist (sorted cmp l) := fun hsub => by
    have hle := List.pairwise_iff_forall_sublist.1 (rising_sorted cmp l) hsub
    rw [OrientedCmp.gt_of_lt h] at hle
    exact Bool.false_ne_true hle
  have hne : a ≠ b := by
    rintro rfl
    cases h.symm.trans ReflCmp.compare_self
  have hmem := sublist_or_sublist_of_mem ((mem_sorted cmp).2 ha) ((mem_sorted cmp).2 hb) hne
  exact ⟨hmem.resolve_right hnot, hnot⟩

lemma sorted_pair_of_lt {a b : α} (h : cmp b a = .lt) : sorted cmp [a, b] = [b, a] := by
  have hsub := (sublist_sorted_of_lt cmp (l := [a, b]) (by simp) (by simp) h).1
  exact (hsub.eq_of_length (sorted_perm cmp [a, b]).length_eq.symm).symm

/-! ### One comparison after another -/

variable (cmp' : α → α → Ordering)

omit [TransCmp cmp] in
lemma ties_compareLex (x : α) (l : List α) :
    ties (compareLex cmp cmp') x l = ties cmp' x (ties cmp x l) := by
  simp only [ties, compareLex, Ordering.isEq_then, List.filter_filter, Bool.and_comm]

/-- A list in rising order, each class of ties in rising order of a second comparison, is in
rising order of both together. -/
lemma rising_compareLex {l : List α} (h : Rising cmp l) (h' : ∀ x, Rising cmp' (ties cmp x l)) :
    Rising (compareLex cmp cmp') l := by
  refine List.pairwise_iff_forall_sublist.2 fun {a b} hab => ?_
  have hle := List.pairwise_iff_forall_sublist.1 h hab
  refine Ordering.isLE_then_iff_and.2 ⟨hle, ?_⟩
  rcases Ordering.isLE_iff_eq_lt_or_eq_eq.1 hle with hlt | heq
  · exact .inl hlt
  · have hties := hab.filter fun y => (cmp a y).isEq
    have hpair : [a, b].filter (fun y => (cmp a y).isEq) = [a, b] := by
      simp [heq, ReflCmp.compare_self]
    rw [hpair] at hties
    exact .inr (List.pairwise_iff_forall_sublist.1 (h' a) hties)

/-- **One sort after another.** To sort by `cmp'` and then by `cmp` is to sort once by `cmp`, its
ties broken by `cmp'`. -/
theorem sorted_sorted [TransCmp cmp'] (l : List α) :
    sorted cmp (sorted cmp' l) = sorted (compareLex cmp cmp') l := by
  refine eq_sorted _ (rising_compareLex cmp cmp' (rising_sorted cmp _) fun x => ?_) fun x => ?_
  · rw [ties_sorted]
    exact (rising_sorted cmp' l).sublist (ties_sublist cmp x _)
  · calc ties (compareLex cmp cmp') x (sorted cmp (sorted cmp' l))
        = ties cmp' x (ties cmp x (sorted cmp' l)) := by rw [ties_compareLex, ties_sorted]
      _ = ties cmp x (ties cmp' x (sorted cmp' l)) := List.filter_comm _ _ _
      _ = ties cmp x (ties cmp' x l) := by rw [ties_sorted]
      _ = ties cmp' x (ties cmp x l) := List.filter_comm _ _ _
      _ = ties (compareLex cmp cmp') x l := (ties_compareLex cmp cmp' x l).symm

/-! ### Cuts -/

omit [TransCmp cmp] in
/-- A property that passes from each member to those before it holds up to one place of the list
and not after it. -/
lemma exists_cut {P : α → Prop} {l : List α} (h : l.Pairwise fun a b => P b → P a) :
    ∃ front back, l = front ++ back ∧ (∀ a ∈ front, P a) ∧ ∀ a ∈ back, ¬P a := by
  induction l with
  | nil => exact ⟨[], [], rfl, by simp, by simp⟩
  | cons a l ih =>
    obtain ⟨hhead, htail⟩ := List.pairwise_cons.1 h
    by_cases ha : P a
    · obtain ⟨front, back, rfl, hfront, hback⟩ := ih htail
      exact ⟨a :: front, back, rfl, List.forall_mem_cons.2 ⟨ha, hfront⟩, hback⟩
    · have hnone : ∀ b ∈ a :: l, ¬P b :=
        List.forall_mem_cons.2 ⟨ha, fun b hb hPb => ha (hhead b hb hPb)⟩
      exact ⟨[], a :: l, rfl, by simp, hnone⟩

omit [TransCmp cmp] in
/-- A test that passes from each member to those before it picks out a prefix. -/
lemma filter_prefix_of_pairwise {p : α → Bool} {l : List α}
    (h : l.Pairwise fun a b => p b = true → p a = true) : l.filter p <+: l := by
  obtain ⟨front, back, rfl, hfront, hback⟩ := exists_cut h
  rw [List.filter_append, List.filter_eq_self.2 hfront, List.filter_eq_nil_iff.2 hback,
    List.append_nil]
  exact List.prefix_append _ _

omit [TransCmp cmp] in
/-- A test that passes from each member to those after it picks out a suffix. -/
lemma filter_suffix_of_pairwise {p : α → Bool} {l : List α}
    (h : l.Pairwise fun a b => p a = true → p b = true) : l.filter p <:+ l := by
  obtain ⟨front, back, rfl, hfront, hback⟩ := exists_cut (P := fun a => ¬p a = true)
    (h.imp fun hab hb ha => hb (hab ha))
  rw [List.filter_append, List.filter_eq_nil_iff.2 hfront,
    List.filter_eq_self.2 fun a ha => not_not.1 (hback a ha), List.nil_append]
  exact List.suffix_append _ _

end RecordQuery.StableSort
