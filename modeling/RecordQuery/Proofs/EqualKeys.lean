import RecordQuery.Proofs.Apply
import RecordQuery.Proofs.OrderDomain

/-!
What a query does to records that are equal by its sorts.

Sorting goes by the bits of a float and equality by its value. For values that can be ordered the
two differ on the zeros alone: a negative zero is equal to a positive one and is sorted before it.
So records whose values are equal, and none of them zeros of opposite sign, stay in their order,
and a later sort decides between records that the earlier ones do not tell apart; two zeros of
opposite sign are told apart like any two values that are not equal.
-/

namespace RecordQuery

open Std StableSort

/-! ### Floats: bits and values -/

namespace Binary64

variable {x y : Binary64}

/-- The order by bits has a place for each number. -/
lemma totalKey_injective (h : x.totalKey = y.totalKey) : x = y := by
  unfold totalKey at h
  cases hx : x.isNegative <;> cases hy : y.isNegative <;>
    simp only [hx, hy, if_true, Bool.false_eq_true, if_false] at h
  · exact ext_magnitude (hx.trans hy.symm) (by omega)
  · omega
  · omega
  · exact ext_magnitude (hx.trans hy.symm) (by omega)

lemma isNegative_zero (negative : Bool) : (zero negative).isNegative = negative := by
  cases negative <;> rfl

lemma magnitude_zero (negative : Bool) : (zero negative).magnitude = 0 := by
  cases negative <;> rfl

lemma eq_zero_of_magnitude (h : x.magnitude = 0) : x = zero x.isNegative :=
  ext_magnitude (isNegative_zero _).symm (h.trans (magnitude_zero _).symm)

/-- Numbers of one value that are not the same number are the two zeros. -/
lemma eq_or_zeros_of_key_eq (h : x.key = y.key) :
    x = y ∨ ∃ negative, x = zero negative ∧ y = zero !negative := by
  have hmag := magnitude_eq_of_key_eq h
  by_cases hsign : x.isNegative = y.isNegative
  · exact .inl (ext_magnitude hsign hmag)
  · have hx : x.magnitude = 0 := by
      by_contra hm
      exact hsign (isNegative_eq_of_key_eq h hm)
    have hy : y.isNegative = !x.isNegative := Bool.eq_not.2 (Ne.symm hsign)
    exact .inr ⟨_, eq_zero_of_magnitude hx, hy ▸ eq_zero_of_magnitude (hmag ▸ hx)⟩

lemma compareTotal_eq_eq_iff : x.compareTotal y = .eq ↔ x = y := by
  rw [compareTotal, Int.compare_eq_eq]
  exact ⟨totalKey_injective, fun h => h ▸ rfl⟩

/-- The order by bits is the order by value, with the negative zero before the positive one. -/
lemma compareTotal_eq_lt_iff (hx : x.isNaN = false) (hy : y.isNaN = false) :
    x.compareTotal y = .lt ↔ x.lt y = true ∨ x = zero true ∧ y = zero false := by
  rw [lt_iff hx hy]
  by_cases hkey : x.key = y.key
  · rcases eq_or_zeros_of_key_eq hkey with rfl | ⟨negative, rfl, rfl⟩
    · -- one number: neither less than itself nor both zeros at once
      refine iff_of_false (by simp [compareTotal]) ?_
      rintro (hlt | ⟨hneg, hpos⟩)
      · exact Int.lt_irrefl _ hlt
      · exact absurd (hneg.symm.trans hpos) (by decide)
    · cases negative <;> decide
  · rw [compareTotal_of_key_ne hkey, Int.compare_eq_lt]
    refine ⟨.inl, fun h => h.resolve_right ?_⟩
    rintro ⟨rfl, rfl⟩
    exact hkey (by decide)

end Binary64

/-! ### Values -/

namespace Value

/-- Two zeros, one negative and one positive. -/
def OppositeZeros (v w : Value) : Prop :=
  ∃ negative, v = .float (.zero negative) ∧ w = .float (.zero !negative)

/-- The first value has its place before the second: it is the lesser of two values of a type, or
the negative one of the two zeros. -/
inductive Before : Value → Value → Prop where
  | string {a b : String} (h : a < b) : Before (.string a) (.string b)
  | bool : Before (.bool false) (.bool true)
  | int {m n : Int64} (h : m.toInt < n.toInt) : Before (.int m) (.int n)
  | float {x y : Binary64} (h : x.lt y = true) : Before (.float x) (.float y)
  | zeros : Before (.float (.zero true)) (.float (.zero false))

end Value

/-- Values have one place if they are one value, NaNs included, or if they are two lists or two
sets. -/
lemma sortOrder_eq_eq_iff {v w : Value} :
    sortOrder v w = .eq ↔ v = w ∨ v.tag = w.tag ∧ v.tag.isCollection = true := by
  by_cases h : v.tag = w.tag
  · match v, w, h with
    | .string a, .string b, _ => simp [sortOrder, Value.tag, TypeTag.isCollection]
    | .bool a, .bool b, _ => simp [sortOrder, Value.tag, TypeTag.isCollection]
    | .int m, .int n, _ => simp [sortOrder, Int64.toInt_inj, Value.tag, TypeTag.isCollection]
    | .float x, .float y, _ =>
      simp [sortOrder, Binary64.compareTotal_eq_eq_iff, Value.tag, TypeTag.isCollection]
    | .list _, .list _, _ | .set _, .set _, _ => exact iff_of_true rfl (.inr ⟨rfl, rfl⟩)
  · rw [sortOrder_of_tag_ne h, TypeTag.compare_rank_eq_eq_iff]
    refine iff_of_false h ?_
    rintro (rfl | ⟨htag, -⟩)
    · exact h rfl
    · exact h htag

namespace Compares

variable {s : Schema} {v w : Value} {o : Ordering}

/-- Among values that can be ordered, only a value and itself have one place. -/
lemma sortOrder_eq_eq_iff (h : Compares s v w o) : sortOrder v w = .eq ↔ v = w := by
  rw [RecordQuery.sortOrder_eq_eq_iff]
  refine or_iff_left ?_
  rintro ⟨-, hcollection⟩
  cases h <;> cases hcollection

lemma sortOrder_eq_lt_iff (h : Compares s v w o) : sortOrder v w = .lt ↔ v.Before w := by
  cases h with
  | string a b =>
    have hless : compare a b = .lt ↔ a < b := compareOfLessAndEq_eq_lt
    rw [sortOrder, hless]
    constructor
    · exact .string
    · intro h
      cases h with
      | string hlt => exact hlt
  | bool a b =>
    constructor
    · intro h
      cases a <;> cases b <;> first | exact .bool | cases h
    · rintro ⟨⟩
      rfl
  | int m n =>
    rw [sortOrder, Int.compare_eq_lt]
    constructor
    · exact .int
    · intro h
      cases h with
      | int hlt => exact hlt
  | float hx hy =>
    rw [sortOrder, Binary64.compareTotal_eq_lt_iff hx hy]
    constructor
    · rintro (h | ⟨rfl, rfl⟩)
      · exact .float h
      · exact .zeros
    · intro h
      cases h with
      | float hlt => exact .inl hlt
      | zeros => exact .inr ⟨rfl, rfl⟩

/-- Equal values have one place, but for the zeros of opposite sign. -/
lemma eqv_and_not_oppositeZeros_iff (h : Compares s v w o) :
    v.eqv w = true ∧ ¬v.OppositeZeros w ↔ v = w := by
  cases h with
  | string a b | bool a b | int m n => simp [Value.eqv, Value.OppositeZeros]
  | @float x y hx hy =>
    constructor
    · rintro ⟨heqv, hzeros⟩
      rcases Binary64.eq_or_zeros_of_key_eq (Binary64.eqv_iff.1 heqv).2.2 with rfl | hne
      · rfl
      · obtain ⟨negative, rfl, rfl⟩ := hne
        exact absurd ⟨negative, rfl, rfl⟩ hzeros
    · rintro ⟨⟩
      refine ⟨(Binary64.eqv_self_iff x).2 hx, ?_⟩
      rintro ⟨negative, hv, hw⟩
      have hsign : Binary64.zero negative = .zero !negative :=
        Value.float.inj (hv.symm.trans hw)
      cases negative <;> exact absurd hsign (by decide)

end Compares

/-! ### Records -/

namespace BoundSort

variable (bound : BoundSort) (a b : Record)

/-- Both records lack the attribute of the sort, or they have equal values for it. -/
inductive EqualOn : Prop where
  | absent (left : a.get? bound.key.name = none) (right : b.get? bound.key.name = none)
  | equal {v w : Value} (left : a.get? bound.key.name = some v)
    (right : b.get? bound.key.name = some w) (eqv : v.eqv w = true)

/-- The records have the two zeros for the sort. -/
def ZerosApart : Prop :=
  ∃ v w, a.get? bound.key.name = some v ∧ b.get? bound.key.name = some w ∧ v.OppositeZeros w

/-- The sort puts the first record before the second: it has a value and the other has none, or
its value comes before or after the other's as the direction asks. -/
inductive PutsFirst : Prop where
  | present {v : Value} (left : a.get? bound.key.name = some v)
    (right : b.get? bound.key.name = none)
  | rising {v w : Value} (left : a.get? bound.key.name = some v)
    (right : b.get? bound.key.name = some w) (direction : bound.key.direction = .asc)
    (before : v.Before w)
  | falling {v w : Value} (left : a.get? bound.key.name = some v)
    (right : b.get? bound.key.name = some w) (direction : bound.key.direction = .desc)
    (before : w.Before v)

variable {bound a b}

lemma Orderable.exists_compares {v w : Value} (ha : bound.Orderable a) (hb : bound.Orderable b)
    (hv : a.get? bound.key.name = some v) (hw : b.get? bound.key.name = some w) :
    ∃ o, Compares bound.schema v w o := by
  obtain ⟨o, ho⟩ := exists_compareValues_iff_orderable.2 ⟨ha v hv, hb w hw⟩
  exact ⟨o, compareValues_eq_ok_iff.1 ho⟩

lemma ties_iff (ha : bound.Orderable a) (hb : bound.Orderable b) :
    bound.Ties a b ↔ bound.EqualOn a b ∧ ¬bound.ZerosApart a b := by
  constructor
  · rintro (⟨hv, hw⟩ | ⟨hv, hw, h⟩)
    · refine ⟨.absent hv hw, ?_⟩
      rintro ⟨_, _, hv', -⟩
      cases hv.symm.trans hv'
    · obtain ⟨o, ho⟩ := ha.exists_compares hb hv hw
      obtain ⟨heqv, hzeros⟩ :=
        ho.eqv_and_not_oppositeZeros_iff.2 (ho.sortOrder_eq_eq_iff.1 h)
      refine ⟨.equal hv hw heqv, ?_⟩
      rintro ⟨_, _, hv', hw', h'⟩
      cases hv.symm.trans hv'
      cases hw.symm.trans hw'
      exact hzeros h'
  · rintro ⟨⟨hv, hw⟩ | ⟨hv, hw, heqv⟩, hzeros⟩
    · exact .absent hv hw
    · obtain ⟨o, ho⟩ := ha.exists_compares hb hv hw
      have hsame := ho.eqv_and_not_oppositeZeros_iff.1 ⟨heqv, fun h => hzeros ⟨_, _, hv, hw, h⟩⟩
      exact .equal hv hw (ho.sortOrder_eq_eq_iff.2 hsame)

lemma precedes_iff (ha : bound.Orderable a) (hb : bound.Orderable b) :
    bound.Precedes a b ↔ bound.PutsFirst a b := by
  constructor
  · rintro (⟨hv, hw⟩ | ⟨hv, hw, hd, h⟩ | ⟨hv, hw, hd, h⟩)
    · exact .present hv hw
    · obtain ⟨o, ho⟩ := ha.exists_compares hb hv hw
      exact .rising hv hw hd (ho.sortOrder_eq_lt_iff.1 h)
    · obtain ⟨o, ho⟩ := hb.exists_compares ha hw hv
      exact .falling hv hw hd (ho.sortOrder_eq_lt_iff.1 (OrientedCmp.lt_of_gt h))
  · rintro (⟨hv, hw⟩ | ⟨hv, hw, hd, h⟩ | ⟨hv, hw, hd, h⟩)
    · exact .present hv hw
    · obtain ⟨o, ho⟩ := ha.exists_compares hb hv hw
      exact .rising hv hw hd (ho.sortOrder_eq_lt_iff.2 h)
    · obtain ⟨o, ho⟩ := hb.exists_compares ha hw hv
      exact .falling hv hw hd (OrientedCmp.gt_of_lt (ho.sortOrder_eq_lt_iff.2 h))

/-- A sort that does not leave two records as they are puts one of them first. -/
lemma putsFirst_or_putsFirst_iff (ha : bound.Orderable a) (hb : bound.Orderable b) :
    bound.PutsFirst a b ∨ bound.PutsFirst b a ↔
      ¬(bound.EqualOn a b ∧ ¬bound.ZerosApart a b) := by
  rw [← precedes_iff ha hb, ← precedes_iff hb ha, ← ties_iff ha hb, ← compareRecords_eq_lt_iff,
    ← compareRecords_eq_lt_iff, ← compareRecords_eq_eq_iff]
  have hswap : bound.compareRecords b a = (bound.compareRecords a b).swap := OrientedCmp.eq_swap
  rw [hswap]
  cases bound.compareRecords a b <;> decide

end BoundSort

lemma tieOn_iff {sorts : List BoundSort} {a b : Record} (ha : ∀ s ∈ sorts, s.Orderable a)
    (hb : ∀ s ∈ sorts, s.Orderable b) :
    TieOn sorts a b ↔ ∀ s ∈ sorts, s.EqualOn a b ∧ ¬s.ZerosApart a b :=
  forall₂_congr fun s hs => BoundSort.ties_iff (ha s hs) (hb s hs)

/-- **Records with equal keys keep their order, but for zeros of opposite sign.** Accepted records
that are equal by all sorts stand in the result as they stood before, and where records are equal
by the leading sorts, the next sort that puts one of them first decides, in its direction. A sort
puts none of two records first exactly if they are equal by it and do not have the two zeros for
it; of the zeros, the negative one counts as the lesser. -/
theorem Query.apply_keeps_equal_keys {q : Query} {records out : List Record}
    (h : q.apply records = .ok out) :
    (∀ l : List Record,
      l.Pairwise (fun a b => ∀ s ∈ q.sorts, s.EqualOn a b ∧ ¬s.ZerosApart a b) →
      (l.Sublist out ↔ l.Sublist (q.accepted records))) ∧
    (∀ before s after, q.sorts = before ++ s :: after →
      ∀ a ∈ q.accepted records, ∀ b ∈ q.accepted records,
        (∀ t ∈ before, t.EqualOn a b ∧ ¬t.ZerosApart a b) → s.PutsFirst a b →
        [a, b].Sublist out ∧ ¬[b, a].Sublist out) ∧
    ∀ a ∈ q.accepted records, ∀ b ∈ q.accepted records, ∀ s ∈ q.sorts,
      s.PutsFirst a b ∨ s.PutsFirst b a ↔ ¬(s.EqualOn a b ∧ ¬s.ZerosApart a b) := by
  obtain ⟨-, hsortable, rfl⟩ := apply_eq_ok_iff.1 h
  refine ⟨fun l hl => ?_, fun before s after hs a ha b hb heq hfirst => ?_,
    fun a ha b hb s hs => ?_⟩
  · -- on either side the list is one of accepted records, which can be ordered by all sorts
    have hkeep (hmem : ∀ r ∈ l, r ∈ q.accepted records) :
        l.Sublist (sorted (compareRecords q.sorts) (q.accepted records)) ↔
          l.Sublist (q.accepted records) := by
      refine sublist_sorted_iff _ (hl.imp_of_mem fun {a b} ha hb hab => ?_)
      exact compareRecords_eq_eq_iff.2
        ((tieOn_iff (hsortable a (hmem a ha)) (hsortable b (hmem b hb))).2 hab)
    exact ⟨fun hsub => (hkeep fun r hr => (mem_sorted _).1 (hsub.subset hr)).1 hsub,
      fun hsub => (hkeep fun r hr => hsub.subset hr).2 hsub⟩
  · have horderable : ∀ r ∈ q.accepted records,
        (∀ t ∈ before, t.Orderable r) ∧ s.Orderable r := fun r hr => by
      have hall : ∀ t ∈ before ++ s :: after, t.Orderable r := hs ▸ hsortable r hr
      exact ⟨fun t ht => hall t (List.mem_append_left _ ht), hall s (by simp)⟩
    obtain ⟨hbefore, hsa⟩ := horderable a ha
    obtain ⟨hbefore', hsb⟩ := horderable b hb
    rw [hs]
    exact sublist_sorted_of_lt _ ha hb (compareRecords_eq_lt_of_tieOn
      ((tieOn_iff hbefore hbefore').2 heq) ((BoundSort.precedes_iff hsa hsb).2 hfirst))
  · exact BoundSort.putsFirst_or_putsFirst_iff (hsortable a ha s hs) (hsortable b hb s hs)

namespace Sample

def priceSort : BoundSort := ⟨byPrice, .float⟩

def nameSort : BoundSort := ⟨byName, .string⟩

lemma sortable_server {sorts : List BoundSort} (hs : sorts ⊆ [priceSort, nameSort])
    (name : String) {x : Binary64} (hx : x.isNaN = false) :
    Query.Sortable ⟨[], sorts⟩ (server name x) := by
  intro s hmem v hv
  rcases List.mem_pair.1 (hs hmem) with rfl | rfl
  · cases (get?_price_server name x).symm.trans hv
    exact (checkOrderable_eq_ok_iff_orderable rfl).2 (Value.orderable_float hx)
  · cases (get?_name_server name x).symm.trans hv
    rfl

/-- Without filters, two servers are put into the order of the sorts. -/
lemma apply_servers {sorts : List BoundSort} (hs : sorts ⊆ [priceSort, nameSort])
    {name name' : String} {x y : Binary64} (hx : x.isNaN = false) (hy : y.isNaN = false)
    (h : compareRecords sorts (server name' y) (server name x) = .lt) :
    Query.apply ⟨[], sorts⟩ [server name x, server name' y] =
      .ok [server name' y, server name x] := by
  refine Query.apply_eq_ok_iff.2 ⟨fun _ _ => ⟨true, rfl⟩, fun r hr => ?_, sorted_pair_of_lt _ h⟩
  rcases List.mem_pair.1 (List.mem_filter.1 hr).1 with rfl | rfl
  · exact sortable_server hs name hx
  · exact sortable_server hs name' hy

/-- Two servers of one price. -/
def cheapWeb : Record := server "web" .epsilon

def cheapDb : Record := server "db" .epsilon

/-- Two servers whose prices are zeros of opposite sign. -/
def freeWeb : Record := server "web" (.zero false)

def negativeDb : Record := server "db" (.zero true)

end Sample

open Sample in
theorem Query.apply_keeps_equal_keys_sample :
    Query.apply ⟨[], [priceSort, nameSort]⟩ [cheapWeb, cheapDb] = .ok [cheapDb, cheapWeb] ∧
    (priceSort.EqualOn cheapDb cheapWeb ∧ ¬priceSort.ZerosApart cheapDb cheapWeb) ∧
    nameSort.PutsFirst cheapDb cheapWeb ∧ ¬[cheapWeb, cheapDb].Sublist [cheapDb, cheapWeb] := by
  have happly : Query.apply ⟨[], [priceSort, nameSort]⟩ [cheapWeb, cheapDb] =
      .ok [cheapDb, cheapWeb] :=
    apply_servers (List.Subset.refl _) (by decide) (by decide) (by decide)
  have hprice : priceSort.EqualOn cheapDb cheapWeb ∧ ¬priceSort.ZerosApart cheapDb cheapWeb := by
    refine ⟨.equal (get?_price_server _ _) (get?_price_server _ _) (by decide), ?_⟩
    rintro ⟨v, w, hv, -, negative, rfl, -⟩
    have hzero : Binary64.epsilon = .zero negative :=
      Value.float.inj (Option.some.inj ((get?_price_server _ _).symm.trans hv))
    cases negative <;> exact absurd hzero (by decide)
  have hname : nameSort.PutsFirst cheapDb cheapWeb :=
    .rising (get?_name_server _ _) (get?_name_server _ _) rfl (.string (by decide))
  have haccepted : ∀ r ∈ [cheapWeb, cheapDb],
      r ∈ accepted ⟨[], [priceSort, nameSort]⟩ [cheapWeb, cheapDb] := fun r hr =>
    List.mem_filter.2 ⟨hr, rfl⟩
  have hdecides := (apply_keeps_equal_keys happly).2.1 [priceSort] nameSort [] rfl
    cheapDb (haccepted _ (by simp)) cheapWeb (haccepted _ (by simp))
    (List.forall_mem_singleton.2 hprice) hname
  exact ⟨happly, hprice, hname, hdecides.2⟩

open Sample in
/-- Two servers whose prices are zeros of opposite sign are equal by the price, and yet that sort
alone reverses them, and it keeps a later one from deciding by the names. -/
theorem equal_zeros_reordered :
    priceSort.EqualOn negativeDb freeWeb ∧ nameSort.PutsFirst negativeDb freeWeb ∧
    Query.apply ⟨[], [priceSort]⟩ [negativeDb, freeWeb] = .ok [freeWeb, negativeDb] ∧
    Query.apply ⟨[], [priceSort, nameSort]⟩ [negativeDb, freeWeb] = .ok [freeWeb, negativeDb] := by
  refine ⟨.equal (get?_price_server _ _) (get?_price_server _ _) (by decide),
    .rising (get?_name_server _ _) (get?_name_server _ _) rfl (.string (by decide)), ?_, ?_⟩
  · exact apply_servers (by simp) (by decide) (by decide) (by decide)
  · exact apply_servers (List.Subset.refl _) (by decide) (by decide) (by decide)

end RecordQuery
