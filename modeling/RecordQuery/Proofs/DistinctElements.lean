import Mathlib.Data.List.Induction
import RecordQuery.Proofs.EqualityLaws
import RecordQuery.Proofs.SetDecoding

/-!
The elements that a set keeps, and that they do not depend on how the document lists them.

No two of them are equal, and every element of the document is equal to one of them. Two lists of
elements with these properties pair off, whichever representatives they hold. So a document that
lists the same elements in another order, or some of them more often, gives an equal set of the
same size, though it may hold a zero of the other sign or an inner set in another order.
-/

namespace RecordQuery

namespace Value

variable {v w : Value} {values kept as bs : List Value}

lemma distinct_concat (values : List Value) (v : Value) :
    distinct (values ++ [v]) = keep (distinct values) v :=
  List.foldl_append

/-- An element equals one that is kept exactly if it equals one that has been met. -/
lemma any_eqv_distinct (values : List Value) (v : Value) :
    (distinct values).any (·.eqv v) = values.any (·.eqv v) :=
  any_distinct fun _ _ _ hab => eqv_congr_left hab v

lemma keep_distinct (values : List Value) (v : Value) :
    keep (distinct values) v =
      if values.any (·.eqv v) then distinct values else distinct values ++ [v] := by
  rw [keep, any_eqv_distinct]

/-! ### First occurrences -/

/-- What remains of a list without the elements that equal an earlier one. -/
inductive Survivors : List Value → List Value → Prop where
  | nil : Survivors [] []
  | new {values kept : List Value} {v : Value} (h : Survivors values kept)
      (hv : ∀ w ∈ values, w.eqv v = false) : Survivors (values ++ [v]) (kept ++ [v])
  | repeated {values kept : List Value} {v w : Value} (h : Survivors values kept)
      (hw : w ∈ values) (hv : w.eqv v = true) : Survivors (values ++ [v]) kept

/-- A set keeps the elements that equal no earlier one. -/
lemma survivors_iff : Survivors values kept ↔ kept = distinct values := by
  constructor
  · intro h
    induction h with
    | nil => rfl
    | new h hv ih =>
      rw [distinct_concat, keep_distinct, List.any_eq_false.2 (by simpa using hv), ih]
      rfl
    | repeated h hw hv ih =>
      rw [distinct_concat, keep_distinct, List.any_eq_true.2 ⟨_, hw, hv⟩, ih]
      rfl
  · rintro rfl
    induction values using List.reverseRecOn with
    | nil => exact .nil
    | append_singleton values v ih =>
      rw [distinct_concat, keep_distinct]
      split
      · next h =>
        obtain ⟨w, hw, hwv⟩ := List.any_eq_true.1 h
        exact .repeated ih hw hwv
      · next h =>
        refine .new ih fun w hw => Bool.eq_false_iff.2 fun hwv => h ?_
        exact List.any_eq_true.2 ⟨w, hw, hwv⟩

/-! ### Representatives -/

/-- No element equals another one. -/
def PairwiseUnequal (values : List Value) : Prop :=
  values.Pairwise fun a b => a.eqv b = false ∧ b.eqv a = false

lemma PairwiseUnequal.perm (h : PairwiseUnequal as) (hperm : as.Perm bs) : PairwiseUnequal bs :=
  hperm.pairwise h fun hab => hab.symm

lemma pairwiseUnequal_distinct (values : List Value) : PairwiseUnequal (distinct values) := by
  induction values using List.reverseRecOn with
  | nil => exact .nil
  | append_singleton values v ih =>
    rw [distinct_concat, keep]
    split
    · exact ih
    · next h =>
      refine List.pairwise_append.2 ⟨ih, List.pairwise_singleton _ _, fun a ha b hb => ?_⟩
      obtain rfl := List.mem_singleton.1 hb
      have hab : a.eqv b = false := Bool.eq_false_iff.2 fun hab => h (List.any_eq_true.2 ⟨a, ha, hab⟩)
      exact ⟨hab, (eqv_comm b a).trans hab⟩

/-- Two lists without equal elements pair off if each element of either has an equal one in the
other. -/
lemma paired_of_pairwiseUnequal (has : PairwiseUnequal as) (hbs : PairwiseUnequal bs)
    (hab : ∀ a ∈ as, ∃ b ∈ bs, a.eqv b = true) (hba : ∀ b ∈ bs, ∃ a ∈ as, a.eqv b = true) :
    Paired as bs := by
  induction as generalizing bs with
  | nil =>
    have hnil : bs = [] := List.eq_nil_iff_forall_not_mem.2 fun b hb => by
      obtain ⟨a, ha, -⟩ := hba b hb
      cases ha
    exact ⟨[], hnil ▸ .refl _, .nil⟩
  | cons a as ih =>
    obtain ⟨b, hb, heq⟩ := hab a List.mem_cons_self
    obtain ⟨before, after, rfl⟩ := List.append_of_mem hb
    have hperm : (before ++ b :: after).Perm (b :: (before ++ after)) := List.perm_middle
    obtain ⟨ha, has⟩ := List.pairwise_cons.1 has
    obtain ⟨hb, hrest⟩ := List.pairwise_cons.1 (hbs.perm hperm)
    -- what is left of either list has its equals in what is left of the other
    obtain ⟨cs, hcs, hall⟩ := ih has hrest
      (fun a' ha' => by
        obtain ⟨b', hb', heq'⟩ := hab a' (List.mem_cons_of_mem _ ha')
        rcases List.mem_cons.1 (hperm.subset hb') with rfl | hb'
        · have hno := (ha a' ha').1
          rw [eqv_trans heq (eqv_symm heq')] at hno
          cases hno
        · exact ⟨b', hb', heq'⟩)
      (fun b' hb' => by
        obtain ⟨a', ha', heq'⟩ := hba b' (hperm.symm.subset (List.mem_cons_of_mem _ hb'))
        rcases List.mem_cons.1 ha' with rfl | ha'
        · have hno := (hb b' hb').1
          rw [eqv_trans (eqv_symm heq) heq'] at hno
          cases hno
        · exact ⟨a', ha', heq'⟩)
    exact ⟨b :: cs, (hcs.cons b).trans hperm.symm, .cons heq hall⟩

/-- What is equal to an element is equal to one that is kept. -/
lemma exists_mem_distinct (hw : w ∈ values) (h : v.eqv w = true) :
    ∃ u ∈ distinct values, v.eqv u = true := by
  have hany : values.any (·.eqv v) = true := List.any_eq_true.2 ⟨w, hw, eqv_symm h⟩
  rw [← any_eqv_distinct] at hany
  obtain ⟨u, hu, huv⟩ := List.any_eq_true.1 hany
  exact ⟨u, hu, eqv_symm huv⟩

/-- Lists with equal elements, in whatever order and number, keep equal ones. -/
lemma paired_distinct (hab : ∀ a ∈ as, ∃ b ∈ bs, a.eqv b = true)
    (hba : ∀ b ∈ bs, ∃ a ∈ as, a.eqv b = true) : Paired (distinct as) (distinct bs) := by
  refine paired_of_pairwiseUnequal (pairwiseUnequal_distinct as) (pairwiseUnequal_distinct bs)
    (fun a ha => ?_) fun b hb => ?_
  · obtain ⟨b, hb, heq⟩ := hab a (mem_of_mem_distinct ha)
    exact exists_mem_distinct hb heq
  · obtain ⟨a, ha, heq⟩ := hba b (mem_of_mem_distinct hb)
    obtain ⟨a', ha', heq'⟩ := exists_mem_distinct ha (eqv_symm heq)
    exact ⟨a', ha', eqv_symm heq'⟩

lemma Paired.length_eq (h : Paired as bs) : as.length = bs.length := by
  obtain ⟨cs, hperm, hall⟩ := h
  rw [hall.length_eq, hperm.length_eq]

lemma Finite.nanFree (h : v.Finite) : v.NaNFree := fun x hx =>
  Binary64.isNaN_eq_false_of_isFinite (h x hx)

end Value

/-! ### Listings -/

variable {e : Schema} {as bs : List Json} {x : Value}

/-- The elements of either list are decoded to those of the other. -/
lemma exists_mem_eqv_of_mapOk {xs ys : List Value} (hsub : ∀ t ∈ as, t ∈ bs)
    (hxs : mapOk (decodeValue e) as = .ok xs) (hys : mapOk (decodeValue e) bs = .ok ys) :
    ∀ v ∈ xs, ∃ w ∈ ys, v.eqv w = true := by
  intro v hv
  obtain ⟨t, ht, hdec⟩ := exists_of_mem_mapOk hxs hv
  obtain ⟨w, hw, hdec'⟩ := exists_mem_of_mapOk hys (hsub t ht)
  obtain rfl : v = w := Except.ok.inj (hdec.symm.trans hdec')
  exact ⟨v, hw, Value.eqv_self_iff.2 (decodeValue_finite hdec).nanFree⟩

/-- **Decoding a set does not depend on how the document lists it.** Another listing of the same
elements, in any order and with any repetitions, decodes to an equal set with as many elements. -/
theorem decode_set_listing (hsame : ∀ t, t ∈ as ↔ t ∈ bs)
    (h : decodeValue (.set e) (.array as) = .ok x) :
    ∃ y, decodeValue (.set e) (.array bs) = .ok y ∧ x.eqv y = true ∧
      ∃ xs ys, x = .set xs ∧ y = .set ys ∧ xs.length = ys.length := by
  obtain ⟨xs, hxs, rfl⟩ := map_eq_ok_iff.1 h
  have hall : Faultless (decodeValue e) as := exists_mapOk_eq_ok_iff.1 ⟨xs, hxs⟩
  obtain ⟨ys, hys⟩ := exists_mapOk_eq_ok_iff.2 fun t ht => hall t ((hsame t).2 ht)
  have hpair : Value.Paired (Value.distinct xs) (Value.distinct ys) :=
    Value.paired_distinct (exists_mem_eqv_of_mapOk (fun t => (hsame t).1) hxs hys) fun w hw => by
      obtain ⟨v, hv, heq⟩ := exists_mem_eqv_of_mapOk (fun t => (hsame t).2) hys hxs w hw
      exact ⟨v, hv, Value.eqv_symm heq⟩
  refine ⟨_, map_eq_ok_iff.2 ⟨ys, hys, rfl⟩, ?_, _, _, rfl, rfl, hpair.length_eq⟩
  rw [Value.eqv, Value.eqvSet_iff_paired]
  exact hpair

namespace Sample

/-- A zero in a document. -/
def zeroItem (negative : Bool) : Json :=
  .number (.real (.zero negative) (by cases negative <;> decide))

/-- Three inner sets, of which the first two are equal. -/
def listing : List Json :=
  [.array [zeroItem false], .array [zeroItem true],
    .array [.number (.real .epsilon (by decide)), zeroItem true]]

/-- The same inner sets from the last to the first, and one of them once more. -/
def relisting : List Json := listing.reverse ++ [.array [zeroItem true]]

end Sample

open Sample in
theorem decode_set_listing_sample :
    (∀ t, t ∈ listing ↔ t ∈ relisting) ∧
    decodeValue (.set (.set .float)) (.array listing) =
      .ok (.set [.set [.float (.zero false)], .set [.float .epsilon, .float (.zero true)]]) ∧
    ∃ y, decodeValue (.set (.set .float)) (.array relisting) = .ok y ∧
      (Value.set [.set [.float (.zero false)], .set [.float .epsilon, .float (.zero true)]]).eqv y
        = true ∧ ∃ ys, y = .set ys ∧ ys.length = 2 := by
  have hsame : ∀ t, t ∈ listing ↔ t ∈ relisting := by
    intro t
    simp only [relisting, List.mem_append, List.mem_reverse]
    exact ⟨.inl, fun h => h.elim id fun h => by simp_all [listing]⟩
  have hx : decodeValue (.set (.set .float)) (.array listing) =
      .ok (.set [.set [.float (.zero false)], .set [.float .epsilon, .float (.zero true)]]) := rfl
  obtain ⟨y, hy, heqv, xs, ys, hxs, rfl, hlen⟩ := decode_set_listing hsame hx
  cases hxs
  exact ⟨hsame, hx, _, hy, heqv, ys, rfl, hlen.symm⟩

end RecordQuery
