import Mathlib.Data.List.Perm.Basic
import RecordQuery.Proofs.EqualValues

/-!
The laws of equality of values: it goes both ways, it carries over, and a value equals itself
unless it contains a NaN.

Two sets are compared by looking for each element of the one among those of the other that are
left, and taking the first that is equal. The search finds a pairing whenever there is one, because
what it takes from another element is equal to what that element is paired with. So the search
rests on the two laws for the elements, and the laws for sets rest on the search.
-/

namespace RecordQuery

/-! ### Pairs of members -/

section Lists

variable {α β γ : Type} {as : List α} {bs : List β} {cs : List γ}

lemma forall₂_imp_of_mem {R S : α → β → Prop} (h : List.Forall₂ R as bs)
    (hRS : ∀ a ∈ as, ∀ b ∈ bs, R a b → S a b) : List.Forall₂ S as bs := by
  induction h with
  | nil => exact .nil
  | cons hab _ ih =>
    refine .cons (hRS _ List.mem_cons_self _ List.mem_cons_self hab) (ih fun a ha b hb => ?_)
    exact hRS a (List.mem_cons_of_mem _ ha) b (List.mem_cons_of_mem _ hb)

lemma forall₂_comp_of_mem {R : α → β → Prop} {S : β → γ → Prop} {T : α → γ → Prop}
    (h : List.Forall₂ R as bs) (h' : List.Forall₂ S bs cs)
    (hT : ∀ a ∈ as, ∀ b ∈ bs, ∀ c ∈ cs, R a b → S b c → T a c) : List.Forall₂ T as cs := by
  induction h generalizing cs with
  | nil =>
    cases h'
    exact .nil
  | cons hab _ ih =>
    cases h' with
    | cons hbc hrest =>
      refine .cons ?_ (ih hrest fun a ha b hb c hc => ?_)
      · exact hT _ List.mem_cons_self _ List.mem_cons_self _ List.mem_cons_self hab hbc
      · exact hT a (List.mem_cons_of_mem _ ha) b (List.mem_cons_of_mem _ hb) c
          (List.mem_cons_of_mem _ hc)

/-- A member that is taken out of a pairing can be replaced by another one, if whoever was paired
with the first may be paired with the second. -/
lemma exists_forall₂_exchange {R : α → β → Prop} {b c : β} (h : List.Forall₂ R as bs)
    (hb : b ∈ bs) (hbc : ∀ a ∈ as, R a b → R a c) :
    ∃ ds, List.Forall₂ R as ds ∧ (b :: ds).Perm (c :: bs) := by
  induction h with
  | nil => cases hb
  | @cons a d as bs had hrest ih =>
    rcases List.mem_cons.1 hb with rfl | hb
    · exact ⟨c :: bs, .cons (hbc a List.mem_cons_self had) hrest, .swap c b bs⟩
    · obtain ⟨ds, hall, hperm⟩ := ih hb fun a ha => hbc a (List.mem_cons_of_mem _ ha)
      refine ⟨d :: ds, .cons had hall, ?_⟩
      calc (b :: d :: ds).Perm (d :: b :: ds) := .swap d b ds
        _ |>.Perm (d :: c :: bs) := hperm.cons d
        _ |>.Perm (c :: d :: bs) := .swap c d bs

lemma exists_removeFirst? {p : α → Bool} {l : List α} {x : α} (hx : x ∈ l) (hp : p x = true) :
    ∃ rest, removeFirst? p l = some rest := by
  induction l with
  | nil => cases hx
  | cons y l ih =>
    rw [removeFirst?]
    split
    · exact ⟨l, rfl⟩
    · next hy =>
      obtain ⟨rest, hrest⟩ := ih ((List.mem_cons.1 hx).resolve_left fun h => hy (h ▸ hp))
      exact ⟨y :: rest, by rw [hrest, Option.map_some]⟩

end Lists

namespace Value

variable {u v w : Value} {as bs cs : List Value}

/-! ### Induction on values -/

lemma sizeOf_lt_of_mem_list {items : List Value} (h : v ∈ items) :
    sizeOf v < sizeOf (Value.list items) := by
  have hlt := List.sizeOf_lt_of_mem h
  rw [list.sizeOf_spec]
  omega

lemma sizeOf_lt_of_mem_set {items : List Value} (h : v ∈ items) :
    sizeOf v < sizeOf (Value.set items) := by
  have hlt := List.sizeOf_lt_of_mem h
  rw [set.sizeOf_spec]
  omega

/-- What holds of scalars and passes from elements to lists and sets holds of all values. -/
@[elab_as_elim]
lemma induction {P : Value → Prop} (string : ∀ text, P (.string text))
    (bool : ∀ b, P (.bool b)) (int : ∀ n, P (.int n)) (float : ∀ x, P (.float x))
    (list : ∀ items, (∀ w ∈ items, P w) → P (.list items))
    (set : ∀ items, (∀ w ∈ items, P w) → P (.set items)) (v : Value) : P v := by
  induction hn : sizeOf v using Nat.strongRecOn generalizing v with
  | ind n ih =>
    subst hn
    cases v with
    | list items => exact list items fun w hw => ih _ (sizeOf_lt_of_mem_list hw) w rfl
    | set items => exact set items fun w hw => ih _ (sizeOf_lt_of_mem_set hw) w rfl
    | string text => exact string text
    | bool b => exact bool b
    | int n => exact int n
    | float x => exact float x

/-! ### The search for a pairing -/

lemma eqvList_iff_forall₂ :
    eqvList as bs = true ↔ List.Forall₂ (fun a b => a.eqv b = true) as bs := by
  refine ⟨forall₂_of_eqvList, fun h => ?_⟩
  induction h with
  | nil => exact eqvList_nil
  | cons hab _ ih => rw [eqvList, hab, ih, Bool.and_self]

/-- Among the values of a kind, equality goes both ways and carries over. -/
structure LawfulOn (P : Value → Prop) : Prop where
  symm : ∀ {a b}, P a → P b → a.eqv b = true → b.eqv a = true
  trans : ∀ {a b c}, P a → P b → P c → a.eqv b = true → b.eqv c = true → a.eqv c = true

namespace LawfulOn

variable {P : Value → Prop}

lemma paired_symm (hP : LawfulOn P) (has : ∀ a ∈ as, P a) (hbs : ∀ b ∈ bs, P b)
    (h : Paired as bs) : Paired bs as := by
  obtain ⟨cs, hperm, hall⟩ := h
  have hflip : List.Forall₂ (fun c a => c.eqv a = true) cs as :=
    (forall₂_imp_of_mem hall fun a ha c hc =>
      hP.symm (has a ha) (hbs c (hperm.subset hc))).flip
  obtain ⟨ds, hds, hdperm⟩ := List.perm_comp_forall₂ hperm.symm hflip
  exact ⟨ds, hdperm, hds⟩

lemma paired_trans (hP : LawfulOn P) (has : ∀ a ∈ as, P a) (hbs : ∀ b ∈ bs, P b)
    (hcs : ∀ c ∈ cs, P c) (h : Paired as bs) (h' : Paired bs cs) : Paired as cs := by
  obtain ⟨bs', hperm, hall⟩ := h
  obtain ⟨cs', hperm', hall'⟩ := h'
  obtain ⟨ds, hds, hdperm⟩ := List.perm_comp_forall₂ hperm hall'
  have hdcs : ds.Perm cs := hdperm.trans hperm'
  refine ⟨ds, hdcs, forall₂_comp_of_mem hall hds fun a ha b hb d hd => ?_⟩
  exact hP.trans (has a ha) (hbs b (hperm.subset hb)) (hcs d (hdcs.subset hd))

/-- The search for equal elements finds a pairing if there is one. -/
lemma eqvSet_of_paired (hP : LawfulOn P) (has : ∀ a ∈ as, P a) (hbs : ∀ b ∈ bs, P b)
    (h : Paired as bs) : eqvSet as bs = true := by
  induction as generalizing bs with
  | nil =>
    obtain ⟨cs, hperm, hall⟩ := h
    cases hall
    rw [hperm.symm.eq_nil, eqvSet_nil, List.isEmpty_nil]
  | cons a as ih =>
    obtain ⟨cs, hperm, hall⟩ := h
    cases hall with
    | @cons _ c _ cs hac hall =>
      have ha : P a := has a List.mem_cons_self
      have has' : ∀ a' ∈ as, P a' := fun a' ha' => has a' (List.mem_cons_of_mem _ ha')
      have hc : c ∈ bs := hperm.subset List.mem_cons_self
      obtain ⟨rest, hrest⟩ := exists_removeFirst? hc (p := (a.eqv ·)) hac
      obtain ⟨b, hab, hbperm⟩ := removeFirst?_eq_some hrest
      have hb : b ∈ bs := hbperm.subset List.mem_cons_self
      have hrestbs : ∀ b' ∈ rest, P b' := fun b' hb' =>
        hbs b' (hbperm.subset (List.mem_cons_of_mem _ hb'))
      rw [eqvSet, hrest]
      refine ih has' hrestbs ?_
      rcases List.mem_cons.1 (hperm.symm.subset hb) with rfl | hbcs
      · exact ⟨cs, (hperm.trans hbperm.symm).cons_inv, hall⟩
      · -- the search takes `b` from its partner, which is equal to `c` as well
        obtain ⟨ds, hds, hdperm⟩ := exists_forall₂_exchange (c := c) hall hbcs
          fun a' ha' ha'b => hP.trans (has' a' ha') ha (hbs c hc)
            (hP.trans (has' a' ha') (hbs b hb) ha ha'b (hP.symm ha (hbs b hb) hab)) hac
        exact ⟨ds, (hdperm.trans (hperm.trans hbperm.symm)).cons_inv, hds⟩

end LawfulOn

/-! ### The laws -/

/-- Both laws hold of values up to a size. -/
lemma lawfulOn_sizeOf_lt (n : Nat) : LawfulOn fun v => sizeOf v < n := by
  induction n with
  | zero => exact ⟨fun h => absurd h (Nat.not_lt_zero _), fun h => absurd h (Nat.not_lt_zero _)⟩
  | succ n ih =>
    have hlist {items : List Value} (h : sizeOf (Value.list items) < n + 1) {a : Value}
        (ha : a ∈ items) : sizeOf a < n :=
      Nat.lt_of_lt_of_le (sizeOf_lt_of_mem_list ha) (Nat.le_of_lt_succ h)
    have hset {items : List Value} (h : sizeOf (Value.set items) < n + 1) {a : Value}
        (ha : a ∈ items) : sizeOf a < n :=
      Nat.lt_of_lt_of_le (sizeOf_lt_of_mem_set ha) (Nat.le_of_lt_succ h)
    constructor
    · intro a b ha hb h
      cases a <;> cases b <;> simp only [eqv, beq_iff_eq, Bool.false_eq_true] at h ⊢
      case float.float => rwa [Binary64.eqv_comm]
      case list.list as bs =>
        rw [eqvList_iff_forall₂] at h ⊢
        exact (forall₂_imp_of_mem h fun a hmem b hmem' =>
          ih.symm (hlist ha hmem) (hlist hb hmem')).flip
      case set.set as bs =>
        have hpair := ih.paired_symm (fun _ => hset ha) (fun _ => hset hb) (paired_of_eqvSet h)
        exact ih.eqvSet_of_paired (fun _ => hset hb) (fun _ => hset ha) hpair
      all_goals exact h.symm
    · intro a b c ha hb hc h h'
      cases a <;> cases b <;> simp only [eqv, beq_iff_eq, Bool.false_eq_true] at h <;> cases c <;>
        simp only [eqv, beq_iff_eq, Bool.false_eq_true] at h' ⊢
      case float.float.float =>
        rw [Binary64.eqv_iff] at h h' ⊢
        exact ⟨h.1, h'.2.1, h.2.2.trans h'.2.2⟩
      case list.list.list as bs cs =>
        rw [eqvList_iff_forall₂] at h h' ⊢
        exact forall₂_comp_of_mem h h' fun a hmem b hmem' c hmem'' =>
          ih.trans (hlist ha hmem) (hlist hb hmem') (hlist hc hmem'')
      case set.set.set as bs cs =>
        have hpair := ih.paired_trans (fun _ => hset ha) (fun _ => hset hb) (fun _ => hset hc)
          (paired_of_eqvSet h) (paired_of_eqvSet h')
        exact ih.eqvSet_of_paired (fun _ => hset ha) (fun _ => hset hc) hpair
      all_goals exact h.trans h'

lemma lawfulOn_true : LawfulOn fun _ => True where
  symm {a b} _ _ h := by
    have hn := lawfulOn_sizeOf_lt (sizeOf a + sizeOf b + 1)
    exact hn.symm (by omega) (by omega) h
  trans {a b c} _ _ _ h h' := by
    have hn := lawfulOn_sizeOf_lt (sizeOf a + sizeOf b + sizeOf c + 1)
    exact hn.trans (by omega) (by omega) (by omega) h h'

/-- **Equality goes both ways.** -/
theorem eqv_symm (h : v.eqv w = true) : w.eqv v = true := lawfulOn_true.symm trivial trivial h

/-- **Equality carries over.** -/
theorem eqv_trans (h : u.eqv v = true) (h' : v.eqv w = true) : u.eqv w = true :=
  lawfulOn_true.trans trivial trivial trivial h h'

lemma eqv_comm (v w : Value) : v.eqv w = w.eqv v :=
  Bool.eq_iff_iff.2 ⟨eqv_symm, eqv_symm⟩

lemma eqv_congr_left (h : u.eqv v = true) (w : Value) : u.eqv w = v.eqv w :=
  Bool.eq_iff_iff.2 ⟨eqv_trans (eqv_symm h), eqv_trans h⟩

/-- **The search is complete.** Two sets are equal exactly if their elements pair off. -/
theorem eqvSet_iff_paired : eqvSet as bs = true ↔ Paired as bs :=
  ⟨paired_of_eqvSet, lawfulOn_true.eqvSet_of_paired (by simp) (by simp)⟩

/-! ### Values equal to themselves -/

/-- No float in the value, at any depth, is a NaN. -/
def NaNFree (v : Value) : Prop := ∀ x, .float x ∈ v.leaves → x.isNaN = false

lemma nanFree_list_iff {items : List Value} :
    (Value.list items).NaNFree ↔ ∀ w ∈ items, w.NaNFree := forall_float_leavesAll_iff

lemma nanFree_set_iff {items : List Value} :
    (Value.set items).NaNFree ↔ ∀ w ∈ items, w.NaNFree := nanFree_list_iff

/-- What is equal to some value is equal to itself. -/
lemma eqv_self_of_eqv (h : v.eqv w = true) : v.eqv v = true := eqv_trans h (eqv_symm h)

lemma Paired.exists_mem_right {a : Value} (h : Paired as bs) (ha : a ∈ as) :
    ∃ b ∈ bs, a.eqv b = true := by
  obtain ⟨b, hb, hab⟩ := (lawfulOn_true.paired_symm (by simp) (by simp) h).exists_mem ha
  exact ⟨b, hb, eqv_symm hab⟩

lemma paired_self_iff : Paired as as ↔ ∀ a ∈ as, a.eqv a = true := by
  constructor
  · intro h a ha
    obtain ⟨b, -, hab⟩ := h.exists_mem_right ha
    exact eqv_self_of_eqv hab
  · intro h
    exact ⟨as, .refl _, List.forall₂_same.2 h⟩

/-- **Only a NaN keeps a value from being equal to itself.** -/
theorem eqv_self_iff : v.eqv v = true ↔ v.NaNFree := by
  induction v using Value.induction with
  | float x =>
    simp only [eqv, Binary64.eqv_self_iff, NaNFree, leaves, List.mem_singleton, float.injEq,
      forall_eq]
  | list items ih =>
    rw [eqv, eqvList_iff_forall₂, List.forall₂_same, nanFree_list_iff]
    exact forall₂_congr ih
  | set items ih =>
    rw [eqv, eqvSet_iff_paired, paired_self_iff, nanFree_set_iff]
    exact forall₂_congr ih
  | _ => simp [eqv, NaNFree, leaves]

end Value

end RecordQuery
