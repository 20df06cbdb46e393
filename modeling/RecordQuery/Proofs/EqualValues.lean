import RecordQuery.Proofs.MatchDomain

/-!
Values that are equal match alike.

Equal values need not be the same: the two zeros are equal, and so are sets that hold equal
elements in any order, at any depth. What equality does give is a pairing of the elements, and
through it a pairing of the leaves; and nothing that a mode asks of a leaf tells equal scalars
apart.
-/

namespace RecordQuery

/-! ### Equal floats -/

namespace Binary64

variable {x y : Binary64}

lemma eqv_iff : x.eqv y = true ↔ x.isNaN = false ∧ y.isNaN = false ∧ x.key = y.key := by
  simp [eqv, and_assoc]

lemma magnitude_eq_of_key_eq (h : x.key = y.key) : x.magnitude = y.magnitude := by
  unfold key at h
  split at h <;> split at h <;> omega

/-- Numbers of one key have the same sign unless they are zeros. -/
lemma isNegative_eq_of_key_eq (h : x.key = y.key) (hm : x.magnitude ≠ 0) :
    x.isNegative = y.isNegative := by
  have hmag := magnitude_eq_of_key_eq h
  unfold key at h
  cases hx : x.isNegative <;> cases hy : y.isNegative <;>
    simp only [hx, hy, if_true, Bool.false_eq_true, if_false] at h ⊢ <;> omega

lemma magnitude_eq_of_eqv (h : x.eqv y = true) : x.magnitude = y.magnitude :=
  magnitude_eq_of_key_eq (eqv_iff.1 h).2.2

lemma isNegative_eq_of_eqv (h : x.eqv y = true) (hm : x.magnitude ≠ 0) :
    x.isNegative = y.isNegative :=
  isNegative_eq_of_key_eq (eqv_iff.1 h).2.2 hm

lemma signedSteps_eq_of_eqv (h : x.eqv y = true) : x.signedSteps = y.signedSteps := by
  have hmag := magnitude_eq_of_eqv h
  unfold signedSteps steps
  by_cases hm : x.magnitude = 0
  · rw [← hmag, hm]
    simp [stepsOf]
  · rw [hmag, isNegative_eq_of_eqv h hm]

lemma isZero_congr (h : x.eqv y = true) : x.isZero = y.isZero := by
  rw [isZero, isZero, magnitude_eq_of_eqv h]

lemma lt_congr_left (h : x.eqv y = true) (z : Binary64) : x.lt z = y.lt z := by
  obtain ⟨hx, hy, hkey⟩ := eqv_iff.1 h
  rw [lt, lt, hx, hy, hkey]

lemma lt_congr_right (h : x.eqv y = true) (z : Binary64) : z.lt x = z.lt y := by
  obtain ⟨hx, hy, hkey⟩ := eqv_iff.1 h
  rw [lt, lt, hx, hy, hkey]

lemma near_congr_right (h : x.eqv y = true) (z : Binary64) : z.near x = z.near y := by
  rw [near, near, distance, distance, isFinite, isFinite, isFinite, magnitude_eq_of_eqv h,
    signedSteps_eq_of_eqv h]

end Binary64

lemma matchFloat_congr {x y : Binary64} (h : x.eqv y = true) (other : Binary64) (mode : Mode) :
    matchFloat x other mode = matchFloat y other mode := by
  simp only [matchFloat, Binary64.isZero_congr h, Binary64.lt_congr_left h,
    Binary64.lt_congr_right h, Binary64.near_congr_right h]

/-! ### Equal collections -/

namespace Value

/-- The elements of two lists pair off, one to one, into equal ones. -/
def Paired (as bs : List Value) : Prop :=
  ∃ cs, cs.Perm bs ∧ List.Forall₂ (fun a c => a.eqv c = true) as cs

lemma forall₂_of_eqvList {as bs : List Value} (h : eqvList as bs = true) :
    List.Forall₂ (fun a b => a.eqv b = true) as bs := by
  induction as generalizing bs with
  | nil =>
    cases bs with
    | nil => exact .nil
    | cons => simp [eqvList] at h
  | cons a as ih =>
    cases bs with
    | nil => simp [eqvList] at h
    | cons b bs =>
      rw [eqvList, Bool.and_eq_true] at h
      exact .cons h.1 (ih h.2)

end Value

lemma removeFirst?_eq_some {α : Type} {p : α → Bool} {l rest : List α}
    (h : removeFirst? p l = some rest) : ∃ x, p x = true ∧ (x :: rest).Perm l := by
  induction l generalizing rest with
  | nil => cases h
  | cons y l ih =>
    rw [removeFirst?] at h
    split at h
    · next hy =>
      cases h
      exact ⟨y, hy, .refl _⟩
    · obtain ⟨rest', hrest, rfl⟩ := Option.map_eq_some_iff.1 h
      obtain ⟨x, hx, hperm⟩ := ih hrest
      exact ⟨x, hx, (List.Perm.swap y x rest').trans (hperm.cons y)⟩

namespace Value

/-- Taking the first equal element that is left pairs the elements off. -/
lemma paired_of_eqvSet {as bs : List Value} (h : eqvSet as bs = true) : Paired as bs := by
  induction as generalizing bs with
  | nil =>
    rw [eqvSet_nil, List.isEmpty_iff] at h
    exact ⟨[], h ▸ .refl _, .nil⟩
  | cons a as ih =>
    rw [eqvSet] at h
    split at h
    · next rest hrest =>
      -- the element that is taken goes first, and the induction pairs off those that are left
      obtain ⟨b, hb, hperm⟩ := removeFirst?_eq_some hrest
      obtain ⟨cs, hcs, hall⟩ := ih h
      exact ⟨b :: cs, (hcs.cons b).trans hperm, .cons hb hall⟩
    · cases h

variable {s : Schema} {v w : Value} {as bs : List Value}

/-- Every element of the second list is equal to one of the first. -/
lemma Paired.exists_mem {b : Value} (h : Paired as bs) (hb : b ∈ bs) :
    ∃ a ∈ as, a.eqv b = true := by
  obtain ⟨cs, hperm, hall⟩ := h
  obtain ⟨i, hi, rfl⟩ := List.getElem_of_mem (hperm.mem_iff.2 hb)
  have hi' : i < as.length := hall.length_eq ▸ hi
  exact ⟨as[i], List.getElem_mem hi', hall.get hi' hi⟩

/-- A test that agrees on the equal elements passes on both lists or on neither. -/
lemma Paired.any_eq {f : Value → Bool} (h : Paired as bs)
    (hf : ∀ a ∈ as, ∀ b, a.eqv b = true → f a = f b) : as.any f = bs.any f := by
  obtain ⟨cs, hperm, hall⟩ := h
  rw [← hperm.any_eq]
  clear hperm
  induction hall with
  | nil => rfl
  | cons hab hrest ih =>
    rw [List.any_cons, List.any_cons, hf _ List.mem_cons_self _ hab,
      ih fun a ha => hf a (List.mem_cons_of_mem _ ha)]

/-- What equal values have in common: scalars are equal, and the elements of collections pair
off. -/
inductive Alike : Value → Value → Prop where
  | string (text : String) : Alike (.string text) (.string text)
  | bool (b : Bool) : Alike (.bool b) (.bool b)
  | int (n : Int64) : Alike (.int n) (.int n)
  | float {x y : Binary64} (h : x.eqv y = true) : Alike (.float x) (.float y)
  | list {as bs : List Value} (h : Paired as bs) : Alike (.list as) (.list bs)
  | set {as bs : List Value} (h : Paired as bs) : Alike (.set as) (.set bs)

lemma alike_of_eqv (h : v.eqv w = true) : Alike v w := by
  cases v <;> cases w <;> simp only [eqv, beq_iff_eq, Bool.false_eq_true] at h
  case list.list => exact .list ⟨_, .refl _, forall₂_of_eqvList h⟩
  case set.set => exact .set (paired_of_eqvSet h)
  case float.float => exact .float h
  all_goals
    subst h
    constructor

/-- What equals a value of the schema is of the schema. -/
lemma conforms_of_eqv (hv : v.conforms s = true) (h : v.eqv w = true) : w.conforms s = true := by
  induction s generalizing v w with
  | list e ih | set e ih =>
    cases conforms_iff_shape.1 hv with
    | _ hc =>
      cases alike_of_eqv h with
      | _ hpair =>
        refine List.all_eq_true.2 fun b hb => ?_
        obtain ⟨a, ha, hab⟩ := hpair.exists_mem hb
        exact ih (hc a ha) hab
  | _ =>
    cases conforms_iff_shape.1 hv
    cases alike_of_eqv h
    rfl

/-! ### Equal leaves -/

/-- The test does not tell equal values apart. -/
def RespectsEqv (p : Value → Bool) : Prop := ∀ a b : Value, a.eqv b = true → p a = p b

lemma respectsEqv_holds (mode : Mode) (o : Operand) : RespectsEqv (o.holds mode) := by
  intro a b h
  cases alike_of_eqv h with
  | float h =>
    cases o with
    | pattern => rfl
    | literal u => cases u <;> first | rfl | exact matchFloat_congr h _ _
  | list | set =>
    cases o with
    | pattern => rfl
    | literal u => cases u <;> rfl
  | _ => rfl

/-- The leaves of equal values pass the same tests. -/
lemma any_leaves_congr {p : Value → Bool} (hp : RespectsEqv p) (hv : v.conforms s = true)
    (h : v.eqv w = true) : v.leaves.any p = w.leaves.any p := by
  induction s generalizing v w with
  | list e ih | set e ih =>
    cases conforms_iff_shape.1 hv with
    | _ hc =>
      cases alike_of_eqv h with
      | _ hpair =>
        simp only [leaves, leavesAll_eq_flatMap, List.any_flatMap]
        exact hpair.any_eq fun a ha b hab => ih (hc a ha) hab
  | float =>
    have hvw := hp v w h
    cases conforms_iff_shape.1 hv
    cases alike_of_eqv h
    simpa [leaves] using hvw
  | _ =>
    cases conforms_iff_shape.1 hv
    cases alike_of_eqv h
    rfl

end Value

/-! ### Matching -/

/-- Matching looks at the scalar type and, through tests that respect equality, at the leaves. -/
lemma matchValue_congr {s t : Schema} {v w : Value} (hst : s.scalar = t.scalar)
    (hv : v.conforms s = true) (hw : w.conforms t = true)
    (h : ∀ p, Value.RespectsEqv p → v.leaves.any p = w.leaves.any p) (o : Operand) (mode : Mode) :
    matchValue s v o mode = matchValue t w o mode := by
  have hnil : v.leaves = [] ↔ w.leaves = [] := by
    have htrue := h (fun _ => true) fun _ _ _ => rfl
    cases hv : v.leaves <;> cases hw : w.leaves <;> simp [hv, hw] at htrue ⊢
  have hadm : o.Admissible s mode ↔ o.Admissible t mode := by
    cases o <;> simp only [Operand.Admissible, hst]
  by_cases hleaf : v.leaves = []
  · rw [matchValue_eq_ok_false hv hleaf, matchValue_eq_ok_false hw (hnil.1 hleaf)]
  · by_cases ho : o.Admissible s mode
    · rw [matchValue_eq_ok hv ho, matchValue_eq_ok hw (hadm.1 ho),
        h _ (Value.respectsEqv_holds mode o)]
    · rw [matchValue_eq_unusable hv hleaf ho,
        matchValue_eq_unusable hw (fun hnone => hleaf (hnil.2 hnone)) fun h => ho (hadm.2 h),
        Operand.unusable, Operand.unusable, Operand.wanted, Operand.wanted, hst]

/-- **Equal values match alike.** What equals a value of the schema is of the schema too, and all
operands in all modes give the same on both, errors included. -/
theorem matchValue_eqv {s : Schema} {v w : Value} (h : v.eqv w = true)
    (hv : v.conforms s = true) :
    w.conforms s = true ∧ ∀ o mode, matchValue s v o mode = matchValue s w o mode := by
  have hw := Value.conforms_of_eqv hv h
  exact ⟨hw, matchValue_congr rfl hv hw fun p hp => Value.any_leaves_congr hp hv h⟩

namespace Sample

/-- Two lists of floats, of which one begins with a zero. -/
def readings : Value := .set [.list [.float (.zero false), .float .epsilon], .list []]

/-- The same lists in another order, the zero of the other sign. -/
def rearranged : Value := .set [.list [], .list [.float (.zero true), .float .epsilon]]

end Sample

open Sample in
theorem matchValue_eqv_sample :
    readings ≠ rearranged ∧ readings.eqv rearranged = true ∧
    readings.conforms (.set (.list .float)) = true ∧
    rearranged.conforms (.set (.list .float)) = true ∧
    ∀ o mode, matchValue (.set (.list .float)) readings o mode =
      matchValue (.set (.list .float)) rearranged o mode := by
  have h : readings.eqv rearranged = true := by decide
  have hv : readings.conforms (.set (.list .float)) = true := by decide
  exact ⟨by simp [readings, rearranged], h, hv, matchValue_eqv h hv⟩

end RecordQuery
