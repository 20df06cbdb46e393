import Mathlib.Data.List.FinRange
import Mathlib.Logic.Equiv.Fin.Basic
import RecordQuery.Proofs.DistinctElements

/-!
What equality of values is, and the search that decides it for sets.

The elements of two sets pair off when their places correspond one to one, each place to one with
an equal element. The search looks for such a pairing without ever going back: it walks through
the one set and takes, for each element, the first slot of the other set that is still free and
holds an equal element. Only the free slots matter to what follows, so the search with marks is
the search in what is left, and that one finds a pairing whenever there is one.
-/

namespace RecordQuery

/-! ### Places of a list -/

section Places

variable {α : Type} {l m : List α}

/-- The places of two permutations of one list correspond, with the same member in both. -/
lemma exists_equiv_of_perm (h : l.Perm m) :
    ∃ σ : Fin l.length ≃ Fin m.length, ∀ i, l[i] = m[σ i] := by
  classical
  have hleft := h.idxBij_rightInverse_idxBij_symm
  have hright := h.idxBij_leftInverse_idxBij_symm
  exact ⟨⟨h.idxBij, h.symm.idxBij, hleft, hright⟩, fun i => (h.getElem_idxBij_eq_getElem i).symm⟩

/-- Members taken from places that are met once each are a permutation. -/
lemma ofFn_perm_of_equiv {n : Nat} (σ : Fin n ≃ Fin m.length) :
    (List.ofFn fun i => m[σ i]).Perm m := by
  have hplaces : ((List.finRange n).map σ).Perm (List.finRange m.length) := by
    have hnodup : ((List.finRange n).map σ).Nodup := (List.nodup_finRange n).map σ.injective
    rw [List.perm_ext_iff_of_nodup hnodup (List.nodup_finRange m.length)]
    intro j
    have hj : σ (σ.symm j) = j := σ.apply_symm_apply j
    exact iff_of_true (List.mem_map.2 ⟨σ.symm j, List.mem_finRange _, hj⟩) (List.mem_finRange j)
  have hmembers := hplaces.map fun j => m[j]
  have hall : (List.finRange m.length).map (fun j => m[j]) = m := List.map_getElem_finRange m
  rw [List.map_map, hall] at hmembers
  rw [List.ofFn_eq_map]
  exact hmembers

end Places

namespace Value

variable {u v w : Value} {as bs : List Value}

/-- Elements pair off if their places correspond one to one, equal element to equal element. -/
lemma paired_iff_exists_equiv :
    Paired as bs ↔
      ∃ σ : Fin as.length ≃ Fin bs.length, ∀ i : Fin as.length, as[i].eqv bs[σ i] = true := by
  constructor
  · rintro ⟨cs, hperm, hall⟩
    obtain ⟨τ, hτ⟩ := exists_equiv_of_perm hperm
    obtain ⟨hlen, hget⟩ := List.forall₂_iff_get.1 hall
    refine ⟨(finCongr hlen).trans τ, fun i => ?_⟩
    have hi : i.1 < cs.length := hlen ▸ i.2
    have heq : as[i.1].eqv cs[i.1] = true := hget i.1 i.2 hi
    have hcs : cs[i.1] = bs[τ ⟨i.1, hi⟩] := hτ ⟨i.1, hi⟩
    rw [hcs] at heq
    exact heq
  · rintro ⟨σ, hσ⟩
    refine ⟨List.ofFn fun i => bs[σ i], ofFn_perm_of_equiv σ, List.forall₂_iff_get.2 ⟨?_, ?_⟩⟩
    · rw [List.length_ofFn]
    · intro i hi hi'
      have heq := hσ ⟨i, hi⟩
      simpa using heq

/-! ### The search with marks -/

/-- A place of the second set, with a mark that says whether its element has been taken. -/
structure Slot where
  value : Value
  used : Bool

/-- Marks the first free slot that holds an equal element, if there is one. -/
def takeSlot? (v : Value) : List Slot → Option (List Slot)
  | [] => none
  | slot :: rest =>
    if !slot.used && slot.value.eqv v then some ({ slot with used := true } :: rest)
    else (takeSlot? v rest).map (slot :: ·)

/-- Whether each of the values in turn finds a free slot. -/
def takeSlots : List Value → List Slot → Bool
  | [], _ => true
  | v :: rest, slots =>
    match takeSlot? v slots with
    | some slots => takeSlots rest slots
    | none => false

/-- Whether two sets have equally many elements and those of the first all find a slot among those
of the second. -/
def eqvBySlots (as bs : List Value) : Bool :=
  as.length == bs.length && takeSlots as (bs.map fun b => ⟨b, false⟩)

/-- The elements that have not been taken. -/
def freeValues (slots : List Slot) : List Value :=
  (slots.filter fun slot => !slot.used).map (·.value)

lemma freeValues_cons_used {slot : Slot} (h : slot.used = true) (slots : List Slot) :
    freeValues (slot :: slots) = freeValues slots := by
  simp [freeValues, h]

lemma freeValues_cons_free {slot : Slot} (h : slot.used = false) (slots : List Slot) :
    freeValues (slot :: slots) = slot.value :: freeValues slots := by
  simp [freeValues, h]

lemma freeValues_unused (bs : List Value) :
    freeValues (bs.map fun b => ⟨b, false⟩) = bs := by
  induction bs with
  | nil => rfl
  | cons b bs ih => rw [List.map_cons, freeValues_cons_free rfl, ih]

/-- Marking a slot takes the first equal element out of those that are free. -/
lemma removeFirst?_freeValues (v : Value) (slots : List Slot) :
    removeFirst? (v.eqv ·) (freeValues slots) = (takeSlot? v slots).map freeValues := by
  induction slots with
  | nil => rfl
  | cons slot slots ih =>
    cases hused : slot.used with
    | true =>
      have hskip : ∀ rest, freeValues (slot :: rest) = freeValues rest :=
        freeValues_cons_used hused
      rw [hskip, ih, takeSlot?, hused]
      simp [Function.comp_def, hskip]
    | false =>
      have hkeep : ∀ rest, freeValues (slot :: rest) = slot.value :: freeValues rest :=
        freeValues_cons_free hused
      rw [hkeep, removeFirst?, takeSlot?, hused, eqv_comm v slot.value]
      cases heq : slot.value.eqv v with
      | true => simp [freeValues_cons_used]
      | false => simp [ih, Function.comp_def, hkeep]

/-- With as many free slots as there are values, the search with marks is that in what is left. -/
lemma takeSlots_eq_eqvSet (as : List Value) {slots : List Slot}
    (h : as.length = (freeValues slots).length) :
    takeSlots as slots = eqvSet as (freeValues slots) := by
  induction as generalizing slots with
  | nil =>
    have hnil : freeValues slots = [] := List.length_eq_zero_iff.1 h.symm
    rw [takeSlots, hnil, eqvSet_nil, List.isEmpty_nil]
  | cons a as ih =>
    have hstep := removeFirst?_freeValues a slots
    rw [takeSlots, eqvSet, hstep]
    cases htake : takeSlot? a slots with
    | none => rfl
    | some slots' =>
      -- one element is gone on either side, so there are as many as before
      rw [htake] at hstep
      obtain ⟨b, -, hperm⟩ := removeFirst?_eq_some hstep
      have hlen := hperm.length_eq
      rw [List.length_cons] at h hlen
      exact ih (by omega)

/-- **The search with marks** decides equality of sets. -/
theorem eqvBySlots_eq_eqvSet (as bs : List Value) : eqvBySlots as bs = eqvSet as bs := by
  have hfree := freeValues_unused bs
  by_cases hlen : as.length = bs.length
  · have hmarks := takeSlots_eq_eqvSet as (hlen.trans (congrArg List.length hfree.symm))
    rw [hfree] at hmarks
    rw [eqvBySlots, hmarks, beq_iff_eq.2 hlen, Bool.true_and]
  · have hne : ¬eqvSet as bs = true := fun h => hlen (eqvSet_iff_paired.1 h).length_eq
    rw [eqvBySlots, beq_eq_false_iff_ne.2 hlen, Bool.false_and, Bool.eq_false_iff.2 hne]

/-! ### The laws of equality -/

/-- **Equality of values is an equivalence but for NaN, and equality of sets is a pairing.**
Equality goes both ways and carries over, and exactly the values without a NaN at any depth are
equal to themselves. Two sets are equal exactly if the places of their elements correspond one to
one, equal element to equal element; the search that takes the first free slot each time answers
just that. -/
theorem eqv_laws (u v w : Value) (as bs : List Value) :
    (u.eqv v = true → v.eqv u = true) ∧
    (u.eqv v = true → v.eqv w = true → u.eqv w = true) ∧
    (u.eqv u = true ↔ u.NaNFree) ∧
    ((set as).eqv (set bs) = true ↔
      ∃ σ : Fin as.length ≃ Fin bs.length, ∀ i : Fin as.length, as[i].eqv bs[σ i] = true) ∧
    eqvBySlots as bs = (set as).eqv (set bs) := by
  have hset : (set as).eqv (set bs) = eqvSet as bs := by rw [eqv]
  refine ⟨eqv_symm, eqv_trans, eqv_self_iff, ?_, ?_⟩
  · rw [hset, eqvSet_iff_paired, paired_iff_exists_equiv]
  · rw [hset, eqvBySlots_eq_eqvSet]

end Value

namespace Sample

/-- The lists of `readings` once more, the zero of a sign of its own. -/
def reordered : Value := .set [.list [], .list [.float (.zero false), .float .epsilon]]

end Sample

open Sample in
theorem Value.eqv_laws_sample :
    readings.eqv rearranged = true ∧ rearranged.eqv reordered = true ∧
    rearranged.eqv readings = true ∧ readings.eqv reordered = true := by
  have h : readings.eqv rearranged = true := by decide
  have h' : rearranged.eqv reordered = true := by decide
  obtain ⟨symm, trans, -⟩ := Value.eqv_laws readings rearranged reordered [] []
  exact ⟨h, h', symm h, trans h h'⟩

end RecordQuery
