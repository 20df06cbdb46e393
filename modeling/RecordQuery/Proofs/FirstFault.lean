import Mathlib.Data.List.Forall2
import RecordQuery.Query

/-!
Going through a list with a function that may fail, up to the first failure.

All loops of the library that stop at an error answer alike: the error is that of the first
member on which the function fails, and without such a member the answer is that of the plain
list function. What is done in place checks before it changes anything, so at an error the state
is as it was.
-/

namespace RecordQuery

variable {ε α β : Type}

/-- `e` is the error of the first member on which `f` fails. -/
def FirstFault (f : α → Except ε β) (l : List α) (e : ε) : Prop :=
  ∃ before x after, l = before ++ x :: after ∧ (∀ y ∈ before, ∃ b, f y = .ok b) ∧ f x = .error e

/-- The function fails on no member. -/
def Faultless (f : α → Except ε β) (l : List α) : Prop := ∀ x ∈ l, ∃ b, f x = .ok b

/-- The answer of a test, a failure taken as a no. -/
def passes (test : α → Except ε Bool) (x : α) : Bool :=
  match test x with
  | .ok b => b
  | .error _ => false

lemma passes_of_ok {test : α → Except ε Bool} {x : α} {b : Bool} (h : test x = .ok b) :
    passes test x = b := by
  simp [passes, h]

lemma passes_eq_true_iff {test : α → Except ε Bool} {x : α} :
    passes test x = true ↔ test x = .ok true := by
  cases h : test x <;> simp [passes, h]

/-! ### Results -/

lemma map_eq_ok_iff {f : α → β} {x : Except ε α} {b : β} :
    x.map f = .ok b ↔ ∃ a, x = .ok a ∧ f a = b := by
  cases x <;> simp [Except.map]

lemma map_eq_error_iff {f : α → β} {x : Except ε α} {e : ε} :
    x.map f = .error e ↔ x = .error e := by
  cases x <;> simp [Except.map]

lemma liftEngine_eq_ok_iff {x : Except EngineError α} {a : α} :
    liftEngine x = .ok a ↔ x = .ok a := by
  cases x <;> simp [liftEngine]

/-! ### One step -/

@[simp] lemma not_firstFault_nil {f : α → Except ε β} {e : ε} : ¬FirstFault f [] e := by
  rintro ⟨before, x, after, h, -⟩
  simp at h

lemma firstFault_cons {f : α → Except ε β} {x : α} {l : List α} {e : ε} :
    FirstFault f (x :: l) e ↔ f x = .error e ∨ (∃ b, f x = .ok b) ∧ FirstFault f l e := by
  constructor
  · rintro ⟨before, y, after, h, hb, hy⟩
    cases before with
    | nil =>
      obtain ⟨rfl, rfl⟩ := List.cons.inj h
      exact .inl hy
    | cons z before =>
      obtain ⟨rfl, rfl⟩ := List.cons.inj h
      exact .inr ⟨hb x (by simp), before, y, after, rfl, fun w hw => hb w (by simp [hw]), hy⟩
  · rintro (h | ⟨hx, before, y, after, rfl, hb, hy⟩)
    · exact ⟨[], x, l, rfl, by simp, h⟩
    · exact ⟨x :: before, y, after, rfl, by simpa [hx] using hb, hy⟩

lemma firstFault_congr {f g : α → Except ε β} {l : List α} (h : ∀ x ∈ l, f x = g x) {e : ε} :
    FirstFault f l e ↔ FirstFault g l e := by
  induction l with
  | nil => simp
  | cons x l ih =>
    obtain ⟨hx, hl⟩ := List.forall_mem_cons.1 h
    rw [firstFault_cons, firstFault_cons, hx, ih hl]

@[simp] lemma faultless_nil {f : α → Except ε β} : Faultless f [] := by simp [Faultless]

lemma faultless_cons {f : α → Except ε β} {x : α} {l : List α} :
    Faultless f (x :: l) ↔ (∃ b, f x = .ok b) ∧ Faultless f l := by
  simp [Faultless]

/-- A list without failures has no first one. -/
lemma Faultless.not_firstFault {f : α → Except ε β} {l : List α} (h : Faultless f l) (e : ε) :
    ¬FirstFault f l e := by
  rintro ⟨before, x, after, rfl, -, hx⟩
  obtain ⟨b, hb⟩ := h x (by simp)
  simp [hb] at hx

/-! ### The loops -/

lemma mapOk_eq_ok_iff {f : α → Except ε β} {l : List α} {m : List β} :
    mapOk f l = .ok m ↔ List.Forall₂ (fun x y => f x = .ok y) l m := by
  induction l generalizing m with
  | nil => simp [mapOk, eq_comm]
  | cons x l ih =>
    rw [mapOk, List.forall₂_cons_left_iff]
    simp only [← ih]
    cases hx : f x with
    | error e => simp
    | ok y => cases hl : mapOk f l <;> simp [eq_comm]

/-- Every member of the answer is the answer of a member. -/
lemma exists_of_mem_mapOk {f : α → Except ε β} {l : List α} {m : List β} (h : mapOk f l = .ok m)
    {y : β} (hy : y ∈ m) : ∃ x ∈ l, f x = .ok y := by
  induction mapOk_eq_ok_iff.1 h with
  | nil => cases hy
  | cons hx hrest ih =>
    rcases List.mem_cons.1 hy with rfl | hy
    · exact ⟨_, by simp, hx⟩
    · obtain ⟨x, hmem, hx⟩ := ih (mapOk_eq_ok_iff.2 hrest) hy
      exact ⟨x, by simp [hmem], hx⟩

/-- Every member has an answer among the answers. -/
lemma exists_mem_of_mapOk {f : α → Except ε β} {l : List α} {m : List β} (h : mapOk f l = .ok m)
    {x : α} (hx : x ∈ l) : ∃ y ∈ m, f x = .ok y := by
  induction mapOk_eq_ok_iff.1 h with
  | nil => cases hx
  | cons hhead hrest ih =>
    rcases List.mem_cons.1 hx with rfl | hx
    · exact ⟨_, by simp, hhead⟩
    · obtain ⟨y, hmem, hy⟩ := ih (mapOk_eq_ok_iff.2 hrest) hx
      exact ⟨y, by simp [hmem], hy⟩

lemma mem_mapOk_iff {f : α → Except ε β} {l : List α} {m : List β} (h : mapOk f l = .ok m)
    (y : β) : y ∈ m ↔ ∃ x ∈ l, f x = .ok y := by
  refine ⟨exists_of_mem_mapOk h, ?_⟩
  rintro ⟨x, hx, hfx⟩
  obtain ⟨y', hy', hfx'⟩ := exists_mem_of_mapOk h hx
  rw [hfx] at hfx'
  cases hfx'
  exact hy'

lemma mapOk_singleton (f : α → Except ε β) (x : α) : mapOk f [x] = (f x).map ([·]) := by
  cases hx : f x <;> simp [mapOk, hx, Except.map]

lemma mapOk_append (f : α → Except ε β) (l l' : List α) :
    mapOk f (l ++ l') = (mapOk f l).bind fun m => (mapOk f l').map (m ++ ·) := by
  induction l with
  | nil => cases hl : mapOk f l' <;> simp [mapOk, hl, Except.bind, Except.map]
  | cons x l ih =>
    rw [List.cons_append, mapOk, mapOk, ih]
    cases f x with
    | error e => rfl
    | ok y =>
      cases mapOk f l with
      | error e => rfl
      | ok m => cases mapOk f l' <;> rfl

lemma mapOk_append_eq_ok_iff {f : α → Except ε β} {l l' : List α} {m : List β} :
    mapOk f (l ++ l') = .ok m ↔
      ∃ a b, mapOk f l = .ok a ∧ mapOk f l' = .ok b ∧ m = a ++ b := by
  rw [mapOk_append]
  cases mapOk f l with
  | error e => simp [Except.bind]
  | ok a => simp [Except.bind, map_eq_ok_iff, eq_comm (a := m)]

lemma mapOk_eq_error_iff {f : α → Except ε β} {l : List α} {e : ε} :
    mapOk f l = .error e ↔ FirstFault f l e := by
  induction l with
  | nil => simp [mapOk]
  | cons x l ih =>
    rw [mapOk, firstFault_cons, ← ih]
    cases hx : f x with
    | error e' => simp
    | ok y => cases hl : mapOk f l <;> simp

lemma exists_mapOk_eq_ok_iff {f : α → Except ε β} {l : List α} :
    (∃ m, mapOk f l = .ok m) ↔ Faultless f l := by
  induction l with
  | nil => simp [mapOk]
  | cons x l ih =>
    rw [mapOk, faultless_cons, ← ih]
    cases hx : f x with
    | error e => simp
    | ok y => cases hl : mapOk f l <;> simp

/-- A loop over what another loop gives is one loop. -/
lemma mapOk_of_mapOk {γ : Type} {f : α → Except ε β} {l : List α} {m : List β}
    (h : mapOk f l = .ok m) (g : β → Except ε γ) :
    mapOk g m = mapOk (fun x => (f x).bind g) l := by
  induction mapOk_eq_ok_iff.1 h with
  | nil => rfl
  | cons hx hrest ih =>
    rw [mapOk, mapOk, ih (mapOk_eq_ok_iff.2 hrest), hx]
    rfl

lemma mapOk_map {γ : Type} (f : β → Except ε γ) (g : α → β) (l : List α) :
    mapOk f (l.map g) = mapOk (fun x => f (g x)) l := by
  induction l with
  | nil => rfl
  | cons x l ih => rw [List.map_cons, mapOk, mapOk, ih]

lemma mapOk_congr {f g : α → Except ε β} {l : List α} (h : ∀ x ∈ l, f x = g x) :
    mapOk f l = mapOk g l := by
  induction l with
  | nil => rfl
  | cons x l ih =>
    obtain ⟨hx, hl⟩ := List.forall_mem_cons.1 h
    rw [mapOk, mapOk, hx, ih hl]

/-- A loop that gives members which it leaves as they are gives them again. -/
lemma mapOk_map_of_mapOk {f : α → Except ε β} {g : β → α} {l : List α} {m : List β}
    (h : mapOk f l = .ok m) (hself : ∀ x y, f x = .ok y → f (g y) = .ok y) :
    mapOk f (m.map g) = .ok m := by
  refine mapOk_eq_ok_iff.2 (List.forall₂_map_left_iff.2 (List.forall₂_same.2 fun y hy => ?_))
  obtain ⟨x, -, hx⟩ := exists_of_mem_mapOk h hy
  exact hself x y hx

/-- Where the name of each member is kept, so are all of them. -/
lemma map_eq_map_of_mapOk {γ : Type} {f : α → Except ε β} {name : α → γ} {name' : β → γ}
    {l : List α} {m : List β} (h : mapOk f l = .ok m)
    (hname : ∀ x y, f x = .ok y → name' y = name x) : m.map name' = l.map name := by
  induction mapOk_eq_ok_iff.1 h with
  | nil => rfl
  | cons hx hrest ih =>
    rw [List.map_cons, List.map_cons, hname _ _ hx, ih (mapOk_eq_ok_iff.2 hrest)]

lemma faultless_or_exists_firstFault (f : α → Except ε β) (l : List α) :
    Faultless f l ∨ ∃ e, FirstFault f l e := by
  cases h : mapOk f l with
  | ok m => exact .inl (exists_mapOk_eq_ok_iff.1 ⟨m, h⟩)
  | error e => exact .inr ⟨e, mapOk_eq_error_iff.1 h⟩

lemma checkAll_eq_ok_iff {check : α → Except ε Unit} {l : List α} :
    checkAll check l = .ok () ↔ ∀ x ∈ l, check x = .ok () := by
  induction l with
  | nil => simp [checkAll]
  | cons x l ih =>
    rw [checkAll, List.forall_mem_cons, ← ih]
    cases hx : check x <;> simp

/-- A check that does not fail has only one answer. -/
lemma firstFault_check_iff {check : α → Except ε Unit} {l : List α} {e : ε} :
    FirstFault check l e ↔ ∃ before x after, l = before ++ x :: after ∧
      (∀ y ∈ before, check y = .ok ()) ∧ check x = .error e := by
  have h : ∀ y, (∃ b, check y = .ok b) ↔ check y = .ok () :=
    fun y => ⟨fun ⟨_, h⟩ => h, fun h => ⟨(), h⟩⟩
  simp only [FirstFault, h]

lemma checkAll_eq_error_iff {check : α → Except ε Unit} {l : List α} {e : ε} :
    checkAll check l = .error e ↔ FirstFault check l e := by
  induction l with
  | nil => simp [checkAll]
  | cons x l ih =>
    rw [checkAll, firstFault_cons, ← ih]
    cases hx : check x <;> simp

lemma filterOk_eq_ok_iff {test : α → Except ε Bool} {l m : List α} :
    filterOk test l = .ok m ↔ Faultless test l ∧ l.filter (passes test) = m := by
  induction l generalizing m with
  | nil => simp [filterOk]
  | cons x l ih =>
    rw [filterOk, faultless_cons]
    cases hx : test x with
    | error e => simp
    | ok keep =>
      rw [List.filter_cons, passes_of_ok hx]
      cases hl : filterOk test l with
      | error e =>
        have hf : ¬Faultless test l := fun h => by simpa [hl] using ih.2 ⟨h, rfl⟩
        simp [hf]
      | ok others =>
        obtain ⟨hf, rfl⟩ := ih.1 hl
        simp [hf]

lemma filterOk_eq_error_iff {test : α → Except ε Bool} {l : List α} {e : ε} :
    filterOk test l = .error e ↔ FirstFault test l e := by
  induction l with
  | nil => simp [filterOk]
  | cons x l ih =>
    rw [filterOk, firstFault_cons, ← ih]
    cases hx : test x with
    | error e' => simp
    | ok keep => cases hl : filterOk test l <;> simp

lemma anyOk_singleton (test : α → Except ε Bool) (x : α) : anyOk test [x] = test x := by
  rw [anyOk]
  cases test x with
  | error e => rfl
  | ok b => cases b <;> rfl

lemma anyOk_map (test : β → Except ε Bool) (f : α → β) (l : List α) :
    anyOk test (l.map f) = anyOk (fun x => test (f x)) l := by
  induction l with
  | nil => rfl
  | cons x l ih => rw [List.map_cons, anyOk, anyOk, ih]

/-- Where no member fails, one of them passes as in a plain list. -/
lemma anyOk_eq_ok_any {test : α → Except ε Bool} {p : α → Bool} {l : List α}
    (h : ∀ x ∈ l, test x = .ok (p x)) : anyOk test l = .ok (l.any p) := by
  induction l with
  | nil => rfl
  | cons x l ih =>
    obtain ⟨hx, hl⟩ := List.forall_mem_cons.1 h
    rw [anyOk, hx, ih hl]
    cases hp : p x <;> simp [hp]

/-- Where members say no or fail alike, and some do fail, that is the failure. -/
lemma anyOk_eq_error {test : α → Except ε Bool} {l : List α} {e : ε}
    (h : ∀ x ∈ l, test x = .ok false ∨ test x = .error e) (hx : ∃ x ∈ l, test x ≠ .ok false) :
    anyOk test l = .error e := by
  induction l with
  | nil => simp at hx
  | cons x l ih =>
    obtain ⟨hhead, htail⟩ := List.forall_mem_cons.1 h
    rw [anyOk]
    rcases hhead with hno | hfail
    · rw [hno]
      exact ih htail (by simpa [hno] using hx)
    · rw [hfail]

lemma allOk_singleton (test : α → Except ε Bool) (x : α) : allOk test [x] = test x := by
  rw [allOk]
  cases test x with
  | error e => rfl
  | ok b => cases b <;> rfl

lemma allOk_map (test : β → Except ε Bool) (f : α → β) (l : List α) :
    allOk test (l.map f) = allOk (fun x => test (f x)) l := by
  induction l with
  | nil => rfl
  | cons x l ih => rw [List.map_cons, allOk, allOk, ih]

/-- The second part is not looked at where the first decides. -/
lemma allOk_append (test : α → Except ε Bool) (l l' : List α) :
    allOk test (l ++ l') =
      (allOk test l).bind fun passed => if passed then allOk test l' else .ok false := by
  induction l with
  | nil => rfl
  | cons x l ih =>
    rw [List.cons_append, allOk, allOk, ih]
    cases test x with
    | error e => rfl
    | ok b => cases b <;> rfl

/-- All members pass only if none of them fails or says no. -/
lemma allOk_eq_ok_true_iff {test : α → Except ε Bool} {l : List α} :
    allOk test l = .ok true ↔ ∀ x ∈ l, test x = .ok true := by
  induction l with
  | nil => simp [allOk]
  | cons x l ih =>
    rw [allOk, List.forall_mem_cons, ← ih]
    cases test x with
    | error e => simp
    | ok b => cases b <;> simp

/-- Where no member fails, all of them pass as in a plain list. -/
lemma allOk_eq_ok_all {test : α → Except ε Bool} {p : α → Bool} {l : List α}
    (h : ∀ x ∈ l, test x = .ok (p x)) : allOk test l = .ok (l.all p) := by
  induction l with
  | nil => rfl
  | cons x l ih =>
    obtain ⟨hx, hl⟩ := List.forall_mem_cons.1 h
    rw [allOk, hx, ih hl]
    cases hp : p x <;> simp [hp]

/-! ### Changes of a state -/

/-- A result is given, or thrown, without a change of the state. -/
lemma run_ofExcept {σ : Type} (x : Except ε α) (s : σ) :
    (MonadExcept.ofExcept x : EStateM ε σ α).run s =
      match x with
      | .ok a => .ok a s
      | .error e => .error e s := by
  cases x <;> rfl

/-- A change that checks first and then cannot fail leaves the state alone when it fails. -/
lemma run_checked {σ : Type} (check : σ → Except ε α) (change : α → σ → σ) (s : σ) :
    EStateM.run (do modify (change (← MonadExcept.ofExcept (check (← get))))) s =
      match check s with
      | .ok x => .ok () (change x s)
      | .error e => .error e s := by
  simp only [EStateM.run_bind, EStateM.run_get, run_ofExcept]
  cases check s <;> rfl

/-! ### Maps -/

/-- A walk over the entries of a map stops at the least name at which it fails. -/
lemma NameMap.firstFault_entries_iff {m : NameMap α}
    {f : String × α → Except ε β} {e : ε} :
    FirstFault f m.entries e ↔ ∃ name x, m.get? name = some x ∧ f (name, x) = .error e ∧
      ∀ other y e', m.get? other = some y → f (other, y) = .error e' → name ≤ other := by
  constructor
  · rintro ⟨before, ⟨name, x⟩, after, split, hbefore, hfail⟩
    have hmem : (name, x) ∈ m.entries := by simp [split]
    refine ⟨name, x, get?_eq_some_iff.2 hmem, hfail, fun other y e' hother hfail' => ?_⟩
    have hin : (other, y) ∈ m.entries := get?_eq_some_iff.1 hother
    have hsorted := m.sorted
    rw [split] at hin hsorted
    rcases List.mem_append.1 hin with hpre | hpost
    · obtain ⟨b, hb⟩ := hbefore _ hpre
      rw [hb] at hfail'
      cases hfail'
    · rcases List.mem_cons.1 hpost with heq | hpost
      · cases heq
        exact String.le_refl _
      · have hlt := List.rel_of_pairwise_cons (List.pairwise_append.1 hsorted).2.1 hpost
        exact String.not_lt.1 fun h => String.lt_irrefl _ (String.lt_trans hlt h)
  · rintro ⟨name, x, hget, hfail, hleast⟩
    obtain ⟨before, after, split⟩ := List.append_of_mem (get?_eq_some_iff.1 hget)
    refine ⟨before, (name, x), after, split, fun ⟨other, y⟩ hother => ?_, hfail⟩
    have hsorted := m.sorted
    rw [split] at hsorted
    have hlt : other < name :=
      (List.pairwise_append.1 hsorted).2.2 (other, y) hother (name, x) (by simp)
    cases hf : f (other, y) with
    | ok b => exact ⟨b, rfl⟩
    | error e' =>
      have hin : m.get? other = some y := get?_eq_some_iff.2 (by simp [split, hother])
      exact absurd (hleast other y e' hin hf) (String.not_le.2 hlt)

end RecordQuery
