import RecordQuery.Proofs.DistinctElements

/-!
Which document trees fit a schema, which value those have, and which error the others give.

A number is an integer only if it was written as one and is one of 64 bits with sign; every number
is a float. A tree that does not fit has a first node, in the order of the document, that does not
fit, and the error tells what is wrong with that node. A set is told by its elements: it keeps
those that equal no earlier one. Decoding compares an element with the kept ones only, and that is
the same because equality carries over.
-/

namespace RecordQuery

variable {s : Schema} {tree : Json} {v : Value} {e : EngineError}

/-- The sort of tree that values of the schema are written as. -/
def Schema.kind : Schema → Json.Kind
  | string => .string
  | bool => .bool
  | int | float => .number
  | list _ | set _ => .array

namespace Json

/-- The tree fits the schema. -/
inductive Fits : Schema → Json → Prop where
  | string (text : String) : Fits .string (.string text)
  | bool (b : Bool) : Fits .bool (.bool b)
  | int {n : Int} {bounds} (h : -2 ^ 63 ≤ n ∧ n < 2 ^ 63) : Fits .int (.number (.integer n bounds))
  | float (n : Number) : Fits .float (.number n)
  | list {e : Schema} {items : List Json} (h : ∀ t ∈ items, Fits e t) : Fits (.list e) (.array items)
  | set {e : Schema} {items : List Json} (h : ∀ t ∈ items, Fits e t) : Fits (.set e) (.array items)

/-- The value of a tree under a schema. -/
inductive Denotes : Schema → Json → Value → Prop where
  | string (text : String) : Denotes .string (.string text) (.string text)
  | bool (b : Bool) : Denotes .bool (.bool b) (.bool b)
  | int {n : Int} {bounds} {i : Int64} (h : i.toInt = n) :
      Denotes .int (.number (.integer n bounds)) (.int i)
  | float (n : Number) : Denotes .float (.number n) (.float (Value.floatOfNumber n))
  | list {e : Schema} {items : List Json} {values : List Value}
      (length : items.length = values.length)
      (h : ∀ t v, (t, v) ∈ items.zip values → Denotes e t v) :
      Denotes (.list e) (.array items) (.list values)
  | set {e : Schema} {items : List Json} {values kept : List Value}
      (length : items.length = values.length)
      (h : ∀ t v, (t, v) ∈ items.zip values → Denotes e t v)
      (survivors : Value.Survivors values kept) : Denotes (.set e) (.array items) (.set kept)

/-- The error of the first node, in the order of the document, that does not fit. -/
inductive Misfit : Schema → Json → EngineError → Prop where
  | kind {s : Schema} {tree : Json} (h : tree.kind ≠ s.kind) :
      Misfit s tree (.typeMismatch (.value s.tag) (.document tree.kind))
  | tooLarge {n : Int} {bounds} (h : 2 ^ 63 ≤ n) :
      Misfit .int (.number (.integer n bounds)) (.invalidInput (.tooLarge n))
  | notWhole (x : Binary64) (finite : x.isFinite = true) :
      Misfit .int (.number (.real x finite)) (.invalidInput (.notWhole x))
  | list {s : Schema} {before after : List Json} {t : Json} {e : EngineError}
      (fits : ∀ u ∈ before, Fits s u) (first : Misfit s t e) :
      Misfit (.list s) (.array (before ++ t :: after)) e
  | set {s : Schema} {before after : List Json} {t : Json} {e : EngineError}
      (fits : ∀ u ∈ before, Fits s u) (first : Misfit s t e) :
      Misfit (.set s) (.array (before ++ t :: after)) e

end Json

/-! ### Numbers -/

namespace Value

lemma int64?_eq_some_iff {n : Int} {i : Int64} : int64? n = some i ↔ i.toInt = n := by
  unfold int64?
  constructor
  · intro h
    split at h
    · next hn =>
      cases h
      exact Int64.toInt_ofInt_of_le hn.1 hn.2
    · cases h
  · rintro rfl
    rw [if_pos ⟨i.le_toInt, i.toInt_lt⟩, Int64.ofInt_toInt]

lemma int64?_eq_none_iff {n : Int} : int64? n = none ↔ ¬(-2 ^ 63 ≤ n ∧ n < 2 ^ 63) := by
  simp [int64?]

end Value

/-! ### Trees that fit -/

lemma decodeValue_eq_ok_iff_denotes : decodeValue s tree = .ok v ↔ tree.Denotes s v := by
  rw [decodeValue_eq_ok_iff]
  induction s generalizing tree v with
  | list e ih =>
    simp only [← decodeValue_eq_ok_iff] at ih
    constructor
    · rintro (_ | _ | _ | _ | h)
      simp only [ih] at h
      exact .list h.length_eq fun t v hmem => List.forall₂_zip h hmem
    · rintro (_ | _ | _ | _ | ⟨length, h⟩)
      exact .list (List.forall₂_iff_zip.2 ⟨length, fun {t v} hmem => ih.2 (h t v hmem)⟩)
  | set e ih =>
    simp only [← decodeValue_eq_ok_iff] at ih
    constructor
    · rintro (_ | _ | _ | _ | _ | h)
      simp only [ih] at h
      exact .set h.length_eq (fun t v hmem => List.forall₂_zip h hmem) (Value.survivors_iff.2 rfl)
    · intro h
      cases h with
      | set length h survivors =>
        obtain rfl := Value.survivors_iff.1 survivors
        exact .set (List.forall₂_iff_zip.2 ⟨length, fun {t v} hmem => ih.2 (h t v hmem)⟩)
  | int =>
    constructor
    · rintro (_ | _ | h)
      exact .int (Value.int64?_eq_some_iff.1 h)
    · intro h
      cases h with
      | int h => exact .int (Value.int64?_eq_some_iff.2 h)
  | _ =>
    constructor
    · intro h
      cases h
      constructor
    · intro h
      cases h
      constructor

/-- What is made of all answers of a loop is there exactly if no member fails. -/
lemma exists_map_mapOk_eq_ok_iff {ε α β γ : Type} {f : α → Except ε β} {g : List β → γ}
    {l : List α} : (∃ c, (mapOk f l).map g = .ok c) ↔ Faultless f l := by
  rw [← exists_mapOk_eq_ok_iff]
  cases mapOk f l <;> simp [Except.map]

lemma exists_decodeValue_eq_ok_iff : (∃ v, decodeValue s tree = .ok v) ↔ tree.Fits s := by
  induction s generalizing tree with
  | list s ih | set s ih =>
    cases tree with
    | array items =>
      rw [decodeValue, exists_map_mapOk_eq_ok_iff, Faultless]
      simp only [ih]
      constructor
      · intro h
        constructor
        exact h
      · intro h
        cases h with
        | _ h => exact h
    | _ => exact iff_of_false (by rintro ⟨v, ⟨⟩⟩) (by rintro ⟨⟩)
  | int =>
    simp only [decodeValue_eq_ok_iff]
    constructor
    · rintro ⟨v, h⟩
      cases h with
      | @int n bounds i h =>
        obtain rfl := Value.int64?_eq_some_iff.1 h
        exact .int ⟨i.le_toInt, i.toInt_lt⟩
    · intro h
      cases h with
      | int h => exact ⟨_, .int (if_pos h)⟩
  | _ =>
    simp only [decodeValue_eq_ok_iff]
    constructor
    · rintro ⟨v, h⟩
      cases h
      constructor
    · intro h
      cases h
      exact ⟨_, by constructor⟩

lemma Json.not_fits_null (s : Schema) : ¬Json.null.Fits s := by
  rintro ⟨⟩

lemma Json.not_fits_object (s : Schema) (fields : List (String × Json)) :
    ¬(Json.object fields).Fits s := by
  rintro ⟨⟩

/-! ### Trees that do not -/

lemma decodeValue_of_kind_ne (h : tree.kind ≠ s.kind) :
    decodeValue s tree = .error (.typeMismatch (.value s.tag) (.document tree.kind)) := by
  cases s <;> cases tree <;> first | rfl | exact absurd rfl h

lemma decodeValue_of_misfit (h : tree.Misfit s e) : decodeValue s tree = .error e := by
  induction h with
  | kind h => exact decodeValue_of_kind_ne h
  | tooLarge h =>
    have hnone := Value.int64?_eq_none_iff.2 fun hn => Int.not_lt.2 h hn.2
    simp only [decodeValue, hnone]
  | notWhole => rfl
  | list fits first ih | set fits first ih =>
    rw [decodeValue, map_eq_error_iff, mapOk_eq_error_iff]
    exact ⟨_, _, _, rfl, fun u hu => exists_decodeValue_eq_ok_iff.2 (fits u hu), ih⟩

lemma misfit_of_kind_ne (hk : tree.kind ≠ s.kind) (h : decodeValue s tree = .error e) :
    tree.Misfit s e := by
  rw [decodeValue_of_kind_ne hk] at h
  cases h
  exact .kind hk

lemma misfit_of_decodeValue (h : decodeValue s tree = .error e) : tree.Misfit s e := by
  induction s generalizing tree with
  | list s ih | set s ih =>
    by_cases hk : tree.kind = .array
    · cases tree <;> cases hk
      rw [decodeValue, map_eq_error_iff, mapOk_eq_error_iff] at h
      obtain ⟨before, t, after, rfl, hbefore, ht⟩ := h
      have hfits : ∀ u ∈ before, u.Fits s := fun u hu =>
        exists_decodeValue_eq_ok_iff.1 (hbefore u hu)
      first
      | exact .list hfits (ih ht)
      | exact .set hfits (ih ht)
    · exact misfit_of_kind_ne hk h
  | int =>
    by_cases hk : tree.kind = .number
    · cases tree <;> cases hk
      rename_i n
      cases n with
      | integer n bounds =>
        cases hn : Value.int64? n with
        | some i => simp [decodeValue, hn] at h
        | none =>
          simp only [decodeValue, hn] at h
          cases h
          refine .tooLarge (Int.not_lt.1 fun hlt => ?_)
          exact Value.int64?_eq_none_iff.1 hn ⟨bounds.1, hlt⟩
      | real x finite =>
        cases h
        exact .notWhole x finite
    · exact misfit_of_kind_ne hk h
  | _ =>
    refine misfit_of_kind_ne (fun hk => ?_) h
    cases tree <;> cases hk
    cases h

/-- **What decodes, to what, and what is wrong with the rest.** A tree decodes exactly if it fits
the schema, and to the value that it denotes; null and objects fit nothing. Otherwise the error is
that of the first node that does not fit. -/
theorem decodeValue_domain (s : Schema) (tree : Json) :
    ((∃ v, decodeValue s tree = .ok v) ↔ tree.Fits s) ∧
    (∀ v, decodeValue s tree = .ok v ↔ tree.Denotes s v) ∧
    (∀ e, decodeValue s tree = .error e ↔ tree.Misfit s e) ∧
    ¬Json.null.Fits s ∧ ∀ fields, ¬(Json.object fields).Fits s := by
  exact ⟨exists_decodeValue_eq_ok_iff, fun v => decodeValue_eq_ok_iff_denotes,
    fun e => ⟨misfit_of_decodeValue, decodeValue_of_misfit⟩, Json.not_fits_null s,
    Json.not_fits_object s⟩

end RecordQuery
