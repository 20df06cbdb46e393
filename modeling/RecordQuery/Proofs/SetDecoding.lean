import RecordQuery.Proofs.Decoding
import RecordQuery.Proofs.EqualValues

/-!
A document of elements matches alike whether it is decoded as a list or as a set.

A set drops every element that equals one before it, so what it drops is equal to something that it
keeps, and equal elements match alike. Decoding fails on both alike, too: elements can be dropped
as they are decoded, or after all of them are.
-/

namespace RecordQuery

/-! ### What a set keeps -/

namespace Value

variable {items seen : List Value} {v : Value}

/-- The value, or one equal to it, has been kept. -/
def Represented (seen : List Value) (v : Value) : Prop := v ∈ seen ∨ ∃ w ∈ seen, w.eqv v = true

lemma Represented.keep (h : Represented seen v) (u : Value) : Represented (Value.keep seen u) v := by
  unfold Value.keep
  split
  · exact h
  · rcases h with hmem | ⟨w, hw, heqv⟩
    · exact .inl (List.mem_append_left _ hmem)
    · exact .inr ⟨w, List.mem_append_left _ hw, heqv⟩

lemma represented_keep (seen : List Value) (v : Value) : Represented (keep seen v) v := by
  unfold keep
  split
  · next h => exact .inr (List.any_eq_true.1 h)
  · exact .inl (by simp)

lemma represented_foldl_keep (h : v ∈ items ∨ Represented seen v) :
    Represented (items.foldl keep seen) v := by
  induction items generalizing seen with
  | nil => simpa using h
  | cons u items ih =>
    rw [List.foldl_cons]
    rcases h with hmem | hseen
    · rcases List.mem_cons.1 hmem with rfl | hrest
      · exact ih (.inr (represented_keep seen v))
      · exact ih (.inl hrest)
    · exact ih (.inr (hseen.keep u))

lemma represented_distinct (h : v ∈ items) : Represented (distinct items) v :=
  represented_foldl_keep (.inl h)

/-- A test that does not tell the elements from their equals passes on some element exactly if it
does on some element that a set keeps. -/
lemma any_distinct {f : Value → Bool} (hf : ∀ a ∈ items, ∀ b, a.eqv b = true → f a = f b) :
    (distinct items).any f = items.any f := by
  rw [Bool.eq_iff_iff, List.any_eq_true, List.any_eq_true]
  constructor
  · rintro ⟨w, hw, h⟩
    exact ⟨w, mem_of_mem_distinct hw, h⟩
  · rintro ⟨v, hv, h⟩
    rcases represented_distinct hv with hmem | ⟨w, hw, heqv⟩
    · exact ⟨v, hmem, h⟩
    · exact ⟨w, hw, (hf w (mem_of_mem_distinct hw) v heqv).trans h⟩

/-- Dropping repetitions does not change which tests the leaves pass. -/
lemma any_leavesAll_distinct {e : Schema} {p : Value → Bool} (hp : RespectsEqv p)
    (hc : ∀ w ∈ items, w.conforms e = true) :
    (leavesAll (distinct items)).any p = (leavesAll items).any p := by
  simp only [leavesAll_eq_flatMap, List.any_flatMap]
  exact any_distinct fun a ha b hab => any_leaves_congr hp (hc a ha) hab

end Value

/-! ### Decoding in one pass -/

variable {e : Schema} {items : List Json}

/-- Decodes elements one after the other, and keeps each unless it equals one kept before it. -/
def decodeDistinct (e : Schema) : List Value → List Json → Except EngineError (List Value)
  | seen, [] => .ok seen
  | seen, tree :: rest =>
    match decodeValue e tree with
    | .error err => .error err
    | .ok v => decodeDistinct e (Value.keep seen v) rest

lemma decodeDistinct_eq_map (seen : List Value) :
    decodeDistinct e seen items = (mapOk (decodeValue e) items).map (·.foldl Value.keep seen) := by
  induction items generalizing seen with
  | nil => rfl
  | cons tree items ih =>
    rw [decodeDistinct, mapOk]
    cases decodeValue e tree with
    | error err => rfl
    | ok v =>
      simp only [ih]
      cases mapOk (decodeValue e) items <;> rfl

lemma decodeValue_set_eq_one_pass :
    decodeValue (.set e) (.array items) = (decodeDistinct e [] items).map .set := by
  rw [decodeDistinct_eq_map, decodeValue]
  cases mapOk (decodeValue e) items <;> rfl

/-- **Dropping repetitions does not show in matching.** The elements of a document can be decoded
as a set, in one pass, exactly if they can as a list, with the same error otherwise; and the set
and the list give the same for all operands in all modes, errors included. -/
theorem decode_set_matches_list (e : Schema) (items : List Json) :
    decodeValue (.set e) (.array items) = (decodeDistinct e [] items).map .set ∧
    ((∃ x, decodeValue (.set e) (.array items) = .ok x) ↔
      ∃ y, decodeValue (.list e) (.array items) = .ok y) ∧
    (∀ err, decodeValue (.set e) (.array items) = .error err ↔
      decodeValue (.list e) (.array items) = .error err) ∧
    ∀ x y, decodeValue (.set e) (.array items) = .ok x →
      decodeValue (.list e) (.array items) = .ok y →
      ∀ o mode, matchValue (.set e) x o mode = matchValue (.list e) y o mode := by
  refine ⟨decodeValue_set_eq_one_pass, ?_, fun err => ?_, fun x y hx hy => ?_⟩
  · rw [decodeValue, decodeValue]
    cases mapOk (decodeValue e) items <;> simp [Except.map]
  · rw [decodeValue, decodeValue]
    cases mapOk (decodeValue e) items <;> simp [Except.map]
  · have hset := decodeValue_conforms hx
    have hlist := decodeValue_conforms hy
    obtain ⟨values, hvalues, rfl⟩ := map_eq_ok_iff.1 hx
    obtain ⟨values', hvalues', rfl⟩ := map_eq_ok_iff.1 hy
    obtain rfl : values = values' := Except.ok.inj (hvalues.symm.trans hvalues')
    refine matchValue_congr rfl hset hlist fun p hp => ?_
    exact Value.any_leavesAll_distinct hp (List.all_eq_true.1 hlist)

end RecordQuery
