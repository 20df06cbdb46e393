import RecordQuery.Proofs.MatchDomain

/-!
What is reported of a collection with elements of a wrong type.

All elements are checked before any is matched, so an element of a wrong type is found wherever it
stands, and the type that is expected is the same for all of them. The type that is found is that
of the first: where elements are wrong in more than one way, putting another of them first changes
the report.
-/

namespace RecordQuery

/-- The value is a list or set, as the schema says, with these elements, and the schema wants them
to be of the element schema. -/
inductive Value.Collects (e : Schema) (items : List Value) : Schema → Value → Prop where
  | list : Collects e items (.list e) (.list items)
  | set : Collects e items (.set e) (.set items)

variable {s e : Schema} {v v' : Value} {items items' : List Value} {o : Operand} {mode : Mode}

lemma matchElements_eq_mismatch {test : Value → Except EngineError Bool} {before after : List Value}
    {bad : Value} (hbefore : ∀ w ∈ before, w.conforms e = true) (hbad : bad.conforms e = false) :
    matchElements e test (before ++ bad :: after) = .error (.mismatch e.tag bad.tag) := by
  have hfind : (before ++ bad :: after).find? (fun item => !item.conforms e) = some bad := by
    refine List.find?_eq_some_iff_append.2 ⟨by simp [hbad], before, after, rfl, fun w hw => ?_⟩
    simp [hbefore w hw]
  rw [matchElements, hfind]

/-- The first element that is not of the schema. -/
lemma exists_first_mistyped (h : ∃ w ∈ items, w.conforms e = false) :
    ∃ before bad after, items = before ++ bad :: after ∧
      (∀ w ∈ before, w.conforms e = true) ∧ bad.conforms e = false := by
  have hsome : (items.find? fun item => !item.conforms e).isSome = true := by
    simpa [List.find?_isSome] using h
  obtain ⟨bad, hfind⟩ := Option.isSome_iff_exists.1 hsome
  obtain ⟨hbad, before, after, hsplit, hbefore⟩ := List.find?_eq_some_iff_append.1 hfind
  exact ⟨before, bad, after, hsplit, by simpa using hbefore, by simpa using hbad⟩

namespace Value.Collects

lemma matchValue_eq (h : Collects e items s v) (o : Operand) (mode : Mode) :
    matchValue s v o mode = matchElements e (fun item => matchValue e item o mode) items := by
  cases h <;> rw [matchValue]

/-- The same kind of collection with other elements. -/
lemma exists_with (h : Collects e items s v) (items' : List Value) :
    ∃ v', Collects e items' s v' := by
  cases h with
  | list => exact ⟨_, .list⟩
  | set => exact ⟨_, .set⟩

/-- What is reported is one of the elements of a wrong type, the first. -/
lemma exists_matchValue_eq_mismatch (h : Collects e items s v)
    (hbad : ∃ w ∈ items, w.conforms e = false) (o : Operand) (mode : Mode) :
    ∃ before bad after, items = before ++ bad :: after ∧
      (∀ w ∈ before, w.conforms e = true) ∧ bad.conforms e = false ∧
      matchValue s v o mode = .error (.mismatch e.tag bad.tag) := by
  obtain ⟨before, bad, after, rfl, hbefore, hmistyped⟩ := exists_first_mistyped hbad
  refine ⟨before, bad, after, rfl, hbefore, hmistyped, ?_⟩
  rw [h.matchValue_eq, matchElements_eq_mismatch hbefore hmistyped]

/-- Every element of a wrong type is reported in some order. -/
lemma exists_perm_matchValue_eq (h : Collects e items s v) {bad : Value} (hmem : bad ∈ items)
    (hbad : bad.conforms e = false) (o : Operand) (mode : Mode) :
    ∃ items' v', items'.Perm items ∧ Collects e items' s v' ∧
      matchValue s v' o mode = .error (.mismatch e.tag bad.tag) := by
  obtain ⟨before, after, rfl⟩ := List.append_of_mem hmem
  obtain ⟨v', hv'⟩ := h.exists_with (bad :: (before ++ after))
  refine ⟨_, v', List.perm_middle.symm, hv', ?_⟩
  have hnone : ∀ w ∈ ([] : List Value), w.conforms e = true := by simp
  rw [hv'.matchValue_eq]
  exact matchElements_eq_mismatch hnone hbad

end Value.Collects

open Value

/-- **What is reported of elements of a wrong type.** A collection with such elements is a mismatch
of types, whatever it is matched against: the element type is expected, and the type of the first
of them is found. Reordering the elements gives the types of these elements and no others, so the
report is the same for all orders exactly if they are all of one type. -/
theorem mistyped_elements_reported (h : Collects e items s v)
    (hbad : ∃ w ∈ items, w.conforms e = false) (o : Operand) (mode : Mode) :
    (∃ before bad after, items = before ++ bad :: after ∧
      (∀ w ∈ before, w.conforms e = true) ∧ bad.conforms e = false ∧
      matchValue s v o mode = .error (.mismatch e.tag bad.tag)) ∧
    (∀ error, (∃ items' v', items'.Perm items ∧ Collects e items' s v' ∧
        matchValue s v' o mode = error) ↔
      ∃ bad ∈ items, bad.conforms e = false ∧ error = .error (.mismatch e.tag bad.tag)) ∧
    ((∀ items' v', items'.Perm items → Collects e items' s v' →
        matchValue s v' o mode = matchValue s v o mode) ↔
      ∀ a ∈ items, ∀ b ∈ items, a.conforms e = false → b.conforms e = false → a.tag = b.tag) := by
  -- in any order one of the elements of a wrong type is reported
  have hreport : ∀ items' v', items'.Perm items → Collects e items' s v' →
      ∃ bad ∈ items, bad.conforms e = false ∧
        matchValue s v' o mode = .error (.mismatch e.tag bad.tag) := by
    intro items' v' hperm h'
    obtain ⟨w, hw, hmistyped⟩ := hbad
    obtain ⟨before, bad, after, rfl, -, hfirst, herror⟩ :=
      h'.exists_matchValue_eq_mismatch ⟨w, hperm.mem_iff.2 hw, hmistyped⟩ o mode
    exact ⟨bad, hperm.mem_iff.1 (by simp), hfirst, herror⟩
  refine ⟨h.exists_matchValue_eq_mismatch hbad o mode, fun error => ?_, ?_⟩
  · constructor
    · rintro ⟨items', v', hperm, h', rfl⟩
      exact hreport items' v' hperm h'
    · rintro ⟨bad, hmem, hmistyped, rfl⟩
      exact h.exists_perm_matchValue_eq hmem hmistyped o mode
  · constructor
    · intro hsame a ha b hb hma hmb
      obtain ⟨as, va, hpa, hca, hea⟩ := h.exists_perm_matchValue_eq ha hma o mode
      obtain ⟨bs, vb, hpb, hcb, heb⟩ := h.exists_perm_matchValue_eq hb hmb o mode
      have hab := (hsame as va hpa hca).trans (hsame bs vb hpb hcb).symm
      rw [hea, heb] at hab
      simpa [EngineError.mismatch] using hab
    · intro htags items' v' hperm h'
      obtain ⟨a, ha, hma, hea⟩ := hreport items' v' hperm h'
      obtain ⟨b, hb, hmb, heb⟩ := hreport items v (.refl _) h
      rw [hea, heb, htags a ha b hb hma hmb]

namespace Sample

/-- Three elements of a set that is to hold lists of integers, of which the first alone is one. -/
def mixedItems : List Value := [.list [.int 1], .list [.int 1, .bool true], .string "one"]

end Sample

open Sample in
theorem mistyped_elements_reported_sample :
    Collects (.list .int) mixedItems (.set (.list .int)) (.set mixedItems) ∧
    (∃ w ∈ mixedItems, w.conforms (.list .int) = false) ∧
    (∃ items' v', items'.Perm mixedItems ∧ Collects (.list .int) items' (.set (.list .int)) v' ∧
      matchValue (.set (.list .int)) v' (.literal (.int 1)) .equals =
        .error (.mismatch .list .string)) := by
  have h : Collects (.list .int) mixedItems (.set (.list .int)) (.set mixedItems) := .set
  have hbad : ∃ w ∈ mixedItems, w.conforms (.list .int) = false :=
    ⟨.string "one", by simp [mixedItems], rfl⟩
  refine ⟨h, hbad, ((mistyped_elements_reported h hbad (.literal (.int 1)) .equals).2.1 _).2 ?_⟩
  exact ⟨.string "one", by simp [mixedItems], rfl, rfl⟩

/-- Of two elements that are wrong in different ways the order decides which one is reported. -/
theorem mistyped_elements_reordered :
    [Value.bool true, .string "a"].Perm [.string "a", .bool true] ∧
    matchValue (.list .int) (.list [.string "a", .bool true]) (.literal (.int 1)) .equals =
      .error (.mismatch .int .string) ∧
    matchValue (.list .int) (.list [.bool true, .string "a"]) (.literal (.int 1)) .equals =
      .error (.mismatch .int .bool) ∧
    matchValue (.list .int) (.list [.bool true, .string "a"]) (.literal (.int 1)) .equals ≠
      matchValue (.list .int) (.list [.string "a", .bool true]) (.literal (.int 1)) .equals := by
  have hstring : matchValue (.list .int) (.list [.string "a", .bool true])
      (.literal (.int 1)) .equals = .error (.mismatch .int .string) := rfl
  have hbool : matchValue (.list .int) (.list [.bool true, .string "a"])
      (.literal (.int 1)) .equals = .error (.mismatch .int .bool) := rfl
  refine ⟨.swap _ _ _, hstring, hbool, ?_⟩
  rw [hstring, hbool]
  simp [EngineError.mismatch]

end RecordQuery
