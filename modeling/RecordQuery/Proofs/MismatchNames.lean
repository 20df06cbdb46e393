import RecordQuery.Proofs.Binding
import RecordQuery.Proofs.MistypedElements
import RecordQuery.Proofs.TypeDisplay

/-!
What the two names in a mismatch of types are the names of.

The check of a value goes through all depths, but its error is made of the types at the place
where the check began: the value itself, or when a collection is matched the first element that
does not pass. Where the value is of the wrong type there, the names show the disagreement. Where
it lies further down, the value is a collection of the right type at that place, and the error
names one type twice. An operand at fault and a value that cannot be ordered are always shown.
-/

namespace RecordQuery

open Value

variable {s t e : Schema} {v u w : Value} {o : Operand} {mode : Mode} {expected actual : TypeName}

/-! ### Names -/

lemma TypeTag.name_ne_pattern (t : TypeTag) : t.name ≠ TypeName.pattern.text := by
  cases t <;> decide

lemma TypeName.text_value_ne_iff {a b : TypeTag} : (value a).text ≠ (value b).text ↔ a ≠ b :=
  TypeTag.name_injective.ne_iff

/-! ### Operands -/

/-- A value of the type that a schema says is of the schema unless it is a collection. -/
lemma Value.conforms_or_collects (h : v.tag = s.tag) :
    v.conforms s = true ∨ ∃ e items, Collects e items s v := by
  cases s with
  | list e =>
    cases v with
    | list items => exact .inr ⟨e, items, .list⟩
    | _ => cases h
  | set e =>
    cases v with
    | set items => exact .inr ⟨e, items, .set⟩
    | _ => cases h
  | _ => cases v <;> first | exact .inl rfl | cases h

lemma Value.conforms_scalar_iff : v.conforms s.scalar = true ↔ v.tag = s.scalar.tag := by
  refine ⟨tag_eq_of_conforms, fun h => (conforms_or_collects h).resolve_right ?_⟩
  rintro ⟨e, items, hcollects⟩
  have horder := s.isOrderable_scalar
  generalize s.scalar = t at hcollects horder
  cases hcollects <;> cases horder

/-- An operand that the mode cannot use is of another type than the one it is told to be. -/
lemma Operand.text_wanted_ne (h : ¬o.Admissible s mode) : (wanted s mode).text ≠ o.typeName.text := by
  unfold wanted
  split
  · next hpatterns =>
    cases o with
    | pattern p => exact absurd hpatterns h
    | literal u => exact (TypeTag.name_ne_pattern u.tag).symm
  · next hpatterns =>
    cases o with
    | pattern p => exact TypeTag.name_ne_pattern _
    | literal u =>
      have htag : u.tag ≠ s.scalar.tag := fun htag => h ⟨hpatterns, conforms_scalar_iff.2 htag⟩
      exact TypeName.text_value_ne_iff.2 htag.symm

/-! ### Places in a value -/

/-- The value is of the type that the schema says, and strays from the schema further down. -/
def Value.StraysBelow (s : Schema) (v : Value) : Prop := v.tag = s.tag ∧ v.Strays s

/-- Where matching looks when a value strays: at the value itself, or if that is of the right type
at the first of its elements that strays. -/
inductive Value.FirstAstray : Schema → Value → Schema → Value → Prop where
  | here {s : Schema} {v : Value} (h : v.tag ≠ s.tag) : FirstAstray s v s v
  | element {s e : Schema} {v bad : Value} {before after : List Value}
      (h : Collects e (before ++ bad :: after) s v) (hbefore : ∀ w ∈ before, ¬w.Strays e)
      (hbad : bad.Strays e) : FirstAstray s v e bad

lemma strays_iff_conforms_eq_false : v.Strays s ↔ v.conforms s = false := by
  rw [← Bool.not_eq_true, conforms_iff_not_strays, not_not]

lemma Value.Collects.occurs {items : List Value} (h : Collects e items s v) (hw : w ∈ items) :
    Occurs s v e w := by
  cases h with
  | list => exact .list hw (.here e w)
  | set => exact .set hw (.here e w)

lemma Value.Collects.depth {items : List Value} (h : Collects e items s v) :
    s.depth = e.depth + 1 := by
  cases h <;> rfl

lemma Value.Collects.conforms_eq {items : List Value} (h : Collects e items s v) :
    v.conforms s = items.all (conforms e) := by
  cases h <;> rfl

/-- A value of the right type that strays is a collection, and one of its elements strays. -/
lemma Value.StraysBelow.exists_collects (h : v.StraysBelow s) :
    ∃ e items, Collects e items s v ∧ ∃ w ∈ items, w.conforms e = false := by
  obtain ⟨htag, hstrays⟩ := h
  rw [strays_iff_conforms_eq_false] at hstrays
  rcases conforms_or_collects htag with hconforms | ⟨e, items, hcollects⟩
  · simp [hstrays] at hconforms
  · rw [hcollects.conforms_eq] at hstrays
    exact ⟨e, items, hcollects, by simpa using hstrays⟩

lemma Value.StraysBelow.depth_pos (h : v.StraysBelow s) : 0 < s.depth := by
  obtain ⟨e, items, hcollects, -⟩ := h.exists_collects
  rw [hcollects.depth]
  exact Nat.succ_pos _

namespace Value.FirstAstray

lemma occurs (h : FirstAstray s v t u) : Occurs s v t u := by
  cases h with
  | here => exact .here s v
  | element h => exact h.occurs (by simp)

lemma strays (h : FirstAstray s v t u) : u.Strays t := by
  cases h with
  | here h => exact ⟨s, v, .here s v, h⟩
  | element _ _ hbad => exact hbad

/-- A fault below the place is possible only from the second level of collections on. -/
lemma depth_le (h : FirstAstray s v t u) (hbelow : u.StraysBelow t) : 2 ≤ s.depth := by
  cases h with
  | here h => exact absurd hbelow.1 h
  | element h =>
    have hpos := hbelow.depth_pos
    have hdepth := h.depth
    omega

end Value.FirstAstray

/-- The report on a value that strays, whatever it is matched against. -/
lemma exists_firstAstray_matchValue_eq (h : v.Strays s) (o : Operand) (mode : Mode) :
    ∃ t u, FirstAstray s v t u ∧ matchValue s v o mode = .error (.mismatch t.tag u.tag) := by
  by_cases htag : v.tag = s.tag
  · obtain ⟨e, items, hcollects, hbad⟩ := StraysBelow.exists_collects ⟨htag, h⟩
    obtain ⟨before, bad, after, rfl, hbefore, hmistyped, herror⟩ :=
      hcollects.exists_matchValue_eq_mismatch hbad o mode
    refine ⟨e, bad, .element hcollects (fun w hw => ?_) ?_, herror⟩
    · exact conforms_iff_not_strays.1 (hbefore w hw)
    · exact strays_iff_conforms_eq_false.2 hmistyped
  · exact ⟨s, v, .here htag, matchValue_of_tag_ne htag⟩

/-! ### What is shown -/

/-- The names are those of the types at a place where the value strays. They are the names of a
disagreement unless the value strays only below that place. -/
structure ShownAt (t : Schema) (u : Value) (expected actual : TypeName) : Prop where
  expected_eq : expected = .value t.tag
  actual_eq : actual = .value u.tag
  strays : u.Strays t
  differ : expected.text ≠ actual.text ↔ ¬u.StraysBelow t

lemma shownAt_of_strays (h : u.Strays t) : ShownAt t u (.value t.tag) (.value u.tag) where
  expected_eq := rfl
  actual_eq := rfl
  strays := h
  differ := by
    rw [TypeName.text_value_ne_iff, StraysBelow, and_iff_left h]
    exact ne_comm

/-- A mismatch in matching is shown at the first place that is astray, or it is one of the
operand. -/
lemma shownAt_of_matchValue (h : matchValue s v o mode = .error (.typeMismatch expected actual)) :
    (v.conforms s = true ∧ actual = o.typeName ∧ expected.text ≠ actual.text) ∨
      ∃ t u, FirstAstray s v t u ∧ ShownAt t u expected actual := by
  have hout := matchOutcome s v o mode
  rw [h] at hout
  cases hout with
  | unusable hv _ ho => exact .inl ⟨hv, rfl, Operand.text_wanted_ne ho⟩
  | strayed hv =>
    obtain ⟨t, u, hfirst, herror⟩ :=
      exists_firstAstray_matchValue_eq (strays_iff_conforms_eq_false.2 hv) o mode
    cases h.symm.trans herror
    exact .inr ⟨t, u, hfirst, shownAt_of_strays hfirst.strays⟩

lemma shownAt_of_checkOrderable (h : checkOrderable s v = .error (.typeMismatch expected actual)) :
    ShownAt s v expected actual ∧ ¬v.StraysBelow s := by
  unfold checkOrderable at h
  split at h
  · cases h
  · next horder =>
    split at h
    · next hv =>
      cases h
      have hstrays : v.Strays s := strays_iff_conforms_eq_false.2 (by simpa using hv)
      refine ⟨shownAt_of_strays hstrays, fun hbelow => ?_⟩
      obtain ⟨e, items, hcollects, -⟩ := hbelow.exists_collects
      cases hcollects <;> exact horder rfl
    · split at h
      · split at h <;> cases h
      · cases h

variable {schema : RecordSchema} {record : Record} {name : String}

lemma RecordSchema.checkEntry_eq_undecodable {entry : String × Value} {error : EngineError}
    (h : schema.checkEntry entry = .error (.undecodable name error)) :
    name = entry.1 ∧ ∃ s, schema.get? entry.1 = some s ∧ entry.2.Strays s ∧
      error = .mismatch s.tag entry.2.tag := by
  cases hs : schema.get? entry.1 with
  | none => simp [checkEntry, require, hs] at h
  | some s =>
    cases hv : entry.2.conforms s with
    | true => simp [checkEntry, require, hs, hv] at h
    | false =>
      simp only [checkEntry, require, hs, hv, Bool.false_eq_true, if_false, Except.error.injEq,
        QueryError.undecodable.injEq] at h
      exact ⟨h.1.symm, s, rfl, strays_iff_conforms_eq_false.2 hv, h.2.symm⟩

/-- The error of an entry shows the declared type and the type of the value that is held. -/
lemma shownAt_of_checkEntry {entry : String × Value}
    (h : schema.checkEntry entry = .error (.undecodable name (.typeMismatch expected actual))) :
    name = entry.1 ∧ ∃ s, schema.get? name = some s ∧ ShownAt s entry.2 expected actual ∧
      (s.depth = 0 → expected.text ≠ actual.text) := by
  obtain ⟨rfl, s, hs, hstrays, hmismatch⟩ := RecordSchema.checkEntry_eq_undecodable h
  cases hmismatch
  have hshown := shownAt_of_strays hstrays
  refine ⟨rfl, s, hs, hshown, fun hdepth => hshown.differ.2 fun hbelow => ?_⟩
  have hpos := hbelow.depth_pos
  omega

/-- The error of a record is that of one of its entries. -/
lemma RecordSchema.exists_checkEntry_eq_error {e : QueryError}
    (h : schema.validateRecord record = .error e) :
    ∃ entry, record.get? entry.1 = some entry.2 ∧ schema.checkEntry entry = .error e := by
  rw [validateRecord, checkEntries_eq_checkAll, checkAll_eq_error_iff] at h
  obtain ⟨before, entry, after, hentries, -, herror⟩ := h
  exact ⟨entry, NameMap.get?_eq_some_iff.2 (by simp [hentries]), herror⟩

/-- **What a mismatch of types shows.** In matching it names the types at the first place of the
value that is astray, or on a value of the schema the type of the operand and the one that is
wanted; in a check before a sort and in the check of a record, the types of the value itself,
whichever of the entries the check of the record comes to. The place is always there, and the two
names differ unless the value strays only below it. So they always differ for an operand and
before a sort, in matching up to collections of scalars, and in the check of a scalar attribute. -/
theorem mismatch_shown (s : Schema) (v : Value) (expected actual : TypeName) :
    (∀ o mode, matchValue s v o mode = .error (.typeMismatch expected actual) →
      (v.conforms s = true → actual = o.typeName ∧ expected.text ≠ actual.text) ∧
      (v.conforms s = false →
        ∃ t u, FirstAstray s v t u ∧ Occurs s v t u ∧ ShownAt t u expected actual) ∧
      (s.depth ≤ 1 → expected.text ≠ actual.text)) ∧
    (checkOrderable s v = .error (.typeMismatch expected actual) →
      ShownAt s v expected actual ∧ expected.text ≠ actual.text) ∧
    (∀ schema entry name, RecordSchema.checkEntry schema entry =
        .error (.undecodable name (.typeMismatch expected actual)) →
      name = entry.1 ∧ ∃ declared, schema.get? name = some declared ∧
        ShownAt declared entry.2 expected actual ∧
        (declared.depth = 0 → expected.text ≠ actual.text)) ∧
    ∀ schema record name, RecordSchema.validateRecord schema record =
        .error (.undecodable name (.typeMismatch expected actual)) →
      ∃ declared held, schema.get? name = some declared ∧ record.get? name = some held ∧
        ShownAt declared held expected actual ∧
        (declared.depth = 0 → expected.text ≠ actual.text) := by
  refine ⟨fun o mode h => ?_, fun h => ?_, fun _ _ _ h => shownAt_of_checkEntry h,
    fun schema record name h => ?_⟩
  · rcases shownAt_of_matchValue h with ⟨hv, hactual, hdiffer⟩ | ⟨t, u, hfirst, hshown⟩
    · exact ⟨fun _ => ⟨hactual, hdiffer⟩, fun hv' => by simp [hv] at hv', fun _ => hdiffer⟩
    · refine ⟨fun hv => ?_, fun _ => ⟨t, u, hfirst, hfirst.occurs, hshown⟩, fun hdepth => ?_⟩
      · exact absurd (hfirst.occurs.conforms hv)
          (by simp [strays_iff_conforms_eq_false.1 hfirst.strays])
      · refine hshown.differ.2 fun hbelow => ?_
        have htwo := hfirst.depth_le hbelow
        omega
  · obtain ⟨hshown, hnot⟩ := shownAt_of_checkOrderable h
    exact ⟨hshown, hshown.differ.2 hnot⟩
  · obtain ⟨entry, hentry, herror⟩ := RecordSchema.exists_checkEntry_eq_error h
    obtain ⟨rfl, declared, hdeclared, hshown⟩ := shownAt_of_checkEntry herror
    exact ⟨declared, entry.2, hdeclared, hentry, hshown⟩

/-- Below the place where the check began, a disagreement is not shown: both functions expect a
list and get one. -/
theorem nested_mismatch_not_shown :
    (∃ expected actual, matchValue (.list (.list .int)) (.list [.list [.string "a"]])
        (.literal (.int 1)) .equals = .error (.typeMismatch expected actual) ∧
      expected.text = actual.text) ∧
    ∃ expected actual, RecordSchema.validateRecord (.ofList [("ports", .list .int)])
        (.ofList [("ports", .list [.string "a"])]) =
          .error (.undecodable "ports" (.typeMismatch expected actual)) ∧
      expected.text = actual.text :=
  ⟨⟨.value .list, .value .list, rfl, rfl⟩, .value .list, .value .list, rfl, rfl⟩

end RecordQuery
