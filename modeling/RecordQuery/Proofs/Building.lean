import RecordQuery.Proofs.FirstFault

/-!
Which clauses build, into which query, and what is wrong with those that do not.

For operands, filters and sorts there are two relations each: what they become, and what can be
wrong with them. The two leave nothing out and do not overlap, so building is known from them:
clauses build exactly if each of them becomes something, and otherwise the error is the first fault
of the first faulty filter, or of the first faulty sort where no filter is faulty.
-/

namespace RecordQuery

variable {schema : RecordSchema} {s : Schema} {mode : Mode}

/-! ### Operands -/

/-- The scalars under the schema are texts that the mode matches by regular expression. -/
def Mode.TakesPatterns (s : Schema) (mode : Mode) : Prop := s.scalar = .string ∧ mode = .regex

lemma Filter.wantsPatterns_eq_true (h : mode.TakesPatterns s) :
    wantsPatterns mode s.scalar = true := by
  simp [wantsPatterns, h.1, h.2]

lemma Filter.wantsPatterns_eq_false (h : ¬mode.TakesPatterns s) :
    wantsPatterns mode s.scalar = false := by
  rw [Bool.eq_false_iff]
  intro hw
  simp only [wantsPatterns, Bool.and_eq_true, decide_eq_true_eq] at hw
  exact h hw.symm

namespace Operand

/-- What binding makes of an operand: a text becomes the pattern that it compiles to where patterns
are taken, and patterns there and literals of the scalar type elsewhere stay as they are. -/
inductive Becomes (s : Schema) (mode : Mode) : Operand → Operand → Prop where
  | compiled {source : String} {p : Pattern} (h : mode.TakesPatterns s)
      (hp : Pattern.compile? source = some p) : Becomes s mode (literal (.string source)) (pattern p)
  | pattern (p : Pattern) (h : mode.TakesPatterns s) : Becomes s mode (pattern p) (pattern p)
  | literal {v : Value} (h : ¬mode.TakesPatterns s) (hv : v.conforms s.scalar = true) :
      Becomes s mode (literal v) (literal v)

/-- The operand can be bound. -/
def Fits (s : Schema) (mode : Mode) (o : Operand) : Prop := ∃ o', o.Becomes s mode o'

/-- What can be wrong with an operand. -/
inductive Fault (s : Schema) (mode : Mode) : Operand → EngineError → Prop where
  | uncompiled {source : String} (h : mode.TakesPatterns s)
      (hp : Pattern.compile? source = none) :
      Fault s mode (literal (.string source)) (.invalidPattern source)
  | notText {v : Value} (h : mode.TakesPatterns s) (hv : ∀ source, v ≠ .string source) :
      Fault s mode (literal v) (.typeMismatch .pattern (.value v.tag))
  | notLiteral (p : Pattern) (h : ¬mode.TakesPatterns s) :
      Fault s mode (pattern p) (.typeMismatch (.value s.scalar.tag) .pattern)
  | mistyped {v : Value} (h : ¬mode.TakesPatterns s) (hv : v.conforms s.scalar = false) :
      Fault s mode (literal v) (.typeMismatch (.value s.scalar.tag) (.value v.tag))

variable {o o' : Operand} {e : EngineError}

lemma Becomes.bindOperand_eq (h : o.Becomes s mode o') :
    Filter.bindOperand s.scalar (Filter.wantsPatterns mode s.scalar) o = .ok o' := by
  cases h with
  | compiled h hp =>
    simp [Filter.wantsPatterns_eq_true h, Filter.bindOperand, ofPattern, hp]
  | pattern p h => rw [Filter.wantsPatterns_eq_true h, Filter.bindOperand]
  | literal h hv => simp [Filter.wantsPatterns_eq_false h, Filter.bindOperand, hv]

lemma Fault.bindOperand_eq (h : o.Fault s mode e) :
    Filter.bindOperand s.scalar (Filter.wantsPatterns mode s.scalar) o = .error e := by
  cases h with
  | uncompiled h hp =>
    simp [Filter.wantsPatterns_eq_true h, Filter.bindOperand, ofPattern, hp]
  | @notText v h hv =>
    rw [Filter.wantsPatterns_eq_true h, h.1]
    cases v <;> first | exact absurd rfl (hv _) | rfl
  | notLiteral p h =>
    simp [Filter.wantsPatterns_eq_false h, Filter.bindOperand, Filter.bindOperand.expected,
      typeName]
  | mistyped h hv =>
    simp [Filter.wantsPatterns_eq_false h, Filter.bindOperand, Filter.bindOperand.expected,
      typeName, hv]

lemma fits_or_exists_fault (s : Schema) (mode : Mode) (o : Operand) :
    o.Fits s mode ∨ ∃ e, o.Fault s mode e := by
  by_cases h : mode.TakesPatterns s
  · cases o with
    | pattern p => exact .inl ⟨_, .pattern p h⟩
    | literal v =>
      cases v with
      | string source =>
        cases hp : Pattern.compile? source with
        | some p => exact .inl ⟨_, .compiled h hp⟩
        | none => exact .inr ⟨_, .uncompiled h hp⟩
      | _ => exact .inr ⟨_, .notText h nofun⟩
  · cases o with
    | pattern p => exact .inr ⟨_, .notLiteral p h⟩
    | literal v =>
      cases hv : v.conforms s.scalar with
      | true => exact .inl ⟨_, .literal h hv⟩
      | false => exact .inr ⟨_, .mistyped h hv⟩

end Operand

/-- Two relations that leave nothing out, and of which each determines the result where it holds,
are what the result can be. -/
lemma eq_ok_and_error_iff {ε β : Type} {r : Except ε β} {P : β → Prop} {Q : ε → Prop}
    (hok : ∀ b, P b → r = .ok b) (herror : ∀ e, Q e → r = .error e)
    (htotal : (∃ b, P b) ∨ ∃ e, Q e) :
    (∀ b, r = .ok b ↔ P b) ∧ ∀ e, r = .error e ↔ Q e := by
  rcases htotal with ⟨b', hb'⟩ | ⟨e', he'⟩
  · have hr := hok b' hb'
    refine ⟨fun b => ⟨fun hb => ?_, hok b⟩, fun e => ⟨fun he => ?_, herror e⟩⟩
    · cases hr.symm.trans hb
      exact hb'
    · cases hr.symm.trans he
  · have hr := herror e' he'
    refine ⟨fun b => ⟨fun hb => ?_, hok b⟩, fun e => ⟨fun he => ?_, herror e⟩⟩
    · cases hr.symm.trans hb
    · cases hr.symm.trans he
      exact he'

lemma Operand.bindOperand_iff (s : Schema) (mode : Mode) (o : Operand) :
    (∀ o', Filter.bindOperand s.scalar (Filter.wantsPatterns mode s.scalar) o = .ok o' ↔
      o.Becomes s mode o') ∧
    ∀ e, Filter.bindOperand s.scalar (Filter.wantsPatterns mode s.scalar) o = .error e ↔
      o.Fault s mode e :=
  eq_ok_and_error_iff (fun _ => Becomes.bindOperand_eq) (fun _ => Fault.bindOperand_eq)
    (fits_or_exists_fault s mode o)

lemma Operand.mapOk_bindOperand_eq_ok_iff {l m : List Operand} :
    mapOk (Filter.bindOperand s.scalar (Filter.wantsPatterns mode s.scalar)) l = .ok m ↔
      List.Forall₂ (Becomes s mode) l m := by
  simp only [mapOk_eq_ok_iff, (bindOperand_iff s mode _).1]

lemma Operand.faultless_bindOperand_iff {l : List Operand} :
    Faultless (Filter.bindOperand s.scalar (Filter.wantsPatterns mode s.scalar)) l ↔
      ∀ o ∈ l, o.Fits s mode := by
  simp only [Faultless, Fits, (bindOperand_iff s mode _).1]

lemma Operand.firstFault_bindOperand_iff {l : List Operand} {e : EngineError} :
    FirstFault (Filter.bindOperand s.scalar (Filter.wantsPatterns mode s.scalar)) l e ↔
      ∃ before o after, l = before ++ o :: after ∧ (∀ b ∈ before, b.Fits s mode) ∧
        o.Fault s mode e := by
  simp only [FirstFault, Fits, (bindOperand_iff s mode _).1, (bindOperand_iff s mode _).2]

/-! ### Filters -/

/-- The filter has been bound to the declaration of its attribute, and differs in its operands
only, each of them bound. -/
structure BoundFilter.Binds (schema : RecordSchema) (f : Filter) (bound : BoundFilter) : Prop where
  declared : schema.get? f.name = some bound.schema
  nonempty : f.operands ≠ []
  name : bound.filter.name = f.name
  mode : bound.filter.mode = f.mode
  all : bound.filter.all = f.all
  operands : List.Forall₂ (Operand.Becomes bound.schema f.mode) f.operands bound.filter.operands

lemma BoundFilter.Binds.operands_ne_nil {f : Filter} {bound : BoundFilter}
    (h : bound.Binds schema f) : bound.filter.operands ≠ [] := by
  intro hnil
  have hlen := h.operands.length_eq
  rw [hnil, List.length_nil, List.length_eq_zero_iff] at hlen
  exact h.nonempty hlen

/-- The filter names a declared attribute and has operands, all of which can be bound. -/
def Filter.WellFormed (schema : RecordSchema) (f : Filter) : Prop :=
  ∃ s, schema.get? f.name = some s ∧ f.operands ≠ [] ∧ ∀ o ∈ f.operands, o.Fits s f.mode

/-- What is wrong with a filter: an attribute that is not declared, no operands, or the first
operand that cannot be bound. -/
inductive Filter.Fault (schema : RecordSchema) (f : Filter) : QueryError → Prop where
  | undeclared (h : schema.get? f.name = none) : Fault schema f (.unknownAttribute f.name)
  | empty {s : Schema} (hs : schema.get? f.name = some s) (h : f.operands = []) :
      Fault schema f (.emptyFilter f.name)
  | operand {s : Schema} {before after : List Operand} {o : Operand} {e : EngineError}
      (hs : schema.get? f.name = some s) (split : f.operands = before ++ o :: after)
      (fits : ∀ b ∈ before, b.Fits s f.mode) (first : o.Fault s f.mode e) :
      Fault schema f (.engine e)

lemma RecordSchema.require_eq_ok_iff {name : String} :
    schema.require name = .ok s ↔ schema.get? name = some s := by
  unfold require
  cases schema.get? name <;> simp

lemma RecordSchema.require_of_none {name : String} (h : schema.get? name = none) :
    schema.require name = .error (.unknownAttribute name) := by
  rw [require, h]

lemma Filter.bind_eq (f : Filter) (s : Schema) :
    f.bind s = if f.operands.isEmpty then .error (.emptyFilter f.name) else
      (liftEngine (mapOk (bindOperand s.scalar (wantsPatterns f.mode s.scalar)) f.operands)).map
        fun operands => ⟨{ f with operands }, s⟩ := by
  rw [bind]
  cases hoperands : mapOk (bindOperand s.scalar (wantsPatterns f.mode s.scalar)) f.operands with
  | error e => simp only [hoperands, liftEngine, Except.map]
  | ok operands => simp only [hoperands, liftEngine, Except.map]

namespace QueryClauses

variable {f : Filter} {e : QueryError}

lemma bindFilter_of_declared (hs : schema.get? f.name = some s) :
    bindFilter schema f = f.bind s := by
  rw [bindFilter, RecordSchema.require_eq_ok_iff.2 hs]

lemma bindFilter_of_binds {bound : BoundFilter} (h : bound.Binds schema f) :
    bindFilter schema f = .ok bound := by
  have hoperands := Operand.mapOk_bindOperand_eq_ok_iff.2 h.operands
  rw [← h.mode] at hoperands
  rw [bindFilter_of_declared h.declared, Filter.bind, if_neg (by simpa using h.nonempty),
    ← h.name, ← h.mode, ← h.all]
  simp only [hoperands]

lemma bindFilter_of_fault (h : f.Fault schema e) : bindFilter schema f = .error e := by
  cases h with
  | undeclared h => rw [bindFilter, RecordSchema.require_of_none h]
  | empty hs h => rw [bindFilter_of_declared hs, Filter.bind, h, List.isEmpty_nil, if_pos rfl]
  | operand hs split fits first =>
    have hne : ¬f.operands.isEmpty = true := by simp [split]
    have hfirst := mapOk_eq_error_iff.2
      (Operand.firstFault_bindOperand_iff.2 ⟨_, _, _, split, fits, first⟩)
    rw [bindFilter_of_declared hs, Filter.bind, if_neg hne]
    simp only [hfirst]

lemma exists_binds_or_fault (schema : RecordSchema) (f : Filter) :
    (∃ bound : BoundFilter, bound.Binds schema f) ∨ ∃ e, f.Fault schema e := by
  cases hs : schema.get? f.name with
  | none => exact .inr ⟨_, .undeclared hs⟩
  | some s =>
    by_cases hne : f.operands = []
    · exact .inr ⟨_, .empty hs hne⟩
    · cases hm : mapOk (Filter.bindOperand s.scalar (Filter.wantsPatterns f.mode s.scalar))
          f.operands with
      | ok operands =>
        have hall := Operand.mapOk_bindOperand_eq_ok_iff.1 hm
        exact .inl ⟨⟨{ f with operands }, s⟩, hs, hne, rfl, rfl, rfl, hall⟩
      | error e =>
        obtain ⟨before, o, after, split, fits, first⟩ :=
          Operand.firstFault_bindOperand_iff.1 (mapOk_eq_error_iff.1 hm)
        exact .inr ⟨_, .operand hs split fits first⟩

lemma bindFilter_iff (schema : RecordSchema) (f : Filter) :
    (∀ bound, bindFilter schema f = .ok bound ↔ bound.Binds schema f) ∧
      ∀ e, bindFilter schema f = .error e ↔ f.Fault schema e :=
  eq_ok_and_error_iff (fun _ => bindFilter_of_binds) (fun _ => bindFilter_of_fault)
    (exists_binds_or_fault schema f)

lemma exists_bindFilter_eq_ok_iff :
    (∃ bound, bindFilter schema f = .ok bound) ↔ f.WellFormed schema := by
  simp only [(bindFilter_iff schema f).1]
  constructor
  · rintro ⟨bound, h⟩
    refine ⟨_, h.declared, h.nonempty, Operand.faultless_bindOperand_iff.1 ?_⟩
    exact exists_mapOk_eq_ok_iff.1 ⟨_, Operand.mapOk_bindOperand_eq_ok_iff.2 h.operands⟩
  · rintro ⟨s, hs, hne, hfits⟩
    obtain ⟨operands, hm⟩ := exists_mapOk_eq_ok_iff.2 (Operand.faultless_bindOperand_iff.2 hfits)
    exact ⟨⟨{ f with operands }, s⟩, hs, hne, rfl, rfl, rfl,
      Operand.mapOk_bindOperand_eq_ok_iff.1 hm⟩

end QueryClauses

/-! ### Sorts -/

/-- The sort has been bound to the declaration of its attribute, which is of a scalar type. -/
structure BoundSort.Binds (schema : RecordSchema) (key : SortKey) (bound : BoundSort) : Prop where
  declared : schema.get? key.name = some bound.schema
  scalar : bound.schema.scalar = bound.schema
  key : bound.key = key

/-- The sort names a declared attribute of a scalar type. -/
def SortKey.WellFormed (schema : RecordSchema) (key : SortKey) : Prop :=
  ∃ s, schema.get? key.name = some s ∧ s.scalar = s

/-- What is wrong with a sort: an attribute that is not declared, or is of a collection. -/
inductive SortKey.Fault (schema : RecordSchema) (key : SortKey) : QueryError → Prop where
  | undeclared (h : schema.get? key.name = none) : Fault schema key (.unknownAttribute key.name)
  | collection {s : Schema} (hs : schema.get? key.name = some s) (h : s.scalar ≠ s) :
      Fault schema key (.engine (.unorderable s.tag))

lemma Schema.isOrderable_iff_scalar_eq : s.isOrderable = true ↔ s.scalar = s := by
  constructor
  · intro h
    cases s <;> first | rfl | cases h
  · intro h
    rw [← h]
    exact isOrderable_scalar s

namespace QueryClauses

variable {key : SortKey} {e : QueryError}

lemma bindSort_of_declared (hs : schema.get? key.name = some s) :
    bindSort schema key = key.bind s := by
  rw [bindSort, RecordSchema.require_eq_ok_iff.2 hs]

lemma bindSort_of_binds {bound : BoundSort} (h : bound.Binds schema key) :
    bindSort schema key = .ok bound := by
  rw [bindSort_of_declared h.declared, SortKey.bind,
    if_pos (Schema.isOrderable_iff_scalar_eq.2 h.scalar), ← h.key]

lemma bindSort_of_fault (h : key.Fault schema e) : bindSort schema key = .error e := by
  cases h with
  | undeclared h => rw [bindSort, RecordSchema.require_of_none h]
  | collection hs h =>
    rw [bindSort_of_declared hs, SortKey.bind,
      if_neg fun horder => h (Schema.isOrderable_iff_scalar_eq.1 horder)]

lemma exists_binds_or_sortFault (schema : RecordSchema) (key : SortKey) :
    (∃ bound : BoundSort, bound.Binds schema key) ∨ ∃ e, key.Fault schema e := by
  cases hs : schema.get? key.name with
  | none => exact .inr ⟨_, .undeclared hs⟩
  | some s =>
    by_cases h : s.scalar = s
    · exact .inl ⟨⟨key, s⟩, hs, h, rfl⟩
    · exact .inr ⟨_, .collection hs h⟩

lemma bindSort_iff (schema : RecordSchema) (key : SortKey) :
    (∀ bound, bindSort schema key = .ok bound ↔ bound.Binds schema key) ∧
      ∀ e, bindSort schema key = .error e ↔ key.Fault schema e :=
  eq_ok_and_error_iff (fun _ => bindSort_of_binds) (fun _ => bindSort_of_fault)
    (exists_binds_or_sortFault schema key)

lemma exists_bindSort_eq_ok_iff :
    (∃ bound, bindSort schema key = .ok bound) ↔ key.WellFormed schema := by
  simp only [(bindSort_iff schema key).1]
  constructor
  · rintro ⟨bound, h⟩
    exact ⟨_, h.declared, h.scalar⟩
  · rintro ⟨s, hs, h⟩
    exact ⟨⟨key, s⟩, hs, h, rfl⟩

/-! ### Queries -/

/-- What is wrong with clauses: the first faulty filter, or where no filter is faulty the first
faulty sort. -/
inductive Fault (schema : RecordSchema) (clauses : QueryClauses) : QueryError → Prop where
  | filter {before after : List Filter} {f : Filter} {e : QueryError}
      (split : clauses.filters = before ++ f :: after)
      (wellFormed : ∀ g ∈ before, g.WellFormed schema) (first : f.Fault schema e) :
      Fault schema clauses e
  | sort {before after : List SortKey} {key : SortKey} {e : QueryError}
      (filters : ∀ f ∈ clauses.filters, f.WellFormed schema)
      (split : clauses.sorts = before ++ key :: after)
      (wellFormed : ∀ k ∈ before, k.WellFormed schema) (first : key.Fault schema e) :
      Fault schema clauses e

variable {clauses : QueryClauses} {q : Query}

lemma build_eq_ok (h : clauses.build schema = .ok q) :
    mapOk (bindFilter schema) clauses.filters = .ok q.filters ∧
      mapOk (bindSort schema) clauses.sorts = .ok q.sorts := by
  unfold build at h
  cases hf : mapOk (bindFilter schema) clauses.filters with
  | error e => simp [hf] at h
  | ok filters =>
    cases hs : mapOk (bindSort schema) clauses.sorts with
    | error e => simp [hf, hs] at h
    | ok sorts =>
      simp only [hf, hs, Except.ok.injEq] at h
      subst h
      exact ⟨rfl, rfl⟩

lemma build_eq_ok_iff : clauses.build schema = .ok q ↔
    mapOk (bindFilter schema) clauses.filters = .ok q.filters ∧
      mapOk (bindSort schema) clauses.sorts = .ok q.sorts := by
  refine ⟨build_eq_ok, ?_⟩
  rintro ⟨hf, hs⟩
  rw [build, hf]
  simp only [hs]

lemma build_eq_error_iff : clauses.build schema = .error e ↔
    FirstFault (bindFilter schema) clauses.filters e ∨
      Faultless (bindFilter schema) clauses.filters ∧
        FirstFault (bindSort schema) clauses.sorts e := by
  rw [← mapOk_eq_error_iff, ← mapOk_eq_error_iff, ← exists_mapOk_eq_ok_iff]
  unfold build
  cases mapOk (bindFilter schema) clauses.filters with
  | error e => simp
  | ok filters => cases mapOk (bindSort schema) clauses.sorts <;> simp

lemma faultless_bindFilter_iff {l : List Filter} :
    Faultless (bindFilter schema) l ↔ ∀ f ∈ l, f.WellFormed schema := by
  simp only [Faultless, exists_bindFilter_eq_ok_iff]

lemma faultless_bindSort_iff {l : List SortKey} :
    Faultless (bindSort schema) l ↔ ∀ k ∈ l, k.WellFormed schema := by
  simp only [Faultless, exists_bindSort_eq_ok_iff]

lemma build_eq_error_iff_fault :
    clauses.build schema = .error e ↔ clauses.Fault schema e := by
  simp only [build_eq_error_iff, faultless_bindFilter_iff, FirstFault, exists_bindFilter_eq_ok_iff,
    exists_bindSort_eq_ok_iff, (bindFilter_iff schema _).2, (bindSort_iff schema _).2]
  constructor
  · rintro (⟨before, f, after, split, hbefore, first⟩ | ⟨hf, before, k, after, split, hbefore, first⟩)
    · exact .filter split hbefore first
    · exact .sort hf split hbefore first
  · rintro (⟨split, hbefore, first⟩ | ⟨hf, split, hbefore, first⟩)
    · exact .inl ⟨_, _, _, split, hbefore, first⟩
    · exact .inr ⟨hf, _, _, _, split, hbefore, first⟩

/-- **What builds.** Clauses build exactly if every filter names a declared attribute and has
operands, all of which can be bound, and every sort names a declared attribute of a scalar type.
The query has the same filters and sorts in the same order, with the declared types and the bound
operands. Otherwise the error is that of the first faulty filter, or without one of the first
faulty sort. -/
theorem build_domain (schema : RecordSchema) (clauses : QueryClauses) :
    ((∃ q, clauses.build schema = .ok q) ↔
      (∀ f ∈ clauses.filters, f.WellFormed schema) ∧
        ∀ key ∈ clauses.sorts, key.WellFormed schema) ∧
    (∀ q, clauses.build schema = .ok q ↔
      List.Forall₂ (BoundFilter.Binds schema) clauses.filters q.filters ∧
        List.Forall₂ (BoundSort.Binds schema) clauses.sorts q.sorts) ∧
    ∀ e, clauses.build schema = .error e ↔ clauses.Fault schema e := by
  refine ⟨?_, fun q => ?_, fun e => build_eq_error_iff_fault⟩
  · rw [← faultless_bindFilter_iff, ← faultless_bindSort_iff, ← exists_mapOk_eq_ok_iff,
      ← exists_mapOk_eq_ok_iff]
    constructor
    · rintro ⟨q, hq⟩
      obtain ⟨hf, hs⟩ := build_eq_ok_iff.1 hq
      exact ⟨⟨_, hf⟩, _, hs⟩
    · rintro ⟨⟨filters, hf⟩, sorts, hs⟩
      exact ⟨⟨filters, sorts⟩, build_eq_ok_iff.2 ⟨hf, hs⟩⟩
  · simp only [build_eq_ok_iff, mapOk_eq_ok_iff, (bindFilter_iff schema _).1,
      (bindSort_iff schema _).1]

end QueryClauses

end RecordQuery
