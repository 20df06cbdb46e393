import RecordQuery.Proofs.Building

/-!
Filters that can stand for each other.

Two lists of filters are alike over a schema if binding comes to the same, with the same error
where it fails, and the bound filters together give the same answer on every record, errors
included. Filters that stand before and after them in a query do not tell them apart, so a part
of a query can be replaced by one that is alike.
-/

namespace RecordQuery

/-! ### Outcomes -/

/-- Two computations fail with the same error, or give results that are related. -/
inductive SameOutcome {ε α β : Type} (R : α → β → Prop) : Except ε α → Except ε β → Prop where
  | error (e : ε) : SameOutcome R (.error e) (.error e)
  | ok {a : α} {b : β} (h : R a b) : SameOutcome R (.ok a) (.ok b)

namespace SameOutcome

variable {ε α β γ δ : Type} {R : α → β → Prop} {S : γ → δ → Prop} {x : Except ε α} {y : Except ε β}

lemma of_map {x : Except ε α} {f : α → β} (h : ∀ a, x = .ok a → R a (f a)) :
    SameOutcome R x (x.map f) := by
  cases x with
  | error e => exact .error e
  | ok a => exact .ok (h a rfl)

lemma bind (h : SameOutcome R x y) {k : α → Except ε γ} {k' : β → Except ε δ}
    (hk : ∀ a b, R a b → SameOutcome S (k a) (k' b)) : SameOutcome S (x.bind k) (y.bind k') := by
  cases h with
  | error e => exact .error e
  | ok hab => exact hk _ _ hab

lemma map (h : SameOutcome R x y) {f : α → γ} {f' : β → δ} (hf : ∀ a b, R a b → S (f a) (f' b)) :
    SameOutcome S (x.map f) (y.map f') := by
  cases h with
  | error e => exact .error e
  | ok hab => exact .ok (hf _ _ hab)

lemma error_iff (h : SameOutcome R x y) (e : ε) : x = .error e ↔ y = .error e := by
  cases h <;> simp

end SameOutcome

/-! ### Filters -/

section Accepts

variable {bound : BoundFilter} {record : Record}

lemma BoundFilter.accepts_of_none (h : record.get? bound.filter.name = none) :
    bound.accepts record = .ok false := by
  rw [accepts, h]

lemma BoundFilter.accepts_of_some {v : Value} (h : record.get? bound.filter.name = some v) :
    bound.accepts record =
      if bound.filter.all then
        allOk (matchValue bound.schema v · bound.filter.mode) bound.filter.operands
      else anyOk (matchValue bound.schema v · bound.filter.mode) bound.filter.operands := by
  rw [accepts, h]

end Accepts

/-- Together the filters give the same answer on every record. -/
def SameAnswers (bs cs : List BoundFilter) : Prop :=
  ∀ record, allOk (·.accepts record) bs = allOk (·.accepts record) cs

/-- The filters bind alike over the schema, and those that are bound answer alike. -/
def FiltersAlike (schema : RecordSchema) (fs gs : List Filter) : Prop :=
  SameOutcome SameAnswers (mapOk (QueryClauses.bindFilter schema) fs)
    (mapOk (QueryClauses.bindFilter schema) gs)

variable {schema : RecordSchema} {fs gs fs' gs' : List Filter}

lemma SameAnswers.append {bs cs bs' cs' : List BoundFilter} (h : SameAnswers bs cs)
    (h' : SameAnswers bs' cs') : SameAnswers (bs ++ bs') (cs ++ cs') := by
  intro record
  rw [allOk_append, allOk_append, h record, h' record]

namespace FiltersAlike

lemma refl (schema : RecordSchema) (fs : List Filter) : FiltersAlike schema fs fs := by
  unfold FiltersAlike
  cases mapOk (QueryClauses.bindFilter schema) fs with
  | error e => exact .error e
  | ok bs => exact .ok fun _ => rfl

/-- What stands beside filters that are alike makes no difference. -/
lemma append (h : FiltersAlike schema fs gs) (h' : FiltersAlike schema fs' gs') :
    FiltersAlike schema (fs ++ fs') (gs ++ gs') := by
  unfold FiltersAlike
  rw [mapOk_append, mapOk_append]
  exact SameOutcome.bind h fun bs cs hbs => SameOutcome.map h' fun bs' cs' hbs' => hbs.append hbs'

/-- One filter for one that binds and answers alike. -/
lemma singleton {f g : Filter}
    (h : SameOutcome (fun b c => ∀ record, b.accepts record = c.accepts record)
      (QueryClauses.bindFilter schema f) (QueryClauses.bindFilter schema g)) :
    FiltersAlike schema [f] [g] := by
  unfold FiltersAlike
  rw [mapOk_singleton, mapOk_singleton]
  exact h.map fun b c hbc record => by simp only [allOk, hbc record]

end FiltersAlike

/-! ### Queries -/

/-- The queries give the same on every record and on every list of records, errors included. -/
structure Query.SameAnswers (q p : Query) : Prop where
  accepts : ∀ record, q.accepts record = p.accepts record
  apply : ∀ records, q.apply records = p.apply records

lemma QueryClauses.build_eq_bind (clauses : QueryClauses) (schema : RecordSchema) :
    clauses.build schema = (mapOk (bindFilter schema) clauses.filters).bind fun filters =>
      (mapOk (bindSort schema) clauses.sorts).map fun sorts => ⟨filters, sorts⟩ := by
  unfold build
  cases mapOk (bindFilter schema) clauses.filters with
  | error e => rfl
  | ok filters => cases mapOk (bindSort schema) clauses.sorts <;> rfl

lemma Query.sameAnswers_of_filters {bs cs : List BoundFilter} (h : RecordQuery.SameAnswers bs cs)
    (sorts : List BoundSort) : Query.SameAnswers ⟨bs, sorts⟩ ⟨cs, sorts⟩ := by
  have haccepts : (⟨bs, sorts⟩ : Query).accepts = (⟨cs, sorts⟩ : Query).accepts := by
    funext record
    rw [Query.accepts, Query.accepts, h record]
  have hsort : Query.sort ⟨bs, sorts⟩ = Query.sort ⟨cs, sorts⟩ := rfl
  refine ⟨congrFun haccepts, fun records => ?_⟩
  simp only [Query.apply, haccepts, hsort]

/-- **A part of a query can be replaced** by filters that are alike: the whole builds alike, and
what is built answers alike. -/
theorem FiltersAlike.build (h : FiltersAlike schema fs gs) (before after : List Filter)
    (sorts : List SortKey) :
    SameOutcome Query.SameAnswers
      (QueryClauses.build ⟨before ++ fs ++ after, sorts⟩ schema)
      (QueryClauses.build ⟨before ++ gs ++ after, sorts⟩ schema) := by
  have hwhole := ((FiltersAlike.refl schema before).append h).append (.refl schema after)
  rw [QueryClauses.build_eq_bind, QueryClauses.build_eq_bind]
  refine SameOutcome.bind hwhole fun bs cs hbs => ?_
  cases mapOk (QueryClauses.bindSort schema) sorts with
  | error e => exact .error e
  | ok bound => exact .ok (Query.sameAnswers_of_filters hbs bound)

end RecordQuery
