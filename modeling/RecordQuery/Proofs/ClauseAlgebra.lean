import RecordQuery.Proofs.AlikeFilters
import RecordQuery.Proofs.Soundness

/-!
Filters as boolean operations.

A filter over all of its operands is the conjunction of the filters by one operand each, on every
record and with every error; a filter over some of its operands is their disjunction. On records
of the schema nothing else counts than which filters there are and which operands they have: their
order and repetitions of them make no difference. What a filter never does is to accept a record
without its attribute, for which it takes at least one operand.
-/

namespace RecordQuery

/-- Operands that are gone through one at a time with what is made of each. -/
lemma mapOk_liftEngine_map {α β γ : Type} (f : α → Except EngineError β) (g : β → γ)
    (l : List α) :
    mapOk (fun x => (liftEngine (f x)).map g) l = (liftEngine (mapOk f l)).map (·.map g) := by
  induction l with
  | nil => rfl
  | cons x l ih =>
    rw [mapOk, mapOk, ih]
    cases f x with
    | error e => rfl
    | ok y => cases mapOk f l <;> rfl

/-! ### Filters by one operand -/

/-- The filter by one operand alone. Whether it asks for some or for all of them is left open. -/
def Filter.single (f : Filter) (all : Bool) (o : Operand) : Filter :=
  { f with operands := [o], all }

def BoundFilter.single (bound : BoundFilter) (all : Bool) (o : Operand) : BoundFilter :=
  { bound with filter := bound.filter.single all o }

/-- The filters by one operand each. -/
def BoundFilter.singles (bound : BoundFilter) (all : Bool) : List BoundFilter :=
  bound.filter.operands.map (bound.single all)

variable {schema : RecordSchema} {s : Schema} {f g : Filter} {bound : BoundFilter}
  {record : Record}

lemma Filter.bind_single (f : Filter) (all : Bool) (o : Operand) (s : Schema) :
    (f.single all o).bind s =
      (liftEngine (bindOperand s.scalar (wantsPatterns f.mode s.scalar) o)).map fun o' =>
        ⟨f.single all o', s⟩ := by
  have hne : ¬(f.single all o).operands.isEmpty = true := Bool.false_ne_true
  have hoperands : mapOk (bindOperand s.scalar (wantsPatterns f.mode s.scalar))
      (f.single all o).operands =
      (bindOperand s.scalar (wantsPatterns f.mode s.scalar) o).map ([·]) := mapOk_singleton _ o
  have hmode : (f.single all o).mode = f.mode := rfl
  rw [bind_eq, if_neg hne, hmode, hoperands]
  cases bindOperand s.scalar (wantsPatterns f.mode s.scalar) o <;> rfl

/-- The filters by one operand each bind exactly if the filter does, each to its part of it. -/
lemma mapOk_bindFilter_singles (hne : f.operands ≠ []) (schema : RecordSchema) (all : Bool) :
    mapOk (QueryClauses.bindFilter schema) (f.operands.map (f.single all)) =
      (QueryClauses.bindFilter schema f).map (·.singles all) := by
  rw [mapOk_map]
  cases hs : schema.get? f.name with
  | none =>
    have hundeclared : ∀ g : Filter, g.name = f.name →
        QueryClauses.bindFilter schema g = .error (.unknownAttribute f.name) := fun g hg => by
      rw [← hg] at hs ⊢
      exact QueryClauses.bindFilter_of_fault (.undeclared hs)
    obtain ⟨o, operands, hoperands⟩ := List.exists_cons_of_ne_nil hne
    rw [hoperands, mapOk, hundeclared (f.single all o) rfl, hundeclared f rfl]
    rfl
  | some s =>
    have hsingle : (fun o => QueryClauses.bindFilter schema (f.single all o)) = fun o =>
        (liftEngine (Filter.bindOperand s.scalar (Filter.wantsPatterns f.mode s.scalar) o)).map
          fun o' => ⟨f.single all o', s⟩ := by
      funext o
      have hname : schema.get? (f.single all o).name = some s := hs
      rw [QueryClauses.bindFilter_of_declared hname, Filter.bind_single]
    rw [hsingle, mapOk_liftEngine_map, QueryClauses.bindFilter_of_declared hs, Filter.bind_eq,
      if_neg (by simpa using hne)]
    cases mapOk (Filter.bindOperand s.scalar (Filter.wantsPatterns f.mode s.scalar))
      f.operands <;> rfl

namespace BoundFilter

lemma accepts_single_of_none (h : record.get? bound.filter.name = none) (all : Bool)
    (o : Operand) : (bound.single all o).accepts record = .ok false :=
  accepts_of_none h

/-- One operand is matched alike, whether some or all are asked for. -/
lemma accepts_single_of_some {v : Value} (h : record.get? bound.filter.name = some v) (all : Bool)
    (o : Operand) : (bound.single all o).accepts record =
      matchValue bound.schema v o bound.filter.mode := by
  have hv : record.get? (bound.single all o).filter.name = some v := h
  have hoperands : (bound.single all o).filter.operands = [o] := rfl
  rw [accepts_of_some hv, hoperands, allOk_singleton, anyOk_singleton, ite_self]
  rfl

/-- **All is a conjunction**: the answer is that of the filters by one operand each, gone through
up to the first that says no or fails. -/
lemma accepts_eq_allOk_singles (hall : bound.filter.all = true) (hne : bound.filter.operands ≠ [])
    (all : Bool) (record : Record) :
    bound.accepts record = allOk (·.accepts record) (bound.singles all) := by
  rw [singles, allOk_map]
  cases hv : record.get? bound.filter.name with
  | none =>
    -- an empty conjunction would accept, so it takes an operand to say no
    obtain ⟨o, operands, hoperands⟩ := List.exists_cons_of_ne_nil hne
    rw [accepts_of_none hv, hoperands, allOk, accepts_single_of_none hv]
  | some v =>
    have hsingle := funext fun o => accepts_single_of_some hv all o
    rw [accepts_of_some hv, if_pos hall, hsingle]

/-- **Some is a disjunction**: the answer is that of the filters by one operand each, gone through
up to the first that says yes or fails. -/
lemma accepts_eq_anyOk_singles (hall : bound.filter.all = false) (all : Bool) (record : Record) :
    bound.accepts record = anyOk (·.accepts record) (bound.singles all) := by
  rw [singles, anyOk_map]
  cases hv : record.get? bound.filter.name with
  | none =>
    have hno : ∀ o ∈ bound.filter.operands, (bound.single all o).accepts record = .ok false :=
      fun o _ => accepts_single_of_none hv all o
    rw [accepts_of_none hv, anyOk_eq_ok_any hno]
    simp
  | some v =>
    have hsingle := funext fun o => accepts_single_of_some hv all o
    rw [accepts_of_some hv, if_neg (Bool.eq_false_iff.1 hall), hsingle]

end BoundFilter

/-- A filter over all of its operands can be replaced by the filters by one operand each. -/
lemma filtersAlike_singles (hall : f.all = true) (hne : f.operands ≠ []) (schema : RecordSchema)
    (all : Bool) : FiltersAlike schema [f] (f.operands.map (f.single all)) := by
  unfold FiltersAlike
  rw [mapOk_singleton, mapOk_bindFilter_singles hne]
  cases hbind : QueryClauses.bindFilter schema f with
  | error e => exact .error e
  | ok bound =>
    have hbinds := ((QueryClauses.bindFilter_iff schema f).1 bound).1 hbind
    refine .ok fun record => ?_
    rw [allOk_singleton]
    exact BoundFilter.accepts_eq_allOk_singles (hbinds.all.trans hall) hbinds.wellBound.nonempty
      all record

/-! ### Disjunctions -/

lemma Query.accepts_eq_ok_true_iff {q : Query} :
    q.accepts record = .ok true ↔ ∀ b ∈ q.filters, b.accepts record = .ok true := by
  rw [Query.accepts, liftEngine_eq_ok_iff, allOk_eq_ok_true_iff]

lemma QueryClauses.build_singleton_eq_ok_iff {sorts : List SortKey} {q : Query} :
    QueryClauses.build ⟨[f], sorts⟩ schema = .ok q ↔
      (∃ b : BoundFilter, b.Binds schema f ∧ q.filters = [b]) ∧
        mapOk (bindSort schema) sorts = .ok q.sorts := by
  rw [build_eq_ok_iff, mapOk_singleton]
  refine and_congr_left fun _ => ?_
  constructor
  · intro h
    obtain ⟨b, hb, hfilters⟩ := map_eq_ok_iff.1 h
    exact ⟨b, ((bindFilter_iff schema f).1 b).1 hb, hfilters.symm⟩
  · rintro ⟨b, hb, hfilters⟩
    exact map_eq_ok_iff.2 ⟨b, bindFilter_of_binds hb, hfilters.symm⟩

/-- On a record of the schema, a filter over some of its operands says yes if one of the filters
by one operand does. -/
lemma BoundFilter.Binds.accepts_iff_exists_single (h : bound.Binds schema f)
    (hall : f.all = false) (all : Bool) (hr : schema.Admits record) :
    bound.accepts record = .ok true ↔ ∃ o ∈ f.operands, ∃ c : BoundFilter,
      c.Binds schema (f.single all o) ∧ c.accepts record = .ok true := by
  have hbind : QueryClauses.bindFilter schema f = .ok bound := QueryClauses.bindFilter_of_binds h
  have hsingles : mapOk (QueryClauses.bindFilter schema) (f.operands.map (f.single all)) =
      .ok (bound.singles all) := by
    rw [mapOk_bindFilter_singles h.nonempty, hbind]
    rfl
  have hanswers : ∀ c ∈ bound.singles all, c.accepts record = .ok (c.holds record) :=
    fun c hc => by
      obtain ⟨g, -, hg⟩ := exists_of_mem_mapOk hsingles hc
      have hwell := (((QueryClauses.bindFilter_iff schema g).1 c).1 hg).wellBound
      exact hwell.accepts_eq_ok hr
  have hyes : bound.accepts record = .ok true ↔
      ∃ c ∈ bound.singles all, c.accepts record = .ok true := by
    rw [accepts_eq_anyOk_singles (h.all.trans hall) all, anyOk_eq_ok_any hanswers,
      Except.ok.injEq, List.any_eq_true]
    refine exists_congr fun c => and_congr_right fun hc => ?_
    rw [hanswers c hc, Except.ok.injEq]
  rw [hyes]
  constructor
  · rintro ⟨c, hc, htrue⟩
    obtain ⟨g, hg, hbound⟩ := exists_of_mem_mapOk hsingles hc
    obtain ⟨o, ho, rfl⟩ := List.mem_map.1 hg
    exact ⟨o, ho, c, ((QueryClauses.bindFilter_iff schema _).1 c).1 hbound, htrue⟩
  · rintro ⟨o, ho, c, hbinds, htrue⟩
    have hmem : f.single all o ∈ f.operands.map (f.single all) := List.mem_map_of_mem ho
    exact ⟨c, (mem_mapOk_iff hsingles c).2 ⟨_, hmem, QueryClauses.bindFilter_of_binds hbinds⟩,
      htrue⟩

/-- The same of queries of one filter each. -/
lemma Query.accepts_iff_exists_single {sorts : List SortKey} {q : Query} (hall : f.all = false)
    (hq : QueryClauses.build ⟨[f], sorts⟩ schema = .ok q) (all : Bool)
    (hr : schema.Admits record) :
    q.accepts record = .ok true ↔ ∃ o ∈ f.operands, ∃ p,
      QueryClauses.build ⟨[f.single all o], sorts⟩ schema = .ok p ∧
        p.accepts record = .ok true := by
  obtain ⟨⟨b, hb, hfilters⟩, hsorts⟩ := QueryClauses.build_singleton_eq_ok_iff.1 hq
  rw [accepts_eq_ok_true_iff, hfilters, List.forall_mem_singleton,
    hb.accepts_iff_exists_single hall all hr]
  refine exists_congr fun o => and_congr_right fun _ => ?_
  constructor
  · rintro ⟨c, hc, htrue⟩
    refine ⟨⟨[c], q.sorts⟩, ?_, accepts_eq_ok_true_iff.2 (List.forall_mem_singleton.2 htrue)⟩
    exact QueryClauses.build_singleton_eq_ok_iff.2 ⟨⟨c, hc, rfl⟩, hsorts⟩
  · rintro ⟨p, hp, htrue⟩
    obtain ⟨⟨c, hc, hfilters'⟩, -⟩ := QueryClauses.build_singleton_eq_ok_iff.1 hp
    rw [accepts_eq_ok_true_iff, hfilters', List.forall_mem_singleton] at htrue
    exact ⟨c, hc, htrue⟩

/-! ### Order and repetition -/

/-- The filters differ in the order of their operands and in how often each is given only. -/
structure Filter.Rearranges (f g : Filter) : Prop where
  name : f.name = g.name
  mode : f.mode = g.mode
  all : f.all = g.all
  operands : ∀ o, o ∈ f.operands ↔ o ∈ g.operands

/-- The clauses differ in the order of the filters and in how often each is given only, and each
filter in the order and number of its operands. -/
structure QueryClauses.Rearranges (c d : QueryClauses) : Prop where
  forth : ∀ f ∈ c.filters, ∃ g ∈ d.filters, f.Rearranges g
  back : ∀ g ∈ d.filters, ∃ f ∈ c.filters, f.Rearranges g
  sorts : c.sorts = d.sorts

namespace Filter.Rearranges

lemma refl (f : Filter) : f.Rearranges f := ⟨rfl, rfl, rfl, fun _ => .rfl⟩

lemma symm (h : f.Rearranges g) : g.Rearranges f :=
  ⟨h.name.symm, h.mode.symm, h.all.symm, fun o => (h.operands o).symm⟩

lemma operands_ne_nil (h : f.Rearranges g) (hne : f.operands ≠ []) : g.operands ≠ [] := by
  obtain ⟨o, ho⟩ := List.exists_mem_of_ne_nil _ hne
  exact List.ne_nil_of_mem ((h.operands o).1 ho)

lemma wellFormed (h : f.Rearranges g) (hf : f.WellFormed schema) : g.WellFormed schema := by
  obtain ⟨s, hs, hne, hfits⟩ := hf
  refine ⟨s, h.name ▸ hs, h.operands_ne_nil hne, fun o ho => ?_⟩
  rw [← h.mode]
  exact hfits o ((h.operands o).2 ho)

/-- The bound filters hold of the same records. -/
lemma holds_eq (h : f.Rearranges g) {b c : BoundFilter} (hb : b.Binds schema f)
    (hc : c.Binds schema g) (record : Record) : b.holds record = c.holds record := by
  have hschema : c.schema = b.schema := by
    have hdeclared := hc.declared
    rw [← h.name, hb.declared] at hdeclared
    exact (Option.some.inj hdeclared).symm
  have hmem : ∀ o', o' ∈ b.filter.operands ↔ o' ∈ c.filter.operands := fun o' => by
    have hcoperands := hc.operands
    rw [hschema, ← h.mode] at hcoperands
    rw [mem_mapOk_iff (Operand.mapOk_bindOperand_eq_ok_iff.2 hb.operands),
      mem_mapOk_iff (Operand.mapOk_bindOperand_eq_ok_iff.2 hcoperands)]
    simp only [h.operands]
  have hall : ∀ p, b.filter.operands.all p = c.filter.operands.all p := fun p => by
    rw [Bool.eq_iff_iff, List.all_eq_true, List.all_eq_true]
    simp only [hmem]
  have hany : ∀ p, b.filter.operands.any p = c.filter.operands.any p := fun p => by
    rw [Bool.eq_iff_iff, List.any_eq_true, List.any_eq_true]
    simp only [hmem]
  have hname : b.filter.name = c.filter.name := hb.name.trans (h.name.trans hc.name.symm)
  have hmode : b.filter.mode = c.filter.mode := hb.mode.trans (h.mode.trans hc.mode.symm)
  have hflag : b.filter.all = c.filter.all := hb.all.trans (h.all.trans hc.all.symm)
  simp only [BoundFilter.holds, hname, hmode, hflag, hall, hany]

end Filter.Rearranges

namespace QueryClauses.Rearranges

variable {c d : QueryClauses} {q p : Query}

lemma symm (h : c.Rearranges d) : d.Rearranges c where
  forth g hg := by
    obtain ⟨f, hf, hfg⟩ := h.back g hg
    exact ⟨f, hf, hfg.symm⟩
  back f hf := by
    obtain ⟨g, hg, hfg⟩ := h.forth f hf
    exact ⟨g, hg, hfg.symm⟩
  sorts := h.sorts.symm

/-- Rearranged clauses build if the clauses do. -/
lemma exists_build (h : c.Rearranges d) (hq : c.build schema = .ok q) :
    ∃ p, d.build schema = .ok p := by
  obtain ⟨hfilters, hsorts⟩ := build_eq_ok hq
  have hwell : ∀ f ∈ c.filters, f.WellFormed schema :=
    faultless_bindFilter_iff.1 (exists_mapOk_eq_ok_iff.1 ⟨_, hfilters⟩)
  have hwell' : ∀ g ∈ d.filters, g.WellFormed schema := fun g hg => by
    obtain ⟨f, hf, hfg⟩ := h.back g hg
    exact hfg.wellFormed (hwell f hf)
  obtain ⟨filters, hfilters'⟩ := exists_mapOk_eq_ok_iff.2 (faultless_bindFilter_iff.2 hwell')
  exact ⟨⟨filters, q.sorts⟩, build_eq_ok_iff.2 ⟨hfilters', h.sorts ▸ hsorts⟩⟩

/-- What passes the filters passes them in any other arrangement. -/
lemma all_holds (h : c.Rearranges d) (hq : c.build schema = .ok q) (hp : d.build schema = .ok p)
    (hyes : q.filters.all (·.holds record) = true) : p.filters.all (·.holds record) = true := by
  rw [List.all_eq_true] at hyes ⊢
  intro b' hb'
  obtain ⟨g, hg, hbind'⟩ := exists_of_mem_mapOk (build_eq_ok hp).1 hb'
  obtain ⟨f, hf, hfg⟩ := h.back g hg
  obtain ⟨b, hb, hbind⟩ := exists_mem_of_mapOk (build_eq_ok hq).1 hf
  have hsame := hfg.holds_eq (((bindFilter_iff schema f).1 b).1 hbind)
    (((bindFilter_iff schema g).1 b').1 hbind') record
  rw [← hsame]
  exact hyes b hb

lemma accepts_eq (h : c.Rearranges d) (hq : c.build schema = .ok q) (hp : d.build schema = .ok p)
    (hr : schema.Admits record) : p.accepts record = q.accepts record := by
  rw [(wellBound_of_build hq).accepts_eq_ok hr, (wellBound_of_build hp).accepts_eq_ok hr,
    Except.ok.injEq, Bool.eq_iff_iff]
  exact ⟨h.symm.all_holds hp hq, h.all_holds hq hp⟩

end QueryClauses.Rearranges

/-! ### Missing attributes -/

/-- A record without the attribute of a filter is not accepted, whatever the other filters say. -/
lemma Query.accepts_ne_ok_true {q : Query} (hf : bound ∈ q.filters)
    (h : record.get? bound.filter.name = none) : q.accepts record ≠ .ok true := by
  intro htrue
  have hyes := accepts_eq_ok_true_iff.1 htrue bound hf
  rw [BoundFilter.accepts_of_none h] at hyes
  cases hyes

/-! ### The algebra -/

/-- **Filters are boolean operations.** A filter over all of its operands can be replaced, wherever
it stands, by the filters by one operand each: the whole builds alike, with the same error, and
answers alike on every record, errors included. On a record of the schema, a filter over some of
its operands accepts exactly if one of the filters by one operand does. Clauses that differ in the
order and number of filters and of their operands only build alike and accept the same records of
the schema. A record without the attribute of some filter is never accepted. -/
theorem filters_boolean_algebra (name : String) (mode : Mode) {operands : List Operand}
    (hne : operands ≠ []) (schema : RecordSchema) (flag : Bool) :
    (∀ before after sorts, SameOutcome Query.SameAnswers
      (QueryClauses.build ⟨before ++ [⟨name, operands, mode, true⟩] ++ after, sorts⟩ schema)
      (QueryClauses.build
        ⟨before ++ operands.map (fun o => ⟨name, [o], mode, flag⟩) ++ after, sorts⟩ schema)) ∧
    (∀ sorts q record,
      QueryClauses.build ⟨[⟨name, operands, mode, false⟩], sorts⟩ schema = .ok q →
      schema.validateRecord record = .ok () →
      (q.accepts record = .ok true ↔ ∃ o ∈ operands, ∃ p,
        QueryClauses.build ⟨[⟨name, [o], mode, flag⟩], sorts⟩ schema = .ok p ∧
          p.accepts record = .ok true)) ∧
    (∀ (c d : QueryClauses) (q : Query), c.Rearranges d → c.build schema = .ok q →
      ∃ p, d.build schema = .ok p ∧ ∀ record, schema.validateRecord record = .ok () →
        p.accepts record = q.accepts record) ∧
    ∀ (q : Query) (record : Record),
      (∃ bound ∈ q.filters, record.get? bound.filter.name = none) →
      q.accepts record ≠ .ok true := by
  refine ⟨fun before after sorts => ?_, fun sorts q record hq hr => ?_, fun c d q h hq => ?_, ?_⟩
  · exact (filtersAlike_singles (f := ⟨name, operands, mode, true⟩) rfl hne schema flag).build
      before after sorts
  · exact Query.accepts_iff_exists_single (f := ⟨name, operands, mode, false⟩) rfl hq flag
      (RecordSchema.validateRecord_eq_ok_iff.1 hr)
  · obtain ⟨p, hp⟩ := h.exists_build hq
    exact ⟨p, hp, fun record hr =>
      h.accepts_eq hq hp (RecordSchema.validateRecord_eq_ok_iff.1 hr)⟩
  · rintro q record ⟨bound, hf, h⟩
    exact Query.accepts_ne_ok_true hf h

namespace Sample

/-- The filters of the sample query with their operands in another order, some of them twice. -/
def largeCachesAgain : Filter :=
  { largeCaches with operands := [.literal (.int 2), .literal (.int 4), .literal (.int 2)] }

def namedAgain : Filter :=
  { named with operands := [.literal (.string "d"), .literal (.string "w")] }

def rearrangedClauses : QueryClauses :=
  ⟨[namedAgain, largeCachesAgain, named], [byPrice, byName]⟩

lemma largeCaches_rearranges : largeCaches.Rearranges largeCachesAgain :=
  ⟨rfl, rfl, rfl, fun o => by simp [largeCaches, largeCachesAgain, or_comm]⟩

lemma named_rearranges : named.Rearranges namedAgain :=
  ⟨rfl, rfl, rfl, fun o => by simp [named, namedAgain, or_comm]⟩

lemma clauses_rearranges : clauses.Rearranges rearrangedClauses where
  forth := by
    simp only [clauses, rearrangedClauses, List.forall_mem_cons]
    refine ⟨⟨_, ?_, largeCaches_rearranges⟩, ⟨_, ?_, named_rearranges⟩, by simp⟩ <;> simp
  back := by
    simp only [clauses, rearrangedClauses, List.forall_mem_cons]
    refine ⟨⟨_, ?_, named_rearranges⟩, ⟨_, ?_, largeCaches_rearranges⟩,
      ⟨_, ?_, .refl named⟩, by simp⟩ <;> simp
  sorts := rfl

/-- Asks for a cache above one of two sizes. -/
def someCache : Filter := { largeCaches with all := false }

end Sample

open Sample in
theorem filters_boolean_algebra_sample :
    largeCaches.operands ≠ [] ∧
    SameOutcome Query.SameAnswers (clauses.build serverSchema)
      (QueryClauses.build ⟨[largeCaches.single false (.literal (.int 4)),
        largeCaches.single false (.literal (.int 2)), named], [byPrice, byName]⟩ serverSchema) ∧
    serverSchema.validateRecord unpriced = .ok () ∧
    Query.accepts ⟨[⟨someCache, .list (.set .int)⟩], []⟩ unpriced = .ok true ∧
    (∃ p, rearrangedClauses.build serverSchema = .ok p ∧
      p.accepts unpriced = query.accepts unpriced) ∧
    query.accepts (.ofList [("name", .string "web")]) ≠ .ok true := by
  have hne : largeCaches.operands ≠ [] := by simp [largeCaches]
  have hr : serverSchema.validateRecord unpriced = .ok () := rfl
  obtain ⟨hall, hsome, hrearranged, hmissing⟩ :=
    filters_boolean_algebra "caches" .greaterThan hne serverSchema false
  refine ⟨hne, hall [] [named] [byPrice, byName], hr, ?_, ?_, ?_⟩
  · refine (hsome [] ⟨[⟨someCache, .list (.set .int)⟩], []⟩ unpriced rfl hr).2 ?_
    exact ⟨.literal (.int 2), by simp [largeCaches], _, rfl, rfl⟩
  · obtain ⟨p, hp, hsame⟩ := hrearranged clauses rearrangedClauses query clauses_rearranges rfl
    exact ⟨p, hp, hsame unpriced hr⟩
  · exact hmissing query _ ⟨⟨largeCaches, .list (.set .int)⟩, by simp [query], rfl⟩

end RecordQuery
