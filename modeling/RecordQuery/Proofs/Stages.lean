import RecordQuery.Proofs.Soundness

/-!
Running the clauses of a query one after another, each as a query of its own.

A filter alone filters and a sort alone sorts stably, so the stages can be gathered: filters move
past sorts, and sorts pile up into one by all of them, the last one first. With the sorts run from
the least significant on, that is the query.
-/

namespace RecordQuery

open StableSort

/-- One clause. -/
inductive Stage where
  | filter (filter : Filter)
  | sort (key : SortKey)

namespace Stage

/-- The clause alone. -/
def clauses : Stage → QueryClauses
  | filter f => ⟨[f], []⟩
  | sort key => ⟨[], [key]⟩

def filter? : Stage → Option Filter
  | filter f => some f
  | sort _ => none

def sort? : Stage → Option SortKey
  | filter _ => none
  | sort key => some key

/-- Builds the clause as a query and applies it. -/
def run (schema : RecordSchema) (stage : Stage) (records : List Record) :
    Except QueryError (List Record) :=
  match stage.clauses.build schema with
  | .error e => .error e
  | .ok q => q.apply records

/-- Runs stages one after another, each on what the one before it gives. -/
def runAll (schema : RecordSchema) : List Stage → List Record → Except QueryError (List Record)
  | [], records => .ok records
  | stage :: rest, records =>
    match stage.run schema records with
    | .error e => .error e
    | .ok out => runAll schema rest out

end Stage

/-! ### Sorts in a row -/

lemma compareRecords_singleton (s : BoundSort) : compareRecords [s] = s.compareRecords := by
  funext a b
  exact Ordering.then_eq

/-- A sort under sorts that come after it counts least. -/
lemma sorted_reverse_cons (s : BoundSort) (sorts : List BoundSort) (l : List Record) :
    sorted (compareRecords (s :: sorts).reverse) l =
      sorted (compareRecords sorts.reverse) (sorted s.compareRecords l) := by
  rw [List.reverse_cons, compareRecords_append, compareRecords_singleton, sorted_sorted]

/-! ### One stage -/

variable {schema : RecordSchema} {records : List Record}

lemma Stage.run_filter {f : Filter} {bound : BoundFilter}
    (hf : QueryClauses.bindFilter schema f = .ok bound) (hr : ∀ r ∈ records, schema.Admits r) :
    (filter f).run schema records = .ok (records.filter bound.holds) := by
  have hbuild : (filter f).clauses.build schema = .ok ⟨[bound], []⟩ := by
    simp [clauses, QueryClauses.build, mapOk, hf]
  have h := QueryClauses.wellBound_of_build hbuild
  have hsorts : ∀ r, ¬(⟨[bound], []⟩ : Query).SortsNaN r := by simp [Query.SortsNaN]
  rw [run, hbuild]
  refine (h.apply_eq_ok_iff hr).2 ⟨fun r _ => hsorts r, ?_⟩
  rw [Query.sorted_compareRecords_nil, h.accepted_eq hr]
  simp

lemma Stage.run_sort {key : SortKey} {bound : BoundSort}
    (hs : QueryClauses.bindSort schema key = .ok bound) (hr : ∀ r ∈ records, schema.Admits r)
    (hn : ∀ r ∈ records, ¬(⟨[], [bound]⟩ : Query).SortsNaN r) :
    (sort key).run schema records = .ok (sorted bound.compareRecords records) := by
  have hbuild : (sort key).clauses.build schema = .ok ⟨[], [bound]⟩ := by
    simp [clauses, QueryClauses.build, mapOk, hs]
  have h := QueryClauses.wellBound_of_build hbuild
  have hall : (⟨[], [bound]⟩ : Query).accepted records = records := by
    rw [h.accepted_eq hr]
    simp
  rw [run, hbuild]
  refine (h.apply_eq_ok_iff hr).2 ⟨fun r hmem => hn r (hall ▸ hmem), ?_⟩
  rw [hall, compareRecords_singleton]

/-! ### All stages -/

/-- **Stages gather.** Stages whose filters and sorts bind to `filters` and `sorts` filter by all
of them and sort once, the last sort counting most. -/
lemma Stage.runAll_eq_ok {stages : List Stage} {filters : List BoundFilter}
    {sorts : List BoundSort}
    (hf : mapOk (QueryClauses.bindFilter schema) (stages.filterMap filter?) = .ok filters)
    (hs : mapOk (QueryClauses.bindSort schema) (stages.filterMap sort?) = .ok sorts)
    (hr : ∀ r ∈ records, schema.Admits r)
    (hn : ∀ r ∈ records, ¬(⟨filters, sorts⟩ : Query).SortsNaN r) :
    runAll schema stages records = .ok (sorted (compareRecords sorts.reverse)
      (records.filter fun r => filters.all (·.holds r))) := by
  induction stages generalizing filters sorts records with
  | nil =>
    cases hf
    cases hs
    simp [runAll, Query.sorted_compareRecords_nil]
  | cons stage stages ih =>
    cases stage with
    | filter f =>
      obtain ⟨bound, filters, hbind, hrest, rfl⟩ :=
        List.forall₂_cons_left_iff.1 (mapOk_eq_ok_iff.1 hf)
      have hmem : ∀ r ∈ records.filter bound.holds, r ∈ records := fun r h =>
        (List.mem_filter.1 h).1
      rw [runAll, run_filter hbind hr]
      simp only
      rw [ih (mapOk_eq_ok_iff.2 hrest) hs (fun r h => hr r (hmem r h)) fun r h => hn r (hmem r h),
        List.filter_filter]
      simp only [List.all_cons, Bool.and_comm]
    | sort key =>
      obtain ⟨bound, sorts, hbind, hrest, rfl⟩ :=
        List.forall₂_cons_left_iff.1 (mapOk_eq_ok_iff.1 hs)
      have hhead : ∀ r ∈ records, ¬(⟨[], [bound]⟩ : Query).SortsNaN r := by
        rintro r h ⟨s, hmem, x⟩
        exact hn r h ⟨s, List.mem_cons.2 (.inl (List.mem_singleton.1 hmem)), x⟩
      have htail : ∀ r ∈ records, ¬(⟨filters, sorts⟩ : Query).SortsNaN r := by
        rintro r h ⟨s, hmem, x⟩
        exact hn r h ⟨s, List.mem_cons_of_mem _ hmem, x⟩
      rw [runAll, run_sort hbind hr hhead]
      simp only
      rw [ih hf (mapOk_eq_ok_iff.2 hrest) (fun r h => hr r ((mem_sorted _).1 h)) fun r h =>
        htail r ((mem_sorted _).1 h), filter_sorted, ← sorted_reverse_cons]

/-- Members in another order have their answers in another order. -/
lemma exists_perm_of_mapOk {ε α β : Type} {f : α → Except ε β} {l l' : List α} {m : List β}
    (h : mapOk f l = .ok m) (hp : l'.Perm l) : ∃ m', mapOk f l' = .ok m' ∧ m'.Perm m := by
  obtain ⟨m', hm, hperm⟩ := List.perm_comp_forall₂ hp (mapOk_eq_ok_iff.1 h)
  exact ⟨m', mapOk_eq_ok_iff.2 hm, hperm⟩

/-- **A query can be run in stages.** On records that the schema admits, without a NaN to sort by,
the filters of a query in any order and its sorts from the last to the first, each built and run
alone and in any interleaving, give what the query gives. -/
theorem runAll_eq_apply {schema : RecordSchema} {clauses : QueryClauses} {q : Query}
    {records : List Record} {stages : List Stage} (hq : clauses.build schema = .ok q)
    (hr : ∀ r ∈ records, schema.validateRecord r = .ok ())
    (hn : ∀ r ∈ records, ¬q.SortsNaN r)
    (hf : (stages.filterMap Stage.filter?).Perm clauses.filters)
    (hs : stages.filterMap Stage.sort? = clauses.sorts.reverse) :
    ∃ out, q.apply records = .ok out ∧ Stage.runAll schema stages records = .ok out := by
  have h := QueryClauses.wellBound_of_build hq
  have hadmits : ∀ r ∈ records, schema.Admits r := fun r hmem =>
    RecordSchema.validateRecord_eq_ok_iff.1 (hr r hmem)
  obtain ⟨hfilters, hsorts⟩ := QueryClauses.build_eq_ok hq
  obtain ⟨filters, hf', hperm⟩ := exists_perm_of_mapOk hfilters hf
  have hs' : mapOk (QueryClauses.bindSort schema) (stages.filterMap Stage.sort?) =
      .ok q.sorts.reverse := by
    rw [hs, mapOk_eq_ok_iff, List.forall₂_reverse_iff]
    exact mapOk_eq_ok_iff.1 hsorts
  have hn' : ∀ r ∈ records, ¬(⟨filters, q.sorts.reverse⟩ : Query).SortsNaN r := by
    rintro r hmem ⟨s, hs, x⟩
    exact hn r hmem ⟨s, List.mem_reverse.1 hs, x⟩
  refine ⟨_, (h.apply_eq_ok_iff hadmits).2 ⟨fun r hmem => ?_, rfl⟩, ?_⟩
  · exact hn r (Query.mem_accepted.1 hmem).1
  · rw [Stage.runAll_eq_ok hf' hs' hadmits hn', List.reverse_reverse, h.accepted_eq hadmits]
    simp only [hperm.all_eq]

namespace Sample

def one : Binary64 := ⟨0x3ff0000000000000⟩

/-- The clauses of the sample query: sorts from the last to the first, filters in between. -/
def stages : List Stage :=
  [.sort byName, .filter named, .sort byPrice, .filter largeCaches]

end Sample

open Sample in
theorem runAll_eq_apply_sample :
    clauses.build serverSchema = .ok query ∧
    (∀ r ∈ [server "web" one, unpriced, server "db" one],
      serverSchema.validateRecord r = .ok () ∧ ¬query.SortsNaN r) ∧
    ∃ out, query.apply [server "web" one, unpriced, server "db" one] = .ok out ∧
      Stage.runAll serverSchema stages [server "web" one, unpriced, server "db" one] = .ok out := by
  have hserver : ∀ name, ¬query.SortsNaN (server name one) := by
    rintro name ⟨s, hs, x, hx, hnan⟩
    rcases List.mem_pair.1 hs with rfl | rfl <;>
      simp [server, byPrice, byName, NameMap.ofList, NameMap.get?_insert] at hx
    subst hx
    exact absurd hnan (by decide)
  have hunpriced : ¬query.SortsNaN unpriced := by
    rintro ⟨s, hs, x, hx, -⟩
    rcases List.mem_pair.1 hs with rfl | rfl <;> cases hx
  have hr : ∀ r ∈ [server "web" one, unpriced, server "db" one],
      serverSchema.validateRecord r = .ok () ∧ ¬query.SortsNaN r := by
    simp only [List.forall_mem_cons, List.not_mem_nil, false_implies, implies_true, and_true]
    exact ⟨⟨rfl, hserver _⟩, ⟨rfl, hunpriced⟩, rfl, hserver _⟩
  have hq : clauses.build serverSchema = .ok query := rfl
  exact ⟨hq, hr, runAll_eq_apply hq (fun r h => (hr r h).1) (fun r h => (hr r h).2)
    (List.Perm.swap _ _ _) rfl⟩

end RecordQuery
