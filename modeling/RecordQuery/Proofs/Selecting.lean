import RecordQuery.Proofs.Compiling
import RecordQuery.Proofs.Declarations
import RecordQuery.Proofs.Runs

/-!
Selecting by a document, from a dataset that any commands have made.

The document is completed by the declarations of the dataset, and the query that is then compiled
is one for a schema that admits all records of the dataset. So it can fail on a NaN to sort by
only, and an attribute that the document declares on its own is one that no record has: a filter
on it selects nothing, and a sort by it moves nothing.
-/

namespace RecordQuery

open StableSort

variable {schema : RecordSchema} {records : List Record} {q : Query}

/-! ### Attributes that no record has -/

lemma RecordSchema.Admits.get?_eq_none {r : Record} (h : schema.Admits r) {name : String}
    (hnone : schema.get? name = none) : r.get? name = none := by
  cases hv : r.get? name with
  | none => rfl
  | some v =>
    obtain ⟨s, hs, -⟩ := h name v hv
    rw [hnone] at hs
    cases hs

namespace Query

/-- A filter on an attribute that no record has accepts nothing. -/
lemma WellBound.apply_eq_nil (h : q.WellBound schema) (hr : ∀ r ∈ records, schema.Admits r)
    {bound : BoundFilter} (hmem : bound ∈ q.filters)
    (habsent : ∀ r ∈ records, r.get? bound.filter.name = none) : q.apply records = .ok [] := by
  have hnone : q.accepted records = [] := by
    rw [h.accepted_eq hr, List.filter_eq_nil_iff]
    intro r hin hall
    have hholds := List.all_eq_true.1 hall bound hmem
    simp [BoundFilter.holds, habsent r hin] at hholds
  refine (h.apply_eq_ok_iff hr).2 ⟨by simp [hnone], ?_⟩
  rw [hnone]
  exact sorted_of_rising _ .nil

/-- A sort by an attribute that no record has moves nothing. -/
lemma WellBound.apply_without_sort {q' : Query} {before after : List BoundSort} {s : BoundSort}
    (h : q.WellBound schema) (hr : ∀ r ∈ records, schema.Admits r)
    (hsorts : q.sorts = before ++ s :: after) (hfilters : q'.filters = q.filters)
    (hsorts' : q'.sorts = before ++ after) (habsent : ∀ r ∈ records, r.get? s.key.name = none) :
    q'.apply records = q.apply records := by
  have h' : q'.WellBound schema := by
    refine ⟨hfilters ▸ h.filters, fun t ht => h.sorts t ?_⟩
    rw [hsorts'] at ht
    rw [hsorts]
    exact List.mem_append.2 ((List.mem_append.1 ht).imp_right (List.mem_cons_of_mem s))
  have haccepted : q'.accepted records = q.accepted records := by
    have haccepts : q'.accepts = q.accepts := funext fun r => by rw [accepts, accepts, hfilters]
    rw [accepted, accepted, haccepts]
  have hmem : ∀ r ∈ q.accepted records, r ∈ records := fun r hr => (mem_accepted.1 hr).1
  have hnan : ∀ r ∈ q.accepted records, q'.SortsNaN r ↔ q.SortsNaN r := by
    intro r hin
    simp [SortsNaN, hsorts, hsorts', habsent r (hmem r hin), or_and_right, exists_or]
  by_cases hfail : ∃ r ∈ q.accepted records, q.SortsNaN r
  · obtain ⟨r, hin, hsort⟩ := hfail
    rw [(h.apply_eq_error_iff hr).2 ⟨rfl, r, hin, hsort⟩]
    exact (h'.apply_eq_error_iff hr).2 ⟨rfl, r, haccepted ▸ hin, (hnan r hin).2 hsort⟩
  · have hnone : ∀ r ∈ q.accepted records, ¬q.SortsNaN r := fun r hin hsort =>
      hfail ⟨r, hin, hsort⟩
    rw [(h.apply_eq_ok_iff hr).2 ⟨hnone, rfl⟩]
    refine (h'.apply_eq_ok_iff hr).2 ?_
    rw [haccepted, hsorts, hsorts']
    refine ⟨fun r hin => mt (hnan r hin).1 (hnone r hin), sorted_congr _ fun a ha b hb => ?_⟩
    have htie : s.compareRecords a b = .eq := BoundSort.compareRecords_eq_eq_iff.2
      (.absent (habsent a (hmem a ha)) (habsent b (hmem b hb)))
    simp [compareRecords_append, compareRecords_cons, compareLex, htie]

end Query

/-! ### Documents -/

namespace QueryDocument

variable {c : QueryDocument}

lemma wellBound_of_compile (h : c.compile = .ok q) : q.WellBound c.schema := by
  obtain ⟨filters, -, hbuild⟩ := compile_eq_ok_iff.1 h
  exact QueryClauses.wellBound_of_build hbuild

lemma exists_filter_of_compile (h : c.compile = .ok q) {f : RawFilter} (hf : f ∈ c.filters) :
    ∃ bound ∈ q.filters, bound.filter.name = f.name := by
  obtain ⟨bound, hmem, hbind⟩ := exists_mem_of_mapOk (compile_eq_ok_iff_bind.1 h).1 hf
  obtain ⟨g, hg⟩ := exists_decodesTo (decodable_of_bindDecoded hbind)
  rw [bindDecoded_of_decodesTo hg, (QueryClauses.bindFilter_iff _ _).1] at hbind
  cases hg with
  | mk => exact ⟨bound, hmem, hbind.name⟩

/-- The query of a document with one sort less is the query with one sort less. -/
lemma compile_without_sort {before after : List SortKey} {key : SortKey}
    (h : c.compile = .ok q) (hsorts : c.sorts = before ++ key :: after) :
    ∃ b s a, q.sorts = b ++ s :: a ∧ s.key = key ∧
      ({ c with sorts := before ++ after } : QueryDocument).compile = .ok ⟨q.filters, b ++ a⟩ := by
  obtain ⟨hf, hs⟩ := compile_eq_ok_iff_bind.1 h
  rw [hsorts, mapOk_append_eq_ok_iff] at hs
  obtain ⟨b, rest, hb, hrest, hq⟩ := hs
  obtain ⟨s, a, hkey, ha, rfl⟩ := List.forall₂_cons_left_iff.1 (mapOk_eq_ok_iff.1 hrest)
  refine ⟨b, s, a, hq, (((QueryClauses.bindSort_iff _ key).1 s).1 hkey).key, ?_⟩
  exact compile_eq_ok_iff_bind.2
    ⟨hf, mapOk_append_eq_ok_iff.2 ⟨b, a, hb, mapOk_eq_ok_iff.2 ha, rfl⟩⟩

end QueryDocument

namespace Dataset

variable {d : Dataset} {c : QueryDocument} {both : RecordSchema}

lemma selectToml_eq {text : String} (h : QueryDocument.parseToml text = .ok c) :
    d.selectToml text = d.selectDocument c := by
  -- the equation of the definition would have the parser unfolded
  delta selectToml
  rw [h]

lemma selectDocument_of_firstClash {name : String} {s t : Schema}
    (h : c.schema.FirstClash d.schema name s t) :
    d.selectDocument c = .error (.conflict name s t) := by
  simp only [selectDocument, ((addDeclarations_iff _ _).2 _).2 ⟨name, s, t, h, rfl⟩]

/-- A document is compiled under the union of its declarations and those of the dataset. -/
lemma selectDocument_eq (ha : c.schema.Agrees d.schema) (hu : c.schema.IsUnion d.schema both) :
    d.selectDocument c =
      match ({ c with schema := both } : QueryDocument).compile with
      | .error e => .error (.query e)
      | .ok q => d.select q := by
  have hadd := ((addDeclarations_iff _ _).1 both).2 ⟨ha, hu⟩
  cases hq : ({ c with schema := both } : QueryDocument).compile <;>
    simp only [selectDocument, hadd, hq]

lemma exists_isUnion (ha : c.schema.Agrees d.schema) : ∃ both, c.schema.IsUnion d.schema both := by
  cases hadd : addDeclarations c.schema d.schema.entries with
  | ok both => exact ⟨both, (((addDeclarations_iff _ _).1 both).1 hadd).2⟩
  | error e =>
    obtain ⟨name, s, t, hfirst, -⟩ := ((addDeclarations_iff _ _).2 e).1 hadd
    exact absurd hfirst.clash (ha name s t)

/-- Redundant declarations make no difference. -/
lemma selectDocument_congr {c' : QueryDocument} (ha : c.schema.Agrees d.schema)
    (hf : c'.filters = c.filters) (hs : c'.sorts = c.sorts)
    (hd : RecordSchema.DifferWithin d.schema c.schema c'.schema) :
    d.selectDocument c' = d.selectDocument c := by
  obtain ⟨both, hu⟩ := exists_isUnion ha
  have hsame : ({ c' with schema := both } : QueryDocument) = { c with schema := both } := by
    rw [hf, hs]
  rw [selectDocument_eq (hd.agrees ha) (hd.isUnion hu), selectDocument_eq ha hu, hsame]

lemma select_eq_error_iff {e : DatasetError} :
    d.select q = .error e ↔ ∃ fault, q.apply d.records = .error fault ∧ e = .query fault := by
  rw [select]
  cases q.apply d.records <;> simp [liftQuery, eq_comm]

lemma admits_union (hr : ∀ r ∈ d.records, d.schema.Admits r) (ha : c.schema.Agrees d.schema)
    (hu : c.schema.IsUnion d.schema both) : ∀ r ∈ d.records, both.Admits r := by
  intro r hmem name v hv
  obtain ⟨t, ht, hc⟩ := hr r hmem name v hv
  exact ⟨t, hu.get?_right ha ht, hc⟩

section Compiled

variable (hr : ∀ r ∈ d.records, d.schema.Admits r) (ha : c.schema.Agrees d.schema)
  (hu : c.schema.IsUnion d.schema both)
  (hq : ({ c with schema := both } : QueryDocument).compile = .ok q)
include ha hu hq

lemma selectDocument_eq_select : d.selectDocument c = d.select q := by
  rw [selectDocument_eq ha hu, hq]

include hr

/-- Clauses that compile fail on a NaN to sort by only. -/
lemma selectDocument_eq_error_iff {e : DatasetError} :
    d.selectDocument c = .error e ↔ e = .query (.engine (.invalidInput .unordered)) ∧
      ∃ r ∈ d.records, q.accepts r = .ok true ∧ q.SortsNaN r := by
  have hwell := QueryDocument.wellBound_of_compile hq
  rw [selectDocument_eq_select ha hu hq, select_eq_error_iff]
  simp only [hwell.apply_eq_error_iff (admits_union hr ha hu), Query.mem_accepted]
  constructor
  · rintro ⟨_, ⟨rfl, r, ⟨hmem, haccepts⟩, hnan⟩, rfl⟩
    exact ⟨rfl, r, hmem, haccepts, hnan⟩
  · rintro ⟨rfl, r, hmem, haccepts, hnan⟩
    exact ⟨_, ⟨rfl, r, ⟨hmem, haccepts⟩, hnan⟩, rfl⟩

/-- A filter on an attribute that the dataset does not declare selects nothing. -/
lemma selectDocument_eq_nil {f : RawFilter} (hf : f ∈ c.filters)
    (hnone : d.schema.get? f.name = none) : d.selectDocument c = .ok [] := by
  obtain ⟨bound, hmem, hname⟩ := QueryDocument.exists_filter_of_compile hq hf
  have habsent : ∀ r ∈ d.records, r.get? bound.filter.name = none := fun r hin =>
    hname ▸ (hr r hin).get?_eq_none hnone
  have hwell := QueryDocument.wellBound_of_compile hq
  rw [selectDocument_eq_select ha hu hq, select,
    hwell.apply_eq_nil (admits_union hr ha hu) hmem habsent, liftQuery]

/-- A sort by an attribute that the dataset does not declare can be left out. -/
lemma selectDocument_without_sort {before after : List SortKey} {key : SortKey}
    (hsorts : c.sorts = before ++ key :: after) (hnone : d.schema.get? key.name = none) :
    d.selectDocument { c with sorts := before ++ after } = d.selectDocument c := by
  obtain ⟨b, s, a, hqs, rfl, hshort⟩ := QueryDocument.compile_without_sort hq hsorts
  have habsent : ∀ r ∈ d.records, r.get? s.key.name = none := fun r hin =>
    (hr r hin).get?_eq_none hnone
  have hsame : (⟨q.filters, b ++ a⟩ : Query).apply d.records = q.apply d.records :=
    (QueryDocument.wellBound_of_compile hq).apply_without_sort (admits_union hr ha hu) hqs rfl rfl
      habsent
  calc d.selectDocument { c with sorts := before ++ after }
      = d.select ⟨q.filters, b ++ a⟩ :=
        selectDocument_eq_select (c := { c with sorts := before ++ after }) ha hu hshort
    _ = d.select q := by rw [select, select, hsame]
    _ = d.selectDocument c := (selectDocument_eq_select ha hu hq).symm

end Compiled

end Dataset

open Command in
/-- **Selecting by a document.** On the dataset that commands have made, a document that declares
an attribute otherwise than the dataset fails, with the first such attribute, whatever its clauses
are. A document that agrees with the dataset selects the same whichever of the declarations that
the two have in common it leaves out. It is compiled under the union of the declarations, and once
it compiles it fails on a NaN to sort by in an accepted record only; by a filter on an attribute
that the dataset does not declare it selects nothing, and a sort by one can be left out. -/
theorem selectToml_with_declarations (schema : RecordSchema) (commands : List Command) :
    (∀ text c, QueryDocument.parseToml text = .ok c →
      (run schema commands).selectToml text = (run schema commands).selectDocument c) ∧
    (∀ c : QueryDocument, ¬c.schema.Agrees schema →
      ∃ name s t, c.schema.FirstClash schema name s t ∧
        (run schema commands).selectDocument c = .error (.conflict name s t)) ∧
    ∀ c : QueryDocument, c.schema.Agrees schema →
      (∀ c' : QueryDocument, c'.filters = c.filters → c'.sorts = c.sorts →
        RecordSchema.DifferWithin schema c.schema c'.schema →
        (run schema commands).selectDocument c' = (run schema commands).selectDocument c) ∧
      ∃ both, c.schema.IsUnion schema both ∧
        (∀ e, ({ c with schema := both } : QueryDocument).compile = .error e →
          (run schema commands).selectDocument c = .error (.query e)) ∧
        ∀ q, ({ c with schema := both } : QueryDocument).compile = .ok q →
          (∀ e, (run schema commands).selectDocument c = .error e ↔
            e = .query (.engine (.invalidInput .unordered)) ∧
              ∃ r ∈ (run schema commands).records, q.accepts r = .ok true ∧ q.SortsNaN r) ∧
          ((∃ f ∈ c.filters, schema.get? f.name = none) →
            (run schema commands).selectDocument c = .ok []) ∧
          ∀ before key after, c.sorts = before ++ key :: after → schema.get? key.name = none →
            (run schema commands).selectDocument { c with sorts := before ++ after } =
              (run schema commands).selectDocument c := by
  have hadmits : ∀ r ∈ (run schema commands).records, schema.Admits r := fun _ => run_admits
  have hschema := run_schema schema commands
  generalize run schema commands = d at hadmits hschema ⊢
  subst hschema
  refine ⟨fun text c hc => ?_, fun c hno => ?_, fun c ha => ?_⟩
  · exact Dataset.selectToml_eq hc
  · obtain ⟨name, s, t, hfirst⟩ :=
      (Dataset.agrees_or_exists_firstClash c.schema d.schema).resolve_left hno
    exact ⟨name, s, t, hfirst, Dataset.selectDocument_of_firstClash hfirst⟩
  · obtain ⟨both, hu⟩ := Dataset.exists_isUnion ha
    refine ⟨fun c' hf hs hd => Dataset.selectDocument_congr ha hf hs hd, both, hu, fun e he => ?_,
      fun q hq => ⟨fun e => ?_, ?_, fun before key after hsorts hnone => ?_⟩⟩
    · rw [Dataset.selectDocument_eq ha hu, he]
    · exact Dataset.selectDocument_eq_error_iff hadmits ha hu hq
    · rintro ⟨f, hf, hnone⟩
      exact Dataset.selectDocument_eq_nil hadmits ha hu hq hf hnone
    · exact Dataset.selectDocument_without_sort hadmits ha hu hq hsorts hnone

end RecordQuery
