import RecordQuery.Proofs.Apply
import RecordQuery.Proofs.Binding

/-!
What is built runs: a query built against a schema, on records that the schema admits, never
meets a value or an operand of a wrong type, and has one way to fail, a NaN in an accepted record
under an attribute that it sorts by.
-/

namespace RecordQuery

open StableSort

variable {schema : RecordSchema} {records : List Record} {r : Record}

/-! ### Values to sort by -/

lemma checkOrderable_eq_error_iff {s : Schema} {v : Value} {e : EngineError}
    (hs : s.isOrderable = true) (hv : v.conforms s = true) :
    checkOrderable s v = .error e ↔
      e = .invalidInput .unordered ∧ ∃ x, v = .float x ∧ x.isNaN = true := by
  simp only [checkOrderable, hs, hv]
  cases v with
  | float x =>
    cases hx : x.isNaN with
    | false => simp [hx]
    | true => simpa [hx] using eq_comm
  | _ => simp

lemma checkOrderable_eq_ok_iff {s : Schema} {v : Value} (hs : s.isOrderable = true)
    (hv : v.conforms s = true) :
    checkOrderable s v = .ok () ↔ ¬∃ x, v = .float x ∧ x.isNaN = true := by
  simp only [checkOrderable, hs, hv]
  cases v with
  | float x => cases hx : x.isNaN <;> simp [hx]
  | _ => simp

/-- The record holds a NaN under an attribute that the query sorts by. -/
def Query.SortsNaN (q : Query) (r : Record) : Prop :=
  ∃ s ∈ q.sorts, ∃ x, r.get? s.key.name = some (.float x) ∧ x.isNaN = true

lemma BoundSort.WellBound.conforms {s : BoundSort} (h : s.WellBound schema)
    (hr : schema.Admits r) {v : Value} (hv : r.get? s.key.name = some v) :
    v.conforms s.schema = true := by
  obtain ⟨t, ht, hc⟩ := hr _ _ hv
  rw [h.declared] at ht
  cases ht
  exact hc

namespace Query

variable {q : Query}

lemma WellBound.sortable_iff (h : q.WellBound schema) (hr : schema.Admits r) :
    q.Sortable r ↔ ¬q.SortsNaN r := by
  constructor
  · rintro hsort ⟨s, hs, x, hx, hnan⟩
    have hc := (h.sorts s hs).conforms hr hx
    exact (checkOrderable_eq_ok_iff (h.sorts s hs).orderable hc).1 (hsort s hs _ hx) ⟨x, rfl, hnan⟩
  · intro hno s hs v hv
    have hc := (h.sorts s hs).conforms hr hv
    refine (checkOrderable_eq_ok_iff (h.sorts s hs).orderable hc).2 ?_
    rintro ⟨x, rfl, hnan⟩
    exact hno ⟨s, hs, x, hv, hnan⟩

lemma WellBound.valueFault {e : EngineError} (h : q.WellBound schema) (hr : schema.Admits r)
    (hf : q.ValueFault r e) : e = .invalidInput .unordered ∧ q.SortsNaN r := by
  obtain ⟨hsorts, -, hv, he⟩ := hf
  have hs := hsorts ▸ List.mem_append_right _ List.mem_cons_self
  have hc := (h.sorts _ hs).conforms hr hv
  obtain ⟨rfl, x, rfl, hnan⟩ := (checkOrderable_eq_error_iff (h.sorts _ hs).orderable hc).1 he
  exact ⟨rfl, _, hs, x, hv, hnan⟩

/-! ### Running -/

lemma WellBound.faultless (h : q.WellBound schema) (hr : ∀ r ∈ records, schema.Admits r) :
    Faultless q.accepts records :=
  fun r hmem => ⟨_, h.accepts_eq_ok (hr r hmem)⟩

lemma WellBound.accepted_eq (h : q.WellBound schema) (hr : ∀ r ∈ records, schema.Admits r) :
    q.accepted records = records.filter fun r => q.filters.all (·.holds r) :=
  List.filter_congr fun r hmem => passes_of_ok (h.accepts_eq_ok (hr r hmem))

lemma mem_accepted : r ∈ q.accepted records ↔ r ∈ records ∧ q.accepts r = .ok true := by
  rw [accepted, List.mem_filter, passes_eq_true_iff]

lemma WellBound.apply_eq_ok_iff (h : q.WellBound schema) (hr : ∀ r ∈ records, schema.Admits r)
    {out : List Record} :
    q.apply records = .ok out ↔ (∀ r ∈ q.accepted records, ¬q.SortsNaN r) ∧
      sorted (compareRecords q.sorts) (q.accepted records) = out := by
  rw [Query.apply_eq_ok_iff]
  have hsort : ∀ r ∈ q.accepted records, (q.Sortable r ↔ ¬q.SortsNaN r) := fun r hmem =>
    h.sortable_iff (hr r (mem_accepted.1 hmem).1)
  constructor
  · rintro ⟨-, hs, ho⟩
    exact ⟨fun r hmem => (hsort r hmem).1 (hs r hmem), ho⟩
  · rintro ⟨hs, ho⟩
    exact ⟨h.faultless hr, fun r hmem => (hsort r hmem).2 (hs r hmem), ho⟩

lemma WellBound.apply_eq_error_iff (h : q.WellBound schema)
    (hr : ∀ r ∈ records, schema.Admits r) {e : QueryError} :
    q.apply records = .error e ↔
      e = .engine (.invalidInput .unordered) ∧ ∃ r ∈ q.accepted records, q.SortsNaN r := by
  -- whatever fault there is has this shape; so if there is one, this is it
  have hshape : ∀ e, q.apply records = .error e →
      e = .engine (.invalidInput .unordered) ∧ ∃ r ∈ q.accepted records, q.SortsNaN r := by
    intro e he
    rcases Query.apply_eq_error_iff.1 he with first | ⟨-, split, -, first⟩
    · exact absurd first ((h.faultless hr).not_firstFault e)
    · have hmem := split ▸ List.mem_append_right _ List.mem_cons_self
      obtain ⟨rfl, hnan⟩ := h.valueFault (hr _ (mem_accepted.1 hmem).1) first
      exact ⟨rfl, _, hmem, hnan⟩
  refine ⟨hshape e, ?_⟩
  rintro ⟨rfl, r, hmem, hnan⟩
  cases hrun : q.apply records with
  | ok out => exact absurd hnan (((h.apply_eq_ok_iff hr).1 hrun).1 r hmem)
  | error e => rw [(hshape e hrun).1]

end Query

/-- **What is built runs.** On records that the schema admits, a query built against it answers
for every record, and applying it fails in one way only, exactly when some accepted record holds
a NaN under an attribute that it sorts by. -/
theorem build_runs {schema : RecordSchema} {clauses : QueryClauses} {q : Query}
    {records : List Record} (hq : clauses.build schema = .ok q)
    (hr : ∀ r ∈ records, schema.validateRecord r = .ok ()) :
    (∀ r ∈ records, ∃ b, q.accepts r = .ok b) ∧
    ((∃ out, q.apply records = .ok out) ↔
      ¬∃ r ∈ records, q.accepts r = .ok true ∧ q.SortsNaN r) ∧
    ∀ e, q.apply records = .error e ↔ e = .engine (.invalidInput .unordered) ∧
      ∃ r ∈ records, q.accepts r = .ok true ∧ q.SortsNaN r := by
  have h := QueryClauses.wellBound_of_build hq
  have hadmits : ∀ r ∈ records, schema.Admits r := fun r hmem =>
    RecordSchema.validateRecord_eq_ok_iff.1 (hr r hmem)
  have hnan : (∃ r ∈ q.accepted records, q.SortsNaN r) ↔
      ∃ r ∈ records, q.accepts r = .ok true ∧ q.SortsNaN r := by
    simp only [Query.mem_accepted, and_assoc]
  have herror : ∀ e, q.apply records = .error e ↔ e = .engine (.invalidInput .unordered) ∧
      ∃ r ∈ records, q.accepts r = .ok true ∧ q.SortsNaN r := fun e => by
    rw [h.apply_eq_error_iff hadmits, hnan]
  refine ⟨h.faultless hadmits, ?_, herror⟩
  cases hrun : q.apply records with
  | ok out =>
    refine iff_of_true ⟨out, rfl⟩ fun hsome => ?_
    have hfail := (herror _).2 ⟨rfl, hsome⟩
    rw [hrun] at hfail
    cases hfail
  | error e => exact iff_of_false (by simp) (not_not_intro ((herror e).1 hrun).2)

/-! ### A sample -/

namespace Sample

/-- Servers, with the sizes of the caches on each of their boards. -/
def serverSchema : RecordSchema :=
  .ofList [("caches", .list (.set .int)), ("name", .string), ("price", .float)]

def largeCaches : Filter := ⟨"caches", [.literal (.int 4), .literal (.int 2)], .greaterThan, true⟩

def named : Filter := ⟨"name", [.literal (.string "w"), .literal (.string "d")], .substring, false⟩

def byPrice : SortKey := ⟨"price", .desc⟩

def byName : SortKey := ⟨"name", .asc⟩

def clauses : QueryClauses := ⟨[largeCaches, named], [byPrice, byName]⟩

def query : Query where
  filters := [⟨largeCaches, .list (.set .int)⟩, ⟨named, .string⟩]
  sorts := [⟨byPrice, .float⟩, ⟨byName, .string⟩]

/-- A server of some name and price, with no cache on its first board. -/
def server (name : String) (price : Binary64) : Record :=
  .ofList [("caches", .list [.set [], .set [.int 1, .int 8]]), ("name", .string name),
    ("price", .float price)]

lemma get?_name_server (name : String) (price : Binary64) :
    (server name price).get? "name" = some (.string name) := by
  simp [server, NameMap.ofList, NameMap.get?_insert]

lemma get?_price_server (name : String) (price : Binary64) :
    (server name price).get? "price" = some (.float price) := by
  simp [server, NameMap.ofList, NameMap.get?_insert]

/-- A server without a price. -/
def unpriced : Record := .ofList [("caches", .list [.set [.int 8]]), ("name", .string "web")]

end Sample

open Sample in
theorem build_runs_sample :
    clauses.build serverSchema = .ok query ∧
    (∀ r ∈ [unpriced, server "db" .nan], serverSchema.validateRecord r = .ok ()) ∧
    query.apply [unpriced, server "db" .nan] = .error (.engine (.invalidInput .unordered)) := by
  have hr : ∀ r ∈ [unpriced, server "db" .nan], serverSchema.validateRecord r = .ok () := by
    simp only [List.forall_mem_cons, List.not_mem_nil, false_implies, implies_true, and_true]
    exact ⟨rfl, rfl⟩
  have hq : clauses.build serverSchema = .ok query := rfl
  refine ⟨hq, hr, ((build_runs hq hr).2.2 _).2 ⟨rfl, server "db" .nan, by simp, rfl, ?_⟩⟩
  exact ⟨⟨byPrice, .float⟩, by simp [query], .nan, rfl, by decide⟩

end RecordQuery
