import RecordQuery.Proofs.CanonicalTrees
import RecordQuery.QueryDocument

/-!
Documents are read back as they were written, and what has been written from a document that was
read is written the same again.

Every reader gives back what its writer wrote, in every kind of document. Readers also commute with
canonical forms: what is read from a tree is read in its canonical form from the canonical tree.
So a document may be written with its fields in any order, and the only thing that can change on
the way is the order of fields inside raw operands, which decoding does not look at.
-/

namespace RecordQuery

open Json (Convention)

variable {α : Type} {convention : Convention} {tree : Json}

/-! ### What readers find -/

lemma mapM_eq_some_iff {β : Type} {f : α → Option β} {l : List α} {m : List β} :
    l.mapM f = some m ↔ List.Forall₂ (fun a b => f a = some b) l m := by
  induction l generalizing m with
  | nil => simp [eq_comm]
  | cons a l ih =>
    simp only [List.mapM_cons, Option.bind_eq_bind, Option.bind_eq_some_iff, Option.pure_def,
      Option.some.injEq, ih, List.forall₂_cons_left_iff]
    constructor
    · rintro ⟨b, hb, m, hm, rfl⟩
      exact ⟨b, m, hb, hm, rfl⟩
    · rintro ⟨b, m, hb, hm, rfl⟩
      exact ⟨b, hb, m, hm, rfl⟩

lemma Schema.ofJson?_single {name : String} {payload : Json} (hlist : name ≠ "list")
    (hset : name ≠ "set") : Schema.ofJson? convention (.object [(name, payload)]) =
      if convention.isNothing payload then Schema.scalar? name else none := by
  rw [Schema.ofJson?]
  · simpa using hlist
  · simpa using hset

lemma RecordSchema.entriesOfJson?_eq_some_iff {fields : List (String × Json)}
    {entries : List (String × Schema)} : entriesOfJson? convention fields = some entries ↔
      NameMap.EntriesRelated (fun tree s => Schema.ofJson? convention tree = some s)
        fields entries := by
  induction fields generalizing entries with
  | nil => simp [entriesOfJson?, NameMap.EntriesRelated, eq_comm]
  | cons field fields ih =>
    obtain ⟨name, tree⟩ := field
    simp only [entriesOfJson?, Option.bind_eq_bind, Option.bind_eq_some_iff, Option.some.injEq, ih,
      NameMap.EntriesRelated, List.forall₂_cons_left_iff]
    constructor
    · rintro ⟨s, hs, entries, hentries, rfl⟩
      exact ⟨(name, s), entries, ⟨rfl, hs⟩, hentries, rfl⟩
    · rintro ⟨⟨_, s⟩, entries, ⟨rfl, hs⟩, hentries, rfl⟩
      exact ⟨s, hs, entries, hentries, rfl⟩

lemma RawFilter.ofJson?_eq_some_iff {f : RawFilter} : ofJson? convention tree = some f ↔
    ∃ name operands mode all,
      convention.fields? fieldNames tree = some [name, operands, mode, all] ∧
      name.bind Json.asString? = some f.name ∧ operands.bind Json.asArray? = some f.operands ∧
      fieldOr .equals Mode.ofJson? mode = some f.mode ∧
      fieldOr false Json.asBool? all = some f.all := by
  unfold ofJson?
  constructor
  · intro h
    obtain ⟨values, hfields, h⟩ := Option.bind_eq_some_iff.1 h
    split at h
    · obtain ⟨name, hname, h⟩ := Option.bind_eq_some_iff.1 h
      obtain ⟨operands, hoperands, h⟩ := Option.bind_eq_some_iff.1 h
      obtain ⟨mode, hmode, h⟩ := Option.bind_eq_some_iff.1 h
      obtain ⟨all, hall, h⟩ := Option.bind_eq_some_iff.1 h
      cases h
      exact ⟨_, _, _, _, hfields, hname, hoperands, hmode, hall⟩
    · cases h
  · rintro ⟨name, operands, mode, all, hfields, hname, hoperands, hmode, hall⟩
    simp [hfields, hname, hoperands, hmode, hall]

lemma SortKey.ofJson?_eq_some_iff {key : SortKey} : ofJson? convention tree = some key ↔
    ∃ name direction, convention.fields? fieldNames tree = some [name, direction] ∧
      name.bind Json.asString? = some key.name ∧
      fieldOr .asc (Direction.ofJson? convention) direction = some key.direction := by
  unfold ofJson?
  constructor
  · intro h
    obtain ⟨values, hfields, h⟩ := Option.bind_eq_some_iff.1 h
    split at h
    · obtain ⟨name, hname, h⟩ := Option.bind_eq_some_iff.1 h
      obtain ⟨direction, hdirection, h⟩ := Option.bind_eq_some_iff.1 h
      cases h
      exact ⟨_, _, hfields, hname, hdirection⟩
    · cases h
  · rintro ⟨name, direction, hfields, hname, hdirection⟩
    simp [hfields, hname, hdirection]

lemma QueryDocument.ofJson?_eq_some_iff {d : QueryDocument} : ofJson? convention tree = some d ↔
    ∃ schema filters sorts,
      convention.fields? fieldNames tree = some [schema, filters, sorts] ∧
      fieldOr .empty (RecordSchema.ofJson? convention) schema = some d.schema ∧
      fieldOr [] (arrayOf? (RawFilter.ofJson? convention)) filters = some d.filters ∧
      fieldOr [] (arrayOf? (SortKey.ofJson? convention)) sorts = some d.sorts := by
  unfold ofJson?
  constructor
  · intro h
    obtain ⟨values, hfields, h⟩ := Option.bind_eq_some_iff.1 h
    split at h
    · obtain ⟨schema, hschema, h⟩ := Option.bind_eq_some_iff.1 h
      obtain ⟨filters, hfilters, h⟩ := Option.bind_eq_some_iff.1 h
      obtain ⟨sorts, hsorts, h⟩ := Option.bind_eq_some_iff.1 h
      cases h
      exact ⟨_, _, _, hfields, hschema, hfilters, hsorts⟩
    · cases h
  · rintro ⟨schema, filters, sorts, hfields, hschema, hfilters, hsorts⟩
    simp [hfields, hschema, hfilters, hsorts]

/-! ### Reading what was written -/

lemma Direction.ofJson?_toJson (d : Direction) :
    Direction.ofJson? convention d.toJson = some d := by
  cases d <;> rfl

lemma Mode.ofJson?_toJson (m : Mode) : Mode.ofJson? m.toJson = some m :=
  congrArg some (Mode.parse_id m)

lemma RecordSchema.ofJson?_toJson (S : RecordSchema) :
    RecordSchema.ofJson? convention S.toJson = some S := by
  refine Option.map_eq_some_iff.2 ⟨S.entries, ?_, NameMap.ofList_entries S⟩
  rw [entriesOfJson?_eq_some_iff, NameMap.EntriesRelated, List.forall₂_map_left_iff]
  exact List.forall₂_same.2 fun entry _ => ⟨rfl, Schema.ofJson?_toJson convention entry.2⟩

lemma RawFilter.ofJson?_toJson (f : RawFilter) : RawFilter.ofJson? convention f.toJson = some f :=
  RawFilter.ofJson?_eq_some_iff.2 ⟨_, _, _, _, rfl, rfl, rfl, Mode.ofJson?_toJson f.mode, rfl⟩

lemma SortKey.ofJson?_toJson (key : SortKey) :
    SortKey.ofJson? convention key.toJson = some key :=
  SortKey.ofJson?_eq_some_iff.2 ⟨_, _, rfl, rfl, Direction.ofJson?_toJson key.direction⟩

namespace QueryDocument

lemma arrayOf?_map {read : Json → Option α} {write : α → Json}
    (h : ∀ a, read (write a) = some a) (l : List α) :
    arrayOf? read (.array (l.map write)) = some l := by
  rw [arrayOf?, Json.asArray?, Option.bind_some, mapM_eq_some_iff, List.forall₂_map_left_iff]
  exact List.forall₂_same.2 fun a _ => h a

lemma ofJson?_toJson (d : QueryDocument) : ofJson? convention d.toJson = some d :=
  ofJson?_eq_some_iff.2 ⟨_, _, _, rfl, RecordSchema.ofJson?_toJson d.schema,
    arrayOf?_map RawFilter.ofJson?_toJson d.filters, arrayOf?_map SortKey.ofJson?_toJson d.sorts⟩

end QueryDocument

/-! ### Reading canonical trees -/

/-- What is read from a tree is read from the canonical tree in its canonical form. -/
def CanonicalReader (read : Json → Option α) (canonical : α → α) : Prop :=
  ∀ tree a, read tree = some a → read tree.canonical = some (canonical a)

/-- The filter with its raw operands in their canonical form. -/
def RawFilter.canonical (f : RawFilter) : RawFilter :=
  { f with operands := f.operands.map Json.canonical }

lemma QueryDocument.canonical_eq (d : QueryDocument) :
    d.canonical = ⟨d.schema, d.filters.map RawFilter.canonical, d.sorts⟩ := rfl

namespace CanonicalReader

variable {read : Json → Option α} {canonical : α → α}

lemma asString : CanonicalReader Json.asString? id := by
  intro tree text h
  cases tree <;> cases h
  rfl

lemma asBool : CanonicalReader Json.asBool? id := by
  intro tree b h
  cases tree <;> cases h
  rfl

lemma asArray : CanonicalReader Json.asArray? (List.map Json.canonical) := by
  intro tree items h
  cases tree <;> cases h
  rw [Json.canonical_array]
  rfl

lemma mode : CanonicalReader Mode.ofJson? id := by
  intro tree m h
  obtain ⟨text, htext, rfl⟩ := Option.map_eq_some_iff.1 h
  exact Option.map_eq_some_iff.2 ⟨text, asString tree text htext, rfl⟩

lemma bareName (hconv : convention.OrderFree) : CanonicalReader convention.bareName? id := by
  intro tree name h
  cases tree with
  | string text => exact h
  | object fields =>
    rcases fields with - | ⟨⟨key, payload⟩, - | _⟩
    · cases h
    · simp only [Convention.bareName?, Option.ite_none_right_eq_some] at h
      change (if convention.isNothing payload.canonical then some key else none) = _
      rw [if_pos (hconv payload h.1), h.2, id]
    · cases h
  | _ => cases h

lemma direction (hconv : convention.OrderFree) :
    CanonicalReader (Direction.ofJson? convention) id := by
  intro tree d h
  obtain ⟨name, hname, hd⟩ := Option.bind_eq_some_iff.1 h
  exact Option.bind_eq_some_iff.2 ⟨name, bareName hconv tree name hname, hd⟩

lemma arrayOf (h : CanonicalReader read canonical) :
    CanonicalReader (QueryDocument.arrayOf? read) (List.map canonical) := by
  intro tree l hl
  obtain ⟨items, hitems, hl⟩ := Option.bind_eq_some_iff.1 hl
  refine Option.bind_eq_some_iff.2 ⟨_, asArray tree items hitems, ?_⟩
  rw [mapM_eq_some_iff] at hl ⊢
  rw [List.forall₂_map_left_iff, List.forall₂_map_right_iff]
  exact hl.imp fun tree a ha => h tree a ha

/-- A field that has to be there. -/
lemma bind (h : CanonicalReader read canonical) {field : Option Json} {a : α}
    (ha : field.bind read = some a) :
    (field.map Json.canonical).bind read = some (canonical a) := by
  obtain ⟨tree, rfl, ha⟩ := Option.bind_eq_some_iff.1 ha
  exact h tree a ha

/-- A field with a default. -/
lemma fieldOr (h : CanonicalReader read canonical) {default : α}
    (hdefault : canonical default = default) {field : Option Json} {a : α}
    (ha : fieldOr default read field = some a) :
    RecordQuery.fieldOr default read (field.map Json.canonical) = some (canonical a) := by
  cases field with
  | none =>
    cases ha
    exact congrArg some hdefault.symm
  | some tree => exact h tree a ha

lemma schema (hconv : convention.OrderFree) : CanonicalReader (Schema.ofJson? convention) id := by
  intro tree
  induction tree using Json.induction with
  | object fields ih =>
    intro s h
    rcases fields with - | ⟨⟨name, payload⟩, - | _⟩
    · cases h
    · have hpayload := ih name payload List.mem_cons_self
      change Schema.ofJson? convention (.object [(name, payload.canonical)]) = some s
      by_cases hlist : name = "list"
      · subst hlist
        obtain ⟨e, he, rfl⟩ := Option.map_eq_some_iff.1 h
        exact Option.map_eq_some_iff.2 ⟨e, hpayload e he, rfl⟩
      by_cases hset : name = "set"
      · subst hset
        obtain ⟨e, he, rfl⟩ := Option.map_eq_some_iff.1 h
        exact Option.map_eq_some_iff.2 ⟨e, hpayload e he, rfl⟩
      rw [Schema.ofJson?_single hlist hset, Option.ite_none_right_eq_some] at h ⊢
      exact ⟨hconv payload h.1, h.2⟩
    · simp [Schema.ofJson?] at h
  | string text => exact fun s h => h
  | _ =>
    intro s h
    cases h

lemma recordSchema (hconv : convention.OrderFree) :
    CanonicalReader (RecordSchema.ofJson? convention) id := by
  intro tree S h
  cases tree with
  | object fields =>
    obtain ⟨entries, hentries, rfl⟩ := Option.map_eq_some_iff.1 h
    rw [Json.canonical_object]
    refine Option.map_eq_some_iff.2 ⟨(NameMap.ofList entries).entries, ?_, ?_⟩
    · rw [RecordSchema.entriesOfJson?_eq_some_iff] at hentries ⊢
      refine NameMap.EntriesRelated.ofList ?_
      rw [NameMap.EntriesRelated, List.forall₂_map_left_iff]
      exact hentries.imp fun field entry hrel => ⟨hrel.1, schema hconv _ _ hrel.2⟩
    · exact NameMap.ofList_entries _
  | _ => cases h

lemma rawFilter : CanonicalReader (RawFilter.ofJson? convention) RawFilter.canonical := by
  intro tree f h
  obtain ⟨name, operands, mode, all, hfields, hname, hoperands, hmode, hall⟩ :=
    RawFilter.ofJson?_eq_some_iff.1 h
  exact RawFilter.ofJson?_eq_some_iff.2 ⟨_, _, _, _, Convention.fields?_canonical hfields,
    bind asString hname, bind asArray hoperands, fieldOr CanonicalReader.mode rfl hmode,
    fieldOr asBool rfl hall⟩

lemma sortKey (hconv : convention.OrderFree) :
    CanonicalReader (SortKey.ofJson? convention) id := by
  intro tree key h
  obtain ⟨name, direction, hfields, hname, hdirection⟩ := SortKey.ofJson?_eq_some_iff.1 h
  exact SortKey.ofJson?_eq_some_iff.2 ⟨_, _, Convention.fields?_canonical hfields,
    bind asString hname, fieldOr (CanonicalReader.direction hconv) rfl hdirection⟩

/-- What a tree says as a document, its canonical form says too. -/
lemma document (hconv : convention.OrderFree) :
    CanonicalReader (QueryDocument.ofJson? convention) QueryDocument.canonical := by
  intro tree d h
  obtain ⟨schema, filters, sorts, hfields, hschema, hfilters, hsorts⟩ :=
    QueryDocument.ofJson?_eq_some_iff.1 h
  have hsorts' := fieldOr (arrayOf (sortKey hconv)) rfl hsorts
  rw [List.map_id] at hsorts'
  exact QueryDocument.ofJson?_eq_some_iff.2 ⟨_, _, _, Convention.fields?_canonical hfields,
    fieldOr (recordSchema hconv) rfl hschema, fieldOr (arrayOf rawFilter) rfl hfilters, hsorts'⟩

end CanonicalReader

/-! ### Rewriting -/

lemma RawFilter.toJson_canonical (f : RawFilter) :
    f.canonical.toJson.canonical = f.toJson.canonical := by
  simp only [toJson, canonical, Json.canonical_object, List.map_cons,
    List.map_nil, Json.canonical_array, List.map_map, Function.comp_def, Json.canonical_canonical]

namespace QueryDocument

/-- Canonical operands are no change to the canonical tree. -/
lemma toJson_canonical (d : QueryDocument) :
    d.canonical.toJson.canonical = d.toJson.canonical := by
  simp only [toJson, canonical_eq, Json.canonical_object, List.map_cons, List.map_nil,
    Json.canonical_array, List.map_map, Function.comp_def, RawFilter.toJson_canonical]

lemma decodeFilter_canonical (S : RecordSchema) (f : RawFilter) :
    decodeFilter S f.canonical = decodeFilter S f := by
  simp only [decodeFilter, RawFilter.canonical, mapOk_map, decodeValue_canonical]

lemma compileWithSchema_canonical (d : QueryDocument) :
    d.canonical.compileWithSchema = d.compileWithSchema := by
  have hclauses : d.canonical.clauses = d.clauses := by
    simp only [clauses, canonical_eq, mapOk_map, decodeFilter_canonical]
  rw [compileWithSchema, compileWithSchema, compile, compile, hclauses]
  rfl

/-- The tree that is written for the document that a tree is read as. -/
def rewritten? (convention : Convention) (tree : Json) : Option Json :=
  (ofJson? convention tree).map fun d => d.toJson.canonical

lemma ofJson?_toJson_canonical (hconv : convention.OrderFree) (d : QueryDocument) :
    ofJson? convention d.toJson.canonical = some d.canonical :=
  CanonicalReader.document hconv _ _ (ofJson?_toJson d)

lemma rewritten?_toJson_canonical (hconv : convention.OrderFree) (d : QueryDocument) :
    rewritten? convention d.toJson.canonical = some d.toJson.canonical := by
  rw [rewritten?, ofJson?_toJson_canonical hconv, Option.map_some, toJson_canonical]

/-- **Reading inverts writing.** A document is read back from the tree that it is written as, and
from the canonical form of this tree up to the canonical form of its operands, which compile alike.
Whatever tree a document was read from, the tree that is written for it is accepted again and
rewritten to itself; and a canonical tree gives a document whose operands are canonical already, so
that the same document is read from what is written. -/
theorem reading_inverts_writing (d : QueryDocument) :
    (∀ convention, ofJson? convention d.toJson = some d) ∧
    (∀ convention ∈ [Convention.strict, Convention.tabular],
      ofJson? convention d.toJson.canonical = some d.canonical) ∧
    d.canonical.compileWithSchema = d.compileWithSchema ∧
    ∀ convention ∈ [Convention.strict, Convention.tabular],
      ∀ tree, ofJson? convention tree = some d →
        (tree.canonical = tree → d.canonical = d) ∧
        ∃ again, rewritten? convention tree = some again ∧
          ofJson? .strict again = some d.canonical ∧ rewritten? .strict again = some again := by
  have hformats : ∀ convention ∈ [Convention.strict, Convention.tabular],
      convention.OrderFree := by
    simp [Convention.strict_orderFree, Convention.tabular_orderFree]
  refine ⟨fun convention => ofJson?_toJson d, fun convention hconv =>
    ofJson?_toJson_canonical (hformats _ hconv) d, compileWithSchema_canonical d,
    fun convention hconv tree htree => ⟨fun hcanonical => ?_, d.toJson.canonical, ?_, ?_, ?_⟩⟩
  · have hread := CanonicalReader.document (hformats _ hconv) tree d htree
    rw [hcanonical, htree] at hread
    exact (Option.some.inj hread).symm
  · rw [rewritten?, htree, Option.map_some]
  · exact ofJson?_toJson_canonical Convention.strict_orderFree d
  · exact rewritten?_toJson_canonical Convention.strict_orderFree d

-- Defaults are written out, and equality is written as the mode of the empty name.
example : (ofJson? .strict (.object [("filter", .array [.object [("values", .array []),
    ("match_by", .string "like"), ("attribute", .string "name")]])])).map (·.toJson.canonical) =
    some (.object [("filter", .array [.object [("all", .bool false), ("attribute", .string "name"),
      ("match_by", .string ""), ("values", .array [])]]), ("schema", .object []),
      ("sort", .array [])]) := by
  rfl

end QueryDocument

end RecordQuery
