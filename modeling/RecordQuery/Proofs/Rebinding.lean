import RecordQuery.Proofs.AlikeFilters

/-!
Building again what was built, and building against other declarations.

Binding turns texts into patterns where the mode asks for them, and leaves everything else as it
is. Bound clauses have no such texts left, so built again they give the query that they come from.
Of the schema, binding reads the declarations of the attributes that the clauses name; schemas
that agree on these are the same to it, where it fails as well.
-/

namespace RecordQuery

/-- The attributes that the clauses name. -/
def QueryClauses.names (clauses : QueryClauses) : List String :=
  clauses.filters.map (·.name) ++ clauses.sorts.map (·.name)

/-- Each of these attributes is declared with the same type by both schemas, or by neither. -/
def RecordSchema.AlikeOn (names : List String) (schema other : RecordSchema) : Prop :=
  ∀ name ∈ names, schema.get? name = other.get? name

variable {schema other : RecordSchema} {clauses : QueryClauses} {q : Query}

/-! ### What is bound -/

lemma Operand.Becomes.becomes_self {s : Schema} {mode : Mode} {o o' : Operand}
    (h : o.Becomes s mode o') : o'.Becomes s mode o' := by
  cases h with
  | @compiled source p h hp => exact .pattern p h
  | pattern p h => exact .pattern p h
  | literal h hv => exact .literal h hv

lemma Operand.forall₂_becomes_self {s : Schema} {mode : Mode} {l m : List Operand}
    (h : List.Forall₂ (Becomes s mode) l m) : List.Forall₂ (Becomes s mode) m m := by
  induction h with
  | nil => exact .nil
  | cons hbecomes _ ih => exact .cons hbecomes.becomes_self ih

/-- A bound filter binds to itself. -/
lemma BoundFilter.Binds.binds_self {f : Filter} {bound : BoundFilter} (h : bound.Binds schema f) :
    bound.Binds schema bound.filter where
  declared := h.name ▸ h.declared
  nonempty := h.operands_ne_nil
  name := rfl
  mode := rfl
  all := rfl
  operands := h.mode ▸ Operand.forall₂_becomes_self h.operands

lemma BoundSort.Binds.binds_self {key : SortKey} {bound : BoundSort}
    (h : bound.Binds schema key) : bound.Binds schema bound.key :=
  ⟨h.key ▸ h.declared, h.scalar, rfl⟩

namespace QueryClauses

lemma bindFilter_self {bound : BoundFilter} {f : Filter} (h : bindFilter schema f = .ok bound) :
    bindFilter schema bound.filter = .ok bound :=
  bindFilter_of_binds (((bindFilter_iff schema f).1 bound).1 h).binds_self

lemma bindSort_self {bound : BoundSort} {key : SortKey} (h : bindSort schema key = .ok bound) :
    bindSort schema bound.key = .ok bound :=
  bindSort_of_binds (((bindSort_iff schema key).1 bound).1 h).binds_self

lemma names_clauses (h : clauses.build schema = .ok q) : q.clauses.names = clauses.names := by
  obtain ⟨hfilters, hsorts⟩ := build_eq_ok h
  rw [names, names, Query.clauses, List.map_map, List.map_map]
  have hfilter : ∀ f bound, bindFilter schema f = .ok bound → bound.filter.name = f.name :=
    fun f bound hf => (((bindFilter_iff schema f).1 bound).1 hf).name
  have hsort : ∀ key bound, bindSort schema key = .ok bound → bound.key.name = key.name :=
    fun key bound hkey => congrArg SortKey.name (((bindSort_iff schema key).1 bound).1 hkey).key
  exact congrArg₂ (· ++ ·) (map_eq_map_of_mapOk hfilters hfilter)
    (map_eq_map_of_mapOk hsorts hsort)

lemma build_clauses (h : clauses.build schema = .ok q) : q.clauses.build schema = .ok q := by
  obtain ⟨hfilters, hsorts⟩ := build_eq_ok h
  exact build_eq_ok_iff.2 ⟨mapOk_map_of_mapOk hfilters fun _ _ => bindFilter_self,
    mapOk_map_of_mapOk hsorts fun _ _ => bindSort_self⟩

/-! ### What binding reads -/

lemma bindFilter_congr {f : Filter} (h : schema.get? f.name = other.get? f.name) :
    bindFilter schema f = bindFilter other f := by
  rw [bindFilter, bindFilter, RecordSchema.require, RecordSchema.require, h]

lemma bindSort_congr {key : SortKey} (h : schema.get? key.name = other.get? key.name) :
    bindSort schema key = bindSort other key := by
  rw [bindSort, bindSort, RecordSchema.require, RecordSchema.require, h]

lemma build_congr (h : schema.AlikeOn clauses.names other) :
    clauses.build schema = clauses.build other := by
  have hfilters : ∀ f ∈ clauses.filters, bindFilter schema f = bindFilter other f := fun f hf =>
    bindFilter_congr (h _ (List.mem_append_left _ (List.mem_map_of_mem hf)))
  have hsorts : ∀ key ∈ clauses.sorts, bindSort schema key = bindSort other key := fun key hkey =>
    bindSort_congr (h _ (List.mem_append_right _ (List.mem_map_of_mem hkey)))
  rw [build_eq_bind, build_eq_bind, mapOk_congr hfilters, mapOk_congr hsorts]

/-- **Building is settled by the clauses and the declarations of what they name.** The clauses of a
built query name the same attributes and build into the same query. A schema that declares these
attributes alike, whatever else it declares, gives the same query or the same error. -/
theorem built_clauses_rebuild (schema : RecordSchema) (clauses : QueryClauses) :
    (∀ q, clauses.build schema = .ok q →
      q.clauses.names = clauses.names ∧ q.clauses.build schema = .ok q) ∧
    ∀ other, schema.AlikeOn clauses.names other →
      clauses.build other = clauses.build schema ∧
      ∀ q, clauses.build schema = .ok q → q.clauses.build other = .ok q := by
  refine ⟨fun q hq => ⟨names_clauses hq, build_clauses hq⟩, fun other halike => ?_⟩
  have hsame := build_congr halike
  exact ⟨hsame.symm, fun q hq => build_clauses (hsame.symm.trans hq)⟩

end QueryClauses

end RecordQuery
