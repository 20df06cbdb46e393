import RecordQuery.Proofs.Decoding
import RecordQuery.QueryDocument

/-!
Which documents compile, into which query, and what is wrong with those that do not.

A document goes through two passes: all filters are decoded, and after that all clauses are bound.
Each pass stops at its own first fault, so a filter that does not decode comes before any fault of
binding, wherever the two stand. An operand that has been decoded is of the scalar type of its
attribute, so binding never meets one of a wrong type: all that it can find wrong with a filter is
that there are no operands, or that one is not the text of a pattern.
-/

namespace RecordQuery

variable {schema : RecordSchema} {s : Schema} {mode : Mode} {raw : Json} {v : Value}

/-! ### Decoding -/

/-- The operand is the text of a pattern. -/
def Json.IsPattern (raw : Json) : Prop :=
  ∃ source p, raw = .string source ∧ Pattern.compile? source = some p

namespace RawFilter

/-- The filter names a declared attribute, and all its operands decode against the scalar type. -/
def Decodable (schema : RecordSchema) (f : RawFilter) : Prop :=
  ∃ s, schema.get? f.name = some s ∧ ∀ raw ∈ f.operands, ∃ v, decodeValue s.scalar raw = .ok v

/-- The filter that results from decoding the operands against the scalar type of the attribute. -/
inductive DecodesTo (schema : RecordSchema) (f : RawFilter) : Filter → Prop where
  | mk {s : Schema} {values : List Value} (declared : schema.get? f.name = some s)
      (operands : List.Forall₂ (fun raw v => decodeValue s.scalar raw = .ok v) f.operands values) :
      DecodesTo schema f ⟨f.name, values.map .literal, f.mode, f.all⟩

/-- What decoding can find wrong with a filter: an attribute that is not declared, or the first
operand that does not decode. -/
inductive DecodeFault (schema : RecordSchema) (f : RawFilter) : QueryError → Prop where
  | undeclared (h : schema.get? f.name = none) : DecodeFault schema f (.unknownAttribute f.name)
  | undecodable {s : Schema} {before after : List Json} {raw : Json} {e : EngineError}
      (declared : schema.get? f.name = some s) (split : f.operands = before ++ raw :: after)
      (decoded : ∀ b ∈ before, ∃ v, decodeValue s.scalar b = .ok v)
      (first : decodeValue s.scalar raw = .error e) :
      DecodeFault schema f (.undecodable f.name e)

/-- The filter decodes and can be bound: it has operands and, where patterns are taken, all of
them are texts of patterns. -/
def WellFormed (schema : RecordSchema) (f : RawFilter) : Prop :=
  ∃ s, schema.get? f.name = some s ∧ f.operands ≠ [] ∧
    (∀ raw ∈ f.operands, ∃ v, decodeValue s.scalar raw = .ok v) ∧
    (f.mode.TakesPatterns s → ∀ raw ∈ f.operands, raw.IsPattern)

/-- What can be wrong with a filter that decodes: no operands, or the first one that is not the
text of a pattern where patterns are taken. -/
inductive BindFault (schema : RecordSchema) (f : RawFilter) : QueryError → Prop where
  | empty (h : f.operands = []) : BindFault schema f (.emptyFilter f.name)
  | uncompiled {s : Schema} {before after : List Json} {source : String}
      (declared : schema.get? f.name = some s) (patterns : f.mode.TakesPatterns s)
      (split : f.operands = before ++ .string source :: after)
      (compiled : ∀ b ∈ before, b.IsPattern) (first : Pattern.compile? source = none) :
      BindFault schema f (.engine (.invalidPattern source))

end RawFilter

namespace QueryDocument

lemma decodeFilter_eq_ok_iff {f : RawFilter} {g : Filter} :
    decodeFilter schema f = .ok g ↔ f.DecodesTo schema g := by
  unfold decodeFilter RecordSchema.require
  constructor
  · intro h
    cases hs : schema.get? f.name with
    | none => simp [hs] at h
    | some s =>
      cases hm : mapOk (decodeValue s.scalar) f.operands with
      | error e => simp [hs, hm] at h
      | ok values =>
        simp only [hs, hm, Except.ok.injEq] at h
        exact h ▸ .mk hs (mapOk_eq_ok_iff.1 hm)
  · rintro ⟨declared, operands⟩
    simp [declared, mapOk_eq_ok_iff.2 operands]

lemma decodeFilter_eq_error_iff {f : RawFilter} {e : QueryError} :
    decodeFilter schema f = .error e ↔ f.DecodeFault schema e := by
  unfold decodeFilter RecordSchema.require
  constructor
  · intro h
    cases hs : schema.get? f.name with
    | none =>
      simp only [hs, Except.error.injEq] at h
      exact h ▸ .undeclared hs
    | some s =>
      cases hm : mapOk (decodeValue s.scalar) f.operands with
      | error e =>
        simp only [hs, hm, Except.error.injEq] at h
        obtain ⟨before, raw, after, split, decoded, first⟩ := mapOk_eq_error_iff.1 hm
        exact h ▸ .undecodable hs split decoded first
      | ok values => simp [hs, hm] at h
  · rintro (h | ⟨declared, split, decoded, first⟩)
    · simp [h]
    · simp [declared, mapOk_eq_error_iff.2 ⟨_, _, _, split, decoded, first⟩]

lemma exists_decodeFilter_eq_ok_iff {f : RawFilter} :
    (∃ g, decodeFilter schema f = .ok g) ↔ f.Decodable schema := by
  simp only [decodeFilter_eq_ok_iff]
  constructor
  · rintro ⟨g, declared, operands⟩
    exact ⟨_, declared, exists_mapOk_eq_ok_iff.1 ⟨_, mapOk_eq_ok_iff.2 operands⟩⟩
  · rintro ⟨s, declared, decoded⟩
    obtain ⟨values, hm⟩ := exists_mapOk_eq_ok_iff.2 decoded
    exact ⟨_, .mk declared (mapOk_eq_ok_iff.1 hm)⟩

end QueryDocument

/-! ### Binding what was decoded -/

/-- A value decoded against the scalar type can be bound unless patterns are taken and its text is
not the text of one. -/
lemma fits_iff_of_decodeValue (h : decodeValue s.scalar raw = .ok v) :
    (Operand.literal v).Fits s mode ↔ (mode.TakesPatterns s → raw.IsPattern) := by
  by_cases ht : mode.TakesPatterns s
  · rw [ht.1, decodeValue_eq_ok_iff] at h
    cases h with
    | string text =>
      simp only [ht, forall_const, Json.IsPattern, Json.string.injEq]
      constructor
      · rintro ⟨o, ⟨-, hp⟩ | - | ⟨hno, -⟩⟩
        · exact ⟨_, _, rfl, hp⟩
        · exact absurd ht hno
      · rintro ⟨source, p, rfl, hp⟩
        exact ⟨_, .compiled ht hp⟩
  · exact iff_of_true ⟨_, .literal ht (decodeValue_conforms h)⟩ fun h => absurd h ht

lemma fault_iff_of_decodeValue {e : EngineError} (h : decodeValue s.scalar raw = .ok v) :
    (Operand.literal v).Fault s mode e ↔ mode.TakesPatterns s ∧
      ∃ source, raw = .string source ∧ Pattern.compile? source = none ∧
        e = .invalidPattern source := by
  constructor
  · intro hf
    cases hf with
    | uncompiled ht hp =>
      rw [ht.1, decodeValue_eq_ok_iff] at h
      cases h with
      | string text => exact ⟨ht, _, rfl, hp, rfl⟩
    | notText ht hv =>
      rw [ht.1, decodeValue_eq_ok_iff] at h
      cases h with
      | string text => exact absurd rfl (hv text)
    | mistyped _ hv =>
      rw [decodeValue_conforms h] at hv
      cases hv
  · rintro ⟨ht, source, rfl, hp, rfl⟩
    rw [ht.1, decodeValue_eq_ok_iff] at h
    cases h
    exact .uncompiled ht hp

/-- Decoding an operand and binding what comes out. -/
def bindRaw (s : Schema) (mode : Mode) (raw : Json) : Except EngineError Operand :=
  (decodeValue s.scalar raw).bind fun v =>
    Filter.bindOperand s.scalar (Filter.wantsPatterns mode s.scalar) (.literal v)

lemma bindRaw_of_decodeValue (h : decodeValue s.scalar raw = .ok v) :
    bindRaw s mode raw =
      Filter.bindOperand s.scalar (Filter.wantsPatterns mode s.scalar) (.literal v) := by
  rw [bindRaw, h]
  rfl

lemma exists_bindRaw_eq_ok_iff (h : ∃ v, decodeValue s.scalar raw = .ok v) :
    (∃ o, bindRaw s mode raw = .ok o) ↔ (mode.TakesPatterns s → raw.IsPattern) := by
  obtain ⟨v, hv⟩ := h
  rw [bindRaw_of_decodeValue hv, ← fits_iff_of_decodeValue hv]
  simp only [(Operand.bindOperand_iff s mode _).1, Operand.Fits]

lemma bindRaw_eq_error_iff {e : EngineError} (h : ∃ v, decodeValue s.scalar raw = .ok v) :
    bindRaw s mode raw = .error e ↔ mode.TakesPatterns s ∧
      ∃ source, raw = .string source ∧ Pattern.compile? source = none ∧
        e = .invalidPattern source := by
  obtain ⟨v, hv⟩ := h
  rw [bindRaw_of_decodeValue hv, ← fault_iff_of_decodeValue hv,
    (Operand.bindOperand_iff s mode _).2]

/-- Where all operands decode, the first that cannot be bound is not the text of a pattern. -/
lemma firstFault_bindRaw_iff {operands : List Json} {e : EngineError}
    (h : Faultless (decodeValue s.scalar) operands) :
    FirstFault (bindRaw s mode) operands e ↔ mode.TakesPatterns s ∧
      ∃ before source after, operands = before ++ .string source :: after ∧
        (∀ b ∈ before, b.IsPattern) ∧ Pattern.compile? source = none ∧
        e = .invalidPattern source := by
  constructor
  · rintro ⟨before, raw, after, rfl, hbefore, hraw⟩
    obtain ⟨ht, source, rfl, hp, rfl⟩ := (bindRaw_eq_error_iff (h raw (by simp))).1 hraw
    refine ⟨ht, before, source, after, rfl, fun b hb => ?_, hp, rfl⟩
    exact (exists_bindRaw_eq_ok_iff (h b (by simp [hb]))).1 (hbefore b hb) ht
  · rintro ⟨ht, before, source, after, rfl, compiled, hp, rfl⟩
    refine ⟨before, .string source, after, rfl, fun b hb => ?_, ?_⟩
    · exact (exists_bindRaw_eq_ok_iff (h b (by simp [hb]))).2 fun _ => compiled b hb
    · exact (bindRaw_eq_error_iff (h _ (by simp))).2 ⟨ht, source, rfl, hp, rfl⟩

/-- Binding the operands that result from decoding is binding the raw ones. -/
lemma mapOk_bindOperand_eq {operands : List Json} {values : List Value}
    (h : mapOk (decodeValue s.scalar) operands = .ok values) :
    mapOk (Filter.bindOperand s.scalar (Filter.wantsPatterns mode s.scalar))
      (values.map .literal) = mapOk (bindRaw s mode) operands := by
  rw [mapOk_map, mapOk_of_mapOk h]
  rfl

namespace RawFilter

variable {f : RawFilter} {g : Filter}

lemma WellFormed.decodable (h : f.WellFormed schema) : f.Decodable schema := by
  obtain ⟨s, hs, -, hdec, -⟩ := h
  exact ⟨s, hs, hdec⟩

lemma DecodesTo.operands_eq_nil_iff (h : f.DecodesTo schema g) :
    g.operands = [] ↔ f.operands = [] := by
  obtain @⟨s, values, declared, operands⟩ := h
  rw [List.map_eq_nil_iff, ← List.length_eq_zero_iff, ← operands.length_eq,
    List.length_eq_zero_iff]

lemma DecodesTo.wellFormed_iff (h : f.DecodesTo schema g) :
    g.WellFormed schema ↔ f.WellFormed schema := by
  have hnil : g.operands ≠ [] ↔ f.operands ≠ [] := not_congr h.operands_eq_nil_iff
  obtain @⟨s, values, declared, operands⟩ := h
  have hm := mapOk_eq_ok_iff.2 operands
  have hdec : Faultless (decodeValue s.scalar) f.operands := exists_mapOk_eq_ok_iff.1 ⟨_, hm⟩
  have hfits : (∀ o ∈ values.map Operand.literal, o.Fits s f.mode) ↔
      ∀ raw ∈ f.operands, f.mode.TakesPatterns s → raw.IsPattern := by
    rw [← Operand.faultless_bindOperand_iff, ← exists_mapOk_eq_ok_iff, mapOk_bindOperand_eq hm,
      exists_mapOk_eq_ok_iff]
    exact forall₂_congr fun raw hraw => exists_bindRaw_eq_ok_iff (hdec raw hraw)
  simp only [Filter.WellFormed, WellFormed, declared, Option.some.injEq, exists_eq_left', hfits,
    hnil]
  constructor
  · rintro ⟨hne, hp⟩
    exact ⟨hne, hdec, fun ht raw hraw => hp raw hraw ht⟩
  · rintro ⟨hne, -, hp⟩
    exact ⟨hne, fun raw hraw ht => hp ht raw hraw⟩

lemma DecodesTo.fault_iff {e : QueryError} (h : f.DecodesTo schema g) :
    g.Fault schema e ↔ f.BindFault schema e := by
  have hnil := h.operands_eq_nil_iff
  obtain @⟨s, values, declared, operands⟩ := h
  have hm := mapOk_eq_ok_iff.2 operands
  have hfirst (e : EngineError) :
      FirstFault (Filter.bindOperand s.scalar (Filter.wantsPatterns f.mode s.scalar))
        (values.map .literal) e ↔ FirstFault (bindRaw s f.mode) f.operands e := by
    rw [← mapOk_eq_error_iff, mapOk_bindOperand_eq hm, mapOk_eq_error_iff]
  simp only [Operand.firstFault_bindOperand_iff,
    firstFault_bindRaw_iff (exists_mapOk_eq_ok_iff.1 ⟨_, hm⟩)] at hfirst
  constructor
  · intro hf
    cases hf with
    | undeclared hno => simp [declared] at hno
    | empty _ hempty => exact .empty (hnil.1 hempty)
    | operand hs split fits first =>
      obtain rfl := Option.some.inj (hs.symm.trans declared)
      obtain ⟨ht, before, source, after, split, compiled, hp, rfl⟩ :=
        (hfirst _).1 ⟨_, _, _, split, fits, first⟩
      exact .uncompiled declared ht split compiled hp
  · intro hf
    cases hf with
    | empty hempty => exact .empty declared (hnil.2 hempty)
    | uncompiled hs ht split compiled hp =>
      obtain rfl := Option.some.inj (hs.symm.trans declared)
      obtain ⟨before, o, after, split, fits, first⟩ :=
        (hfirst _).2 ⟨ht, _, _, _, split, compiled, hp, rfl⟩
      exact .operand declared split fits first

end RawFilter

/-! ### Documents -/

namespace QueryDocument

variable {d : QueryDocument} {f : RawFilter} {q : Query} {e : QueryError}

/-- What is wrong with a document: the first filter that does not decode; or, where all decode,
the first that cannot be bound; or, where no filter is at fault, the first faulty sort. -/
inductive Fault (d : QueryDocument) : QueryError → Prop where
  | decoding {before after : List RawFilter} {f : RawFilter} {e : QueryError}
      (split : d.filters = before ++ f :: after) (decoded : ∀ g ∈ before, g.Decodable d.schema)
      (first : f.DecodeFault d.schema e) : Fault d e
  | binding {before after : List RawFilter} {f : RawFilter} {e : QueryError}
      (decoded : ∀ g ∈ d.filters, g.Decodable d.schema) (split : d.filters = before ++ f :: after)
      (wellFormed : ∀ g ∈ before, g.WellFormed d.schema) (first : f.BindFault d.schema e) :
      Fault d e
  | sort {before after : List SortKey} {key : SortKey} {e : QueryError}
      (filters : ∀ f ∈ d.filters, f.WellFormed d.schema) (split : d.sorts = before ++ key :: after)
      (wellFormed : ∀ k ∈ before, k.WellFormed d.schema) (first : key.Fault d.schema e) :
      Fault d e

/-- Decoding a filter and binding what comes out. -/
def bindDecoded (schema : RecordSchema) (f : RawFilter) : Except QueryError BoundFilter :=
  (decodeFilter schema f).bind (QueryClauses.bindFilter schema)

lemma bindDecoded_of_decodesTo {g : Filter} (h : f.DecodesTo schema g) :
    bindDecoded schema f = QueryClauses.bindFilter schema g := by
  rw [bindDecoded, decodeFilter_eq_ok_iff.2 h]
  rfl

lemma exists_decodesTo (h : f.Decodable schema) : ∃ g, f.DecodesTo schema g := by
  obtain ⟨g, hg⟩ := exists_decodeFilter_eq_ok_iff.2 h
  exact ⟨g, decodeFilter_eq_ok_iff.1 hg⟩

lemma decodable_of_bindDecoded {bound : BoundFilter} (h : bindDecoded schema f = .ok bound) :
    f.Decodable schema := by
  refine exists_decodeFilter_eq_ok_iff.1 ?_
  cases hg : decodeFilter schema f with
  | ok g => exact ⟨g, rfl⟩
  | error e => simp [bindDecoded, hg, Except.bind] at h

lemma exists_bindDecoded_eq_ok_iff :
    (∃ bound, bindDecoded schema f = .ok bound) ↔ f.WellFormed schema := by
  have hdecodable (h : f.Decodable schema) :
      (∃ bound, bindDecoded schema f = .ok bound) ↔ f.WellFormed schema := by
    obtain ⟨g, hg⟩ := exists_decodesTo h
    rw [bindDecoded_of_decodesTo hg, QueryClauses.exists_bindFilter_eq_ok_iff, hg.wellFormed_iff]
  constructor
  · rintro ⟨bound, h⟩
    exact (hdecodable (decodable_of_bindDecoded h)).1 ⟨bound, h⟩
  · intro h
    exact (hdecodable h.decodable).2 h

lemma bindDecoded_eq_error_iff (h : f.Decodable schema) :
    bindDecoded schema f = .error e ↔ f.BindFault schema e := by
  obtain ⟨g, hg⟩ := exists_decodesTo h
  rw [bindDecoded_of_decodesTo hg, (QueryClauses.bindFilter_iff schema g).2, hg.fault_iff]

/-! ### Both passes -/

lemma mapOk_decodeFilter_eq_ok_iff {l : List RawFilter} {filters : List Filter} :
    mapOk (decodeFilter schema) l = .ok filters ↔
      List.Forall₂ (RawFilter.DecodesTo schema) l filters := by
  simp only [mapOk_eq_ok_iff, decodeFilter_eq_ok_iff]

lemma faultless_decodeFilter_iff {l : List RawFilter} :
    Faultless (decodeFilter schema) l ↔ ∀ f ∈ l, f.Decodable schema := by
  simp only [Faultless, exists_decodeFilter_eq_ok_iff]

lemma faultless_bindDecoded_iff {l : List RawFilter} :
    Faultless (bindDecoded schema) l ↔ ∀ f ∈ l, f.WellFormed schema := by
  simp only [Faultless, exists_bindDecoded_eq_ok_iff]

/-- The clauses that result from decoding build as the raw ones bind. -/
lemma build_iff {filters : List Filter}
    (h : mapOk (decodeFilter d.schema) d.filters = .ok filters) :
    (∀ q, (⟨filters, d.sorts⟩ : QueryClauses).build d.schema = .ok q ↔
      mapOk (bindDecoded d.schema) d.filters = .ok q.filters ∧
        mapOk (QueryClauses.bindSort d.schema) d.sorts = .ok q.sorts) ∧
    ∀ e, (⟨filters, d.sorts⟩ : QueryClauses).build d.schema = .error e ↔
      FirstFault (bindDecoded d.schema) d.filters e ∨ Faultless (bindDecoded d.schema) d.filters ∧
        FirstFault (QueryClauses.bindSort d.schema) d.sorts e := by
  constructor
  · intro q
    rw [QueryClauses.build_eq_ok_iff, mapOk_of_mapOk h]
    rfl
  · intro e
    rw [QueryClauses.build_eq_error_iff, ← mapOk_eq_error_iff, ← exists_mapOk_eq_ok_iff,
      mapOk_of_mapOk h, mapOk_eq_error_iff, exists_mapOk_eq_ok_iff]
    rfl

/-- The query is the one of the clauses that result from decoding. -/
lemma compile_eq_ok_iff : d.compile = .ok q ↔
    ∃ filters, List.Forall₂ (RawFilter.DecodesTo d.schema) d.filters filters ∧
      (⟨filters, d.sorts⟩ : QueryClauses).build d.schema = .ok q := by
  simp only [← mapOk_decodeFilter_eq_ok_iff]
  unfold compile clauses
  cases mapOk (decodeFilter d.schema) d.filters <;> simp

lemma compile_eq_error_iff : d.compile = .error e ↔
    FirstFault (decodeFilter d.schema) d.filters e ∨
      Faultless (decodeFilter d.schema) d.filters ∧
        (FirstFault (bindDecoded d.schema) d.filters e ∨
          Faultless (bindDecoded d.schema) d.filters ∧
            FirstFault (QueryClauses.bindSort d.schema) d.sorts e) := by
  unfold compile clauses
  rw [← mapOk_eq_error_iff, ← exists_mapOk_eq_ok_iff]
  cases hm : mapOk (decodeFilter d.schema) d.filters with
  | error e' => simp
  | ok filters => simpa using (build_iff hm).2 e

/-- The query has the filters and sorts of the document, each bound by itself. -/
lemma compile_eq_ok_iff_bind : d.compile = .ok q ↔
    mapOk (bindDecoded d.schema) d.filters = .ok q.filters ∧
      mapOk (QueryClauses.bindSort d.schema) d.sorts = .ok q.sorts := by
  simp only [compile_eq_ok_iff, ← mapOk_decodeFilter_eq_ok_iff]
  constructor
  · rintro ⟨filters, hdec, hbuild⟩
    exact ((build_iff hdec).1 q).1 hbuild
  · rintro ⟨hf, hs⟩
    have hall := faultless_bindDecoded_iff.1 (exists_mapOk_eq_ok_iff.1 ⟨_, hf⟩)
    obtain ⟨filters, hdec⟩ := exists_mapOk_eq_ok_iff.2
      (faultless_decodeFilter_iff.2 fun f hmem => (hall f hmem).decodable)
    exact ⟨filters, hdec, ((build_iff hdec).1 q).2 ⟨hf, hs⟩⟩

lemma exists_compile_eq_ok_iff : (∃ q, d.compile = .ok q) ↔
    (∀ f ∈ d.filters, f.WellFormed d.schema) ∧ ∀ key ∈ d.sorts, key.WellFormed d.schema := by
  simp only [compile_eq_ok_iff_bind]
  rw [← faultless_bindDecoded_iff, ← QueryClauses.faultless_bindSort_iff, ← exists_mapOk_eq_ok_iff,
    ← exists_mapOk_eq_ok_iff]
  constructor
  · rintro ⟨q, hf, hs⟩
    exact ⟨⟨_, hf⟩, _, hs⟩
  · rintro ⟨⟨filters, hf⟩, sorts, hs⟩
    exact ⟨⟨filters, sorts⟩, hf, hs⟩

lemma compile_eq_error_iff_fault : d.compile = .error e ↔ d.Fault e := by
  rw [compile_eq_error_iff, faultless_decodeFilter_iff, faultless_bindDecoded_iff]
  simp only [FirstFault, exists_decodeFilter_eq_ok_iff, decodeFilter_eq_error_iff,
    exists_bindDecoded_eq_ok_iff, QueryClauses.exists_bindSort_eq_ok_iff,
    (QueryClauses.bindSort_iff d.schema _).2]
  constructor
  · rintro (⟨before, f, after, split, decoded, first⟩ |
      ⟨hall, ⟨before, f, after, split, hbefore, first⟩ |
        ⟨hf, before, key, after, split, hbefore, first⟩⟩)
    · exact .decoding split decoded first
    · have hmem : f ∈ d.filters := by simp [split]
      exact .binding hall split hbefore ((bindDecoded_eq_error_iff (hall f hmem)).1 first)
    · exact .sort hf split hbefore first
  · rintro (⟨split, decoded, first⟩ | @⟨_, _, f, _, hall, split, hbefore, first⟩ |
      ⟨hf, split, hbefore, first⟩)
    · exact .inl ⟨_, _, _, split, decoded, first⟩
    · have hmem : f ∈ d.filters := by simp [split]
      exact .inr ⟨hall, .inl ⟨_, _, _, split, hbefore,
        (bindDecoded_eq_error_iff (hall f hmem)).2 first⟩⟩
    · exact .inr ⟨fun f hmem => (hf f hmem).decodable, .inr ⟨hf, _, _, _, split, hbefore, first⟩⟩

/-- No operand is of a wrong type by the time it is bound, and no document is malformed that has
been read. -/
lemma Fault.kind (h : d.Fault e) :
    (∀ expected actual, e ≠ .engine (.typeMismatch expected actual)) ∧
      (∀ fault, e ≠ .engine (.invalidInput fault)) ∧ e ≠ .malformed := by
  rcases h with ⟨-, -, first⟩ | ⟨-, -, -, first⟩ | ⟨-, -, -, first⟩ <;> cases first <;> simp

/-- **What compiles.** A document compiles exactly if every filter names a declared attribute and
has operands, all of which decode and, where patterns are taken, compile, and every sort names a
declared attribute of a scalar type. It gives its own schema and the query of the decoded clauses.
Otherwise the error is that of the first filter that does not decode, or without one of the first
that cannot be bound, or of the first faulty sort; no operand is of a wrong type after decoding. -/
theorem compile_domain (d : QueryDocument) :
    ((∃ schema q, d.compileWithSchema = .ok (schema, q)) ↔
      (∀ f ∈ d.filters, f.WellFormed d.schema) ∧
        ∀ key ∈ d.sorts, key.WellFormed d.schema) ∧
    (∀ schema q, d.compileWithSchema = .ok (schema, q) ↔ schema = d.schema ∧
      ∃ filters, List.Forall₂ (RawFilter.DecodesTo d.schema) d.filters filters ∧
        (⟨filters, d.sorts⟩ : QueryClauses).build d.schema = .ok q) ∧
    (∀ e, d.compileWithSchema = .error e ↔ d.Fault e) ∧
    ∀ e, d.compileWithSchema = .error e →
      (∀ expected actual, e ≠ .engine (.typeMismatch expected actual)) ∧
        (∀ fault, e ≠ .engine (.invalidInput fault)) ∧ e ≠ .malformed := by
  have hok : ∀ schema q, d.compileWithSchema = .ok (schema, q) ↔
      schema = d.schema ∧ d.compile = .ok q := by
    intro schema q
    rw [compileWithSchema, map_eq_ok_iff]
    constructor
    · rintro ⟨q', hq, heq⟩
      cases heq
      exact ⟨rfl, hq⟩
    · rintro ⟨rfl, hq⟩
      exact ⟨q, hq, rfl⟩
  have herror : ∀ e, d.compileWithSchema = .error e ↔ d.Fault e := by
    intro e
    rw [compileWithSchema, map_eq_error_iff, compile_eq_error_iff_fault]
  refine ⟨?_, fun schema q => ?_, herror, fun e he => ((herror e).1 he).kind⟩
  · simp only [hok, exists_and_left, exists_and_right, exists_eq, true_and]
    exact exists_compile_eq_ok_iff
  · rw [hok, compile_eq_ok_iff]

end QueryDocument

end RecordQuery
