import RecordQuery.Proofs.AlikeFilters
import RecordQuery.Proofs.MatchDomain
import RecordQuery.Proofs.Soundness

/-!
Modes that mean nothing for a type.

Such a mode is no fault: the scalars are matched by equality. The table of the modes that a type
has, the branches of matching, and what binding takes for a wish for patterns are written apart
from each other; here they are put together. A mode that the table leaves out cannot be told from
equality, by matching any value against any operand, by binding a filter, by what the bound filter
answers, or by the query that it stands in.
-/

namespace RecordQuery

variable {s : Schema} {mode : Mode}

/-! ### Matching -/

lemma matchString_of_unsupported (h : mode.isSupported .string = false) (text : String)
    (o : Operand) : matchString text o mode = matchString text o .equals := by
  cases mode with
  | equals => rfl
  | substring | regex => cases h
  | lessThan | lessThanOrEqual | greaterThan | greaterThanOrEqual =>
    cases o with
    | pattern p => rfl
    | literal u => cases u <;> rfl

lemma matchInt_of_unsupported (h : mode.isSupported .int = false) (n other : Int64) :
    matchInt n other mode = matchInt n other .equals := by
  cases mode <;> first | rfl | cases h

lemma matchFloat_of_unsupported (h : mode.isSupported .float = false) (x other : Binary64) :
    matchFloat x other mode = matchFloat x other .equals := by
  cases mode <;> first | rfl | cases h

/-- A value of another type is the same error in all modes. -/
lemma matchValue_congr_of_tag {v : Value} {o : Operand} {mode' : Mode}
    (h : v.tag = s.tag → matchValue s v o mode = matchValue s v o mode') :
    matchValue s v o mode = matchValue s v o mode' := by
  by_cases htag : v.tag = s.tag
  · exact h htag
  · rw [matchValue_of_tag_ne htag, matchValue_of_tag_ne htag]

/-- Matching cannot tell the mode from equality, whatever the value and the operand are. -/
lemma matchValue_of_unsupported (h : mode.isSupported s.scalar = false) (v : Value)
    (o : Operand) : matchValue s v o mode = matchValue s v o .equals := by
  induction s generalizing v with
  | string =>
    refine matchValue_congr_of_tag fun htag => ?_
    cases v <;> cases htag
    rw [matchValue, matchValue, matchString_of_unsupported h]
  | bool =>
    refine matchValue_congr_of_tag fun htag => ?_
    cases v <;> cases htag
    cases o with
    | pattern p => rfl
    | literal u => cases u <;> rfl
  | int =>
    refine matchValue_congr_of_tag fun htag => ?_
    cases v <;> cases htag
    cases o with
    | pattern p => rfl
    | literal u =>
      cases u with
      | int other => rw [matchValue, matchValue, matchInt_of_unsupported h]
      | _ => rfl
  | float =>
    refine matchValue_congr_of_tag fun htag => ?_
    cases v <;> cases htag
    cases o with
    | pattern p => rfl
    | literal u =>
      cases u with
      | float other => rw [matchValue, matchValue, matchFloat_of_unsupported h]
      | _ => rfl
  | list e ih | set e ih =>
    have helements : (fun item => matchValue e item o mode) =
        fun item => matchValue e item o .equals := funext (ih h)
    refine matchValue_congr_of_tag fun htag => ?_
    cases v <;> cases htag
    rw [matchValue, matchValue, helements]

/-! ### Bound filters -/

lemma wantsPatterns_of_unsupported {scalar : Schema} (h : mode.isSupported scalar = false) :
    Filter.wantsPatterns mode scalar = false := by
  rw [Bool.eq_false_iff]
  intro hwants
  obtain ⟨hmode, hscalar⟩ : mode = .regex ∧ scalar = .string := by
    simpa [Filter.wantsPatterns] using hwants
  subst hmode hscalar
  cases h

lemma wantsPatterns_equals (scalar : Schema) : Filter.wantsPatterns .equals scalar = false := rfl

/-- The filter that asks for equality instead. -/
def Filter.byEquality (f : Filter) : Filter := { f with mode := .equals }

def BoundFilter.byEquality (bound : BoundFilter) : BoundFilter :=
  { bound with filter := bound.filter.byEquality }

lemma Filter.bind_byEquality {f : Filter} (h : f.mode.isSupported s.scalar = false) :
    f.byEquality.bind s = (f.bind s).map BoundFilter.byEquality := by
  have hmode : f.byEquality.mode = .equals := rfl
  have hoperands : f.byEquality.operands = f.operands := rfl
  rw [bind_eq, bind_eq, hmode, hoperands, wantsPatterns_equals, wantsPatterns_of_unsupported h]
  by_cases hempty : f.operands.isEmpty = true
  · rw [if_pos hempty, if_pos hempty]
    rfl
  · rw [if_neg hempty, if_neg hempty]
    cases mapOk (bindOperand s.scalar false) f.operands <;> rfl

lemma Filter.mode_schema_of_bind {f : Filter} {bound : BoundFilter} (h : f.bind s = .ok bound) :
    bound.filter.mode = f.mode ∧ bound.schema = s := by
  rw [bind_eq] at h
  split at h
  · cases h
  · obtain ⟨operands, -, rfl⟩ := map_eq_ok_iff.1 h
    exact ⟨rfl, rfl⟩

lemma BoundFilter.accepts_byEquality {bound : BoundFilter}
    (h : bound.filter.mode.isSupported bound.schema.scalar = false) (record : Record) :
    bound.byEquality.accepts record = bound.accepts record := by
  cases hv : record.get? bound.filter.name with
  | none =>
    have hv' : record.get? bound.byEquality.filter.name = none := hv
    rw [accepts_of_none hv, accepts_of_none hv']
  | some v =>
    have hv' : record.get? bound.byEquality.filter.name = some v := hv
    have htest : (matchValue bound.schema v · bound.filter.mode) =
        (matchValue bound.schema v · .equals) := funext (matchValue_of_unsupported h v)
    rw [accepts_of_some hv, accepts_of_some hv', htest]
    rfl

/-- A filter by a mode that the type has not and the filter by equality bind alike, and the two
bound filters answer alike on every record. -/
lemma Filter.bind_of_unsupported {f : Filter} (h : f.mode.isSupported s.scalar = false) :
    SameOutcome (fun b c => ∀ record, b.accepts record = c.accepts record) (f.bind s)
      (f.byEquality.bind s) := by
  rw [bind_byEquality h]
  refine .of_map fun bound hbound record => ?_
  obtain ⟨hmode, hschema⟩ := mode_schema_of_bind hbound
  rw [← hmode, ← hschema] at h
  exact (BoundFilter.accepts_byEquality h record).symm

/-! ### Queries -/

variable {schema : RecordSchema}

lemma filtersAlike_byEquality {f : Filter} (hs : schema.get? f.name = some s)
    (h : f.mode.isSupported s.scalar = false) : FiltersAlike schema [f] [f.byEquality] := by
  have hs' : schema.get? f.byEquality.name = some s := hs
  refine .singleton ?_
  rw [QueryClauses.bindFilter_of_declared hs, QueryClauses.bindFilter_of_declared hs']
  exact Filter.bind_of_unsupported h

/-- The filter with the relation that is asked of the values: equality where the type of the
attribute does not have the mode. -/
def Filter.fallback (schema : RecordSchema) (f : Filter) : Filter :=
  match schema.get? f.name with
  | some s => if f.mode.isSupported s.scalar then f else f.byEquality
  | none => f

lemma filtersAlike_fallback (schema : RecordSchema) (f : Filter) :
    FiltersAlike schema [f] [f.fallback schema] := by
  unfold Filter.fallback
  split
  · next s hs =>
    split
    · exact .refl schema [f]
    · next h => exact filtersAlike_byEquality hs (Bool.not_eq_true _ ▸ h)
  · exact .refl schema [f]

/-- **Modes that types do not have can be left out** of a query: with equality put for every one
of them it builds alike and answers alike. -/
theorem filtersAlike_map_fallback (schema : RecordSchema) (fs : List Filter) :
    FiltersAlike schema fs (fs.map (Filter.fallback schema)) := by
  induction fs with
  | nil => exact .refl schema []
  | cons f fs ih => exact (filtersAlike_fallback schema f).append ih

/-- **A mode that a type does not have is equality** for it. Matching gives the same in the two
modes on all values and operands, errors included. A filter binds alike in the two modes, with the
same error where it fails, and the bound filters give the same answer on every record, of whatever
schema; so a query can have the one filter for the other. -/
theorem unsupported_mode_is_equality {s : Schema} {mode : Mode}
    (h : mode.isSupported s.scalar = false) :
    (∀ v o, matchValue s v o mode = matchValue s v o .equals) ∧
    ∀ name operands all,
      SameOutcome (fun b c => ∀ record, b.accepts record = c.accepts record)
        (Filter.bind ⟨name, operands, mode, all⟩ s)
        (Filter.bind ⟨name, operands, .equals, all⟩ s) ∧
      ∀ (schema : RecordSchema) (before after : List Filter) (sorts : List SortKey),
        schema.get? name = some s →
        SameOutcome Query.SameAnswers
          (QueryClauses.build ⟨before ++ [⟨name, operands, mode, all⟩] ++ after, sorts⟩ schema)
          (QueryClauses.build ⟨before ++ [⟨name, operands, .equals, all⟩] ++ after, sorts⟩
            schema) := by
  refine ⟨matchValue_of_unsupported h, fun name operands all => ⟨?_, ?_⟩⟩
  · exact Filter.bind_of_unsupported (f := ⟨name, operands, mode, all⟩) h
  · intro schema before after sorts hs
    have halike := filtersAlike_byEquality (f := ⟨name, operands, mode, all⟩) hs h
    exact halike.build before after sorts

namespace Sample

/-- The numbers of the caches matched by regular expression, which means nothing for them. -/
def cachesByPattern (operand : Value) : Filter := ⟨"caches", [.literal operand], .regex, false⟩

end Sample

open Sample in
theorem unsupported_mode_is_equality_sample :
    Mode.isSupported (Schema.list (.set .int)).scalar .regex = false ∧
    matchValue (.list (.set .int)) (.list [.set [], .set [.int 1, .int 8]]) (.literal (.int 8))
      .regex = .ok true ∧
    QueryClauses.build ⟨[largeCaches, cachesByPattern (.string "8"), named], [byName]⟩
      serverSchema = .error (.engine (.typeMismatch (.value .int) (.value .string))) := by
  have h : Mode.isSupported (Schema.list (.set .int)).scalar .regex = false := rfl
  obtain ⟨hmatch, hbuild⟩ := unsupported_mode_is_equality h
  obtain ⟨-, hbuild⟩ := hbuild "caches" [.literal (.string "8")] false
  have hequals : QueryClauses.build ⟨[largeCaches] ++
        [⟨"caches", [.literal (.string "8")], .equals, false⟩] ++ [named], [byName]⟩
      serverSchema = .error (.engine (.typeMismatch (.value .int) (.value .string))) := rfl
  refine ⟨h, ?_, ?_⟩
  · rw [hmatch]
    rfl
  · exact ((hbuild serverSchema [largeCaches] [named] [byName] rfl).error_iff _).2 hequals

end RecordQuery
