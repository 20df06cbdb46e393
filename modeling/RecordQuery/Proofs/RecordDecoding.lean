import RecordQuery.Proofs.ByteOrder
import RecordQuery.Proofs.DecodeDomain
import RecordQuery.Proofs.Soundness

/-!
Which objects decode to records, what those records are, and what is wrong with the other objects.

A record has the attributes that the object gives with another value than null, each decoded under
its declared type. So what holds of all decoded values holds of all that records hold: they are of
their types, all their floats are finite, and no set in them, at any depth, has two elements that
are equal. The fields are gone through in the order of their names, and the first that is not
declared or does not decode tells what is wrong with the object.
-/

namespace RecordQuery

variable {s : Schema} {tree : Json} {u v w : Value}

/-! ### Sets at any depth -/

/-- The value is the other one or lies in it, at any depth. -/
inductive Value.Within (u : Value) : Value → Prop where
  | here : Within u u
  | list {items : List Value} {w : Value} (hw : w ∈ items) (h : Within u w) :
      Within u (.list items)
  | set {items : List Value} {w : Value} (hw : w ∈ items) (h : Within u w) :
      Within u (.set items)

/-- No set in the value, at any depth, has two equal elements. -/
def Value.DuplicateFree (v : Value) : Prop :=
  ∀ items, (Value.set items).Within v → PairwiseUnequal items

lemma decodeValue_duplicateFree (h : decodeValue s tree = .ok v) : v.DuplicateFree := by
  refine decodeValue_induction (P := fun _ v => v.DuplicateFree) ?string ?bool ?int ?float ?list
    ?set h
  case list =>
    intro e values hall items hwithin
    cases hwithin with
    | list hw h => exact hall _ hw items h
  case set =>
    intro e values hall items hwithin
    cases hwithin with
    | here => exact Value.pairwiseUnequal_distinct values
    | set hw h => exact hall _ (Value.mem_of_mem_distinct hw) items h
  all_goals
    intros
    rintro items ⟨⟩

/-- Decoded scalars can be put in order. -/
lemma checkOrderable_of_decodeValue (hs : s.isOrderable = true) (h : decodeValue s tree = .ok v) :
    checkOrderable s v = .ok () := by
  refine (checkOrderable_eq_ok_iff hs (decodeValue_conforms h)).2 ?_
  rintro ⟨x, rfl, hnan⟩
  have hfin : x.isFinite = true := decodeValue_finite h x (by simp [Value.leaves])
  rw [Binary64.isNaN_eq_false_of_isFinite hfin] at hnan
  cases hnan

/-! ### Fields of objects -/

/-- What an object has under a name: the last field of that name. -/
def Json.field? (fields : List (String × Json)) (name : String) : Option Json :=
  fields.reverse.lookup name

lemma NameMap.ofList_concat {α : Type} (entries : List (String × α)) (entry : String × α) :
    ofList (entries ++ [entry]) = (ofList entries).insert entry.1 entry.2 :=
  List.foldl_append

lemma NameMap.get?_ofList {α : Type} (entries : List (String × α)) (name : String) :
    (NameMap.ofList entries).get? name = entries.reverse.lookup name := by
  induction entries using List.reverseRecOn with
  | nil => rfl
  | append_singleton entries entry ih =>
    rw [ofList_concat, get?_insert, ih, List.reverse_concat, List.lookup_cons]
    by_cases h : name = entry.1
    · simp [h]
    · have hne : (name == entry.1) = false := by simpa using h
      rw [if_neg h, hne]

namespace RecordSchema

variable {schema : RecordSchema} {record : Record} {name : String}
  {fields : List (String × Json)} {e : QueryError}

/-- What can be wrong with a field: it is not declared, or it is not null and does not decode. -/
inductive FieldFault (schema : RecordSchema) (name : String) (tree : Json) : QueryError → Prop where
  | undeclared (h : schema.get? name = none) : FieldFault schema name tree (.unknownAttribute name)
  | undecodable {s : Schema} {e : EngineError} (declared : schema.get? name = some s)
      (present : tree ≠ .null) (h : decodeValue s tree = .error e) :
      FieldFault schema name tree (.undecodable name e)

/-- The field is declared, and is null or decodes. -/
def FieldFits (schema : RecordSchema) (name : String) (tree : Json) : Prop :=
  ∃ s, schema.get? name = some s ∧ (tree ≠ .null → ∃ v, decodeValue s tree = .ok v)

lemma decodeField_eq_error_iff :
    schema.decodeField (name, tree) = .error e ↔ schema.FieldFault name tree e := by
  constructor
  · intro h
    cases hs : schema.get? name with
    | none =>
      rw [decodeField_of_undeclared hs] at h
      cases h
      exact .undeclared hs
    | some s =>
      by_cases hnull : tree = .null
      · rw [hnull, decodeField_null hs] at h
        cases h
      · rw [decodeField_of_declared hs hnull] at h
        cases hdec : decodeValue s tree with
        | ok v => simp [hdec] at h
        | error e =>
          simp only [hdec, Except.error.injEq] at h
          exact h ▸ .undecodable hs hnull hdec
  · intro h
    cases h with
    | undeclared hs => exact decodeField_of_undeclared hs
    | undecodable hs hnull hdec => rw [decodeField_of_declared hs hnull, hdec]

lemma exists_decodeField_eq_ok_iff :
    (∃ b, schema.decodeField (name, tree) = .ok b) ↔ schema.FieldFits name tree := by
  constructor
  · rintro ⟨b, h⟩
    cases hs : schema.get? name with
    | none => simp [decodeField_of_undeclared hs] at h
    | some s =>
      refine ⟨s, hs, fun hnull => ?_⟩
      rw [decodeField_of_declared hs hnull] at h
      cases hdec : decodeValue s tree with
      | ok v => exact ⟨v, rfl⟩
      | error e => simp [hdec] at h
  · rintro ⟨s, hs, hfits⟩
    by_cases hnull : tree = .null
    · exact ⟨none, hnull ▸ decodeField_null hs⟩
    · obtain ⟨v, hdec⟩ := hfits hnull
      exact ⟨some v, by rw [decodeField_of_declared hs hnull, hdec]⟩

/-! ### The walk over the fields -/

lemma exists_decodeFields_eq_ok_iff :
    (∃ out, schema.decodeFields record fields = .ok out) ↔ Faultless schema.decodeField fields := by
  induction fields generalizing record with
  | nil => simp [decodeFields]
  | cons field rest ih =>
    rw [decodeFields_cons, faultless_cons]
    cases schema.decodeField field with
    | error e => simp
    | ok b => cases b <;> simp [ih]

lemma decodeFields_eq_error_iff :
    schema.decodeFields record fields = .error e ↔ FirstFault schema.decodeField fields e := by
  induction fields generalizing record with
  | nil => simp [decodeFields]
  | cons field rest ih =>
    rw [decodeFields_cons, firstFault_cons]
    cases schema.decodeField field with
    | error e => simp
    | ok b => cases b <;> simp [ih]

/-- The fault of the field whose name comes first, read byte by byte. -/
def FirstFieldFault (schema : RecordSchema) (fields : List (String × Json)) (e : QueryError) :
    Prop :=
  ∃ name tree, Json.field? fields name = some tree ∧ schema.FieldFault name tree e ∧
    ∀ other tree' e', Json.field? fields other = some tree' →
      schema.FieldFault other tree' e' → Text.bytes name ≤ Text.bytes other

lemma decodeRecord_eq_error_iff :
    schema.decodeRecord (.object fields) = .error e ↔ schema.FirstFieldFault fields e := by
  rw [decodeRecord, decodeFields_eq_error_iff, NameMap.firstFault_entries_iff]
  simp only [decodeField_eq_error_iff, NameMap.get?_ofList, ← Text.le_iff_bytes_le,
    FirstFieldFault, Json.field?]

lemma exists_decodeRecord_eq_ok_iff :
    (∃ r, schema.decodeRecord (.object fields) = .ok r) ↔
      ∀ name tree, Json.field? fields name = some tree → schema.FieldFits name tree := by
  rw [decodeRecord, exists_decodeFields_eq_ok_iff]
  simp only [Faultless, Prod.forall, exists_decodeField_eq_ok_iff, ← NameMap.get?_eq_some_iff,
    NameMap.get?_ofList, Json.field?]

/-! ### Decoded records -/

/-- The record has what the object gives with another value than null, decoded under the declared
types. -/
structure DecodesAs (schema : RecordSchema) (fields : List (String × Json)) (record : Record) :
    Prop where
  present : ∀ name, (∃ v, record.get? name = some v) ↔
    ∃ tree, Json.field? fields name = some tree ∧ tree ≠ .null
  decoded : ∀ name v, record.get? name = some v → ∃ s tree, schema.get? name = some s ∧
    Json.field? fields name = some tree ∧ decodeValue s tree = .ok v

/-- What later stages rely on: the record validates, its floats are finite and its sets without
equal elements at any depth, and its scalars can be put in order. -/
structure WellMade (schema : RecordSchema) (record : Record) : Prop where
  valid : schema.validateRecord record = .ok ()
  finite : ∀ name v, record.get? name = some v → v.Finite
  duplicateFree : ∀ name v, record.get? name = some v → v.DuplicateFree
  orderable : ∀ name v s, record.get? name = some v → schema.get? name = some s →
    s.isOrderable = true → checkOrderable s v = .ok ()

lemma get?_eq_some_iff_of_decodeRecord (h : schema.decodeRecord (.object fields) = .ok record) :
    record.get? name = some v ↔ ∃ s tree, schema.get? name = some s ∧
      Json.field? fields name = some tree ∧ decodeValue s tree = .ok v := by
  simp only [get?_of_decodeRecord h, NameMap.get?_ofList, Json.field?, exists_and_left]

lemma decodesAs_of_decodeRecord (h : schema.decodeRecord (.object fields) = .ok record) :
    schema.DecodesAs fields record := by
  refine ⟨fun name => ⟨?_, ?_⟩, fun name v => (get?_eq_some_iff_of_decodeRecord h).1⟩
  · rintro ⟨v, hv⟩
    obtain ⟨s, tree, -, htree, hdec⟩ := (get?_eq_some_iff_of_decodeRecord h).1 hv
    refine ⟨tree, htree, ?_⟩
    rintro rfl
    exact Json.not_fits_null s (exists_decodeValue_eq_ok_iff.1 ⟨v, hdec⟩)
  · rintro ⟨tree, htree, hnull⟩
    obtain ⟨s, hs, hfits⟩ := exists_decodeRecord_eq_ok_iff.1 ⟨record, h⟩ name tree htree
    obtain ⟨v, hdec⟩ := hfits hnull
    exact ⟨v, (get?_eq_some_iff_of_decodeRecord h).2 ⟨s, tree, hs, htree, hdec⟩⟩

lemma wellMade_of_decodeRecord (h : schema.decodeRecord tree = .ok record) :
    schema.WellMade record where
  valid := validateRecord_eq_ok_iff.2 (admits_of_decodeRecord h)
  finite _ _ hv := finite_of_decodeRecord h hv
  duplicateFree _ _ hv := by
    obtain ⟨s, -, t, hdec⟩ := exists_decodeValue h hv
    exact decodeValue_duplicateFree hdec
  orderable name v s hv hs hord := by
    obtain ⟨s', hs', t, hdec⟩ := exists_decodeValue h hv
    obtain rfl : s = s' := Option.some.inj (hs.symm.trans hs')
    exact checkOrderable_of_decodeValue hord hdec

/-- **Decoding a record.** Only objects decode. What comes out has the attributes that the object
gives with another value than null, each decoded under its declared type, and it validates; its
floats are finite, its sets hold no two equal elements, and its scalars can be put in order. An
object decodes exactly if all its names are declared and all its values but null decode, and
otherwise the error is that of the faulty name that comes first. -/
theorem decodeRecord_domain (schema : RecordSchema) (tree : Json) :
    (∀ record, schema.decodeRecord tree = .ok record → ∃ fields, tree = .object fields ∧
      schema.DecodesAs fields record ∧ schema.WellMade record) ∧
    (∀ fields, (∃ record, schema.decodeRecord (.object fields) = .ok record) ↔
      ∀ name t, Json.field? fields name = some t → schema.FieldFits name t) ∧
    (∀ fields e, schema.decodeRecord (.object fields) = .error e ↔
      schema.FirstFieldFault fields e) ∧
    ((∀ fields, tree ≠ .object fields) → schema.decodeRecord tree =
      .error (.undecodable "<record>" (.typeMismatch .object (.document tree.kind)))) := by
  refine ⟨fun record h => ?_, fun fields => exists_decodeRecord_eq_ok_iff,
    fun fields e => decodeRecord_eq_error_iff, fun hno => ?_⟩
  · cases tree with
    | object fields => exact ⟨fields, rfl, decodesAs_of_decodeRecord h, wellMade_of_decodeRecord h⟩
    | _ => cases h
  · cases tree with
    | object fields => exact absurd rfl (hno fields)
    | _ => rfl

end RecordSchema

end RecordQuery
