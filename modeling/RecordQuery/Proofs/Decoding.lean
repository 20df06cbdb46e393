import RecordQuery.Proofs.Binding
import RecordQuery.Proofs.Rounding

/-!
What decoding gives: records that the schema admits, without a float that is not finite.

`Decodes` says once which values can come out of which trees; what holds of all decoded values is
then an induction on the schema.
-/

namespace RecordQuery

variable {schema : RecordSchema} {s : Schema} {tree : Json} {v : Value}

/-- Decoding a tree under a schema gives the value. -/
inductive Decodes : Schema → Json → Value → Prop where
  | string (text : String) : Decodes .string (.string text) (.string text)
  | bool (b : Bool) : Decodes .bool (.bool b) (.bool b)
  | int {n : Int} {bounds} {i : Int64} (h : Value.int64? n = some i) :
      Decodes .int (.number (.integer n bounds)) (.int i)
  | float (n : Json.Number) : Decodes .float (.number n) (.float (Value.floatOfNumber n))
  | list {e : Schema} {items : List Json} {values : List Value}
      (h : List.Forall₂ (fun t v => decodeValue e t = .ok v) items values) :
      Decodes (.list e) (.array items) (.list values)
  | set {e : Schema} {items : List Json} {values : List Value}
      (h : List.Forall₂ (fun t v => decodeValue e t = .ok v) items values) :
      Decodes (.set e) (.array items) (.set (Value.distinct values))

lemma toOption_eq_some_iff {ε α : Type} {x : Except ε α} {a : α} :
    x.toOption = some a ↔ x = .ok a := by
  cases x <;> simp [Except.toOption]

lemma decodeValue_eq_ok_iff : decodeValue s tree = .ok v ↔ Decodes s tree v := by
  constructor
  · intro h
    cases s with
    | string => cases tree <;> cases h; exact .string _
    | bool => cases tree <;> cases h; exact .bool _
    | int =>
      cases tree with
      | number n =>
        cases n with
        | integer n bounds =>
          simp only [decodeValue] at h
          split at h <;> cases h
          exact .int ‹_›
        | real => cases h
      | _ => cases h
    | float => cases tree <;> cases h; exact .float _
    | list e =>
      cases tree with
      | array items =>
        obtain ⟨values, hmap, rfl⟩ := map_eq_ok_iff.1 h
        exact .list (mapOk_eq_ok_iff.1 hmap)
      | _ => cases h
    | set e =>
      cases tree with
      | array items =>
        obtain ⟨values, hmap, rfl⟩ := map_eq_ok_iff.1 h
        exact .set (mapOk_eq_ok_iff.1 hmap)
      | _ => cases h
  · intro h
    cases h with
    | int h => simp only [decodeValue, h]
    | list h => exact map_eq_ok_iff.2 ⟨_, mapOk_eq_ok_iff.2 h, rfl⟩
    | set h => exact map_eq_ok_iff.2 ⟨_, mapOk_eq_ok_iff.2 h, rfl⟩
    | _ => rfl

/-! ### Decoded values -/

/-- The elements kept so far with one more, unless it equals one of them. -/
def Value.keep (seen : List Value) (v : Value) : List Value :=
  if seen.any (·.eqv v) then seen else seen ++ [v]

lemma Value.mem_or_eq_of_mem_keep {seen : List Value} {w : Value} (h : v ∈ keep seen w) :
    v ∈ seen ∨ v = w := by
  unfold keep at h
  split at h
  · exact .inl h
  · exact (List.mem_append.1 h).imp_right List.mem_singleton.1

lemma Value.mem_of_mem_foldl_keep {items seen : List Value} (h : v ∈ items.foldl keep seen) :
    v ∈ seen ∨ v ∈ items := by
  induction items generalizing seen with
  | nil => exact .inl h
  | cons w items ih =>
    rcases ih h with hkeep | hrest
    · rcases mem_or_eq_of_mem_keep hkeep with hseen | rfl
      · exact .inl hseen
      · exact .inr List.mem_cons_self
    · exact .inr (List.mem_cons_of_mem _ hrest)

/-- A set keeps nothing but its elements. -/
lemma Value.mem_of_mem_distinct {items : List Value} (h : v ∈ distinct items) : v ∈ items :=
  (mem_of_mem_foldl_keep h).resolve_left List.not_mem_nil

/-- No float in the value, at any depth, is an infinity or a NaN. -/
def Value.Finite (v : Value) : Prop := ∀ x, .float x ∈ v.leaves → x.isFinite = true

lemma Value.finite_list_iff {items : List Value} :
    (Value.list items).Finite ↔ ∀ w ∈ items, w.Finite := forall_float_leavesAll_iff

lemma Value.finite_set_iff {items : List Value} :
    (Value.set items).Finite ↔ ∀ w ∈ items, w.Finite := forall_float_leavesAll_iff

lemma Value.isFinite_floatOfNumber (n : Json.Number) : (floatOfNumber n).isFinite = true := by
  cases n with
  | integer n bounds => exact Binary64.ofInt_isFinite (by omega)
  | real x finite => exact finite

/-- What holds of decoded scalars and passes from elements to lists and sets holds of every
decoded value. -/
lemma decodeValue_induction {P : Schema → Value → Prop}
    (string : ∀ text, P .string (.string text)) (bool : ∀ b, P .bool (.bool b))
    (int : ∀ n, P .int (.int n)) (float : ∀ x, x.isFinite = true → P .float (.float x))
    (list : ∀ e values, (∀ w ∈ values, P e w) → P (.list e) (.list values))
    (set : ∀ e values, (∀ w ∈ values, P e w) → P (.set e) (.set (Value.distinct values)))
    (h : decodeValue s tree = .ok v) : P s v := by
  induction s generalizing tree v with
  | list e ih =>
    cases decodeValue_eq_ok_iff.1 h with
    | list hall =>
      refine list e _ fun w hw => ?_
      obtain ⟨t, -, ht⟩ := exists_of_mem_mapOk (mapOk_eq_ok_iff.2 hall) hw
      exact ih ht
  | set e ih =>
    cases decodeValue_eq_ok_iff.1 h with
    | set hall =>
      refine set e _ fun w hw => ?_
      obtain ⟨t, -, ht⟩ := exists_of_mem_mapOk (mapOk_eq_ok_iff.2 hall) hw
      exact ih ht
  | string =>
    cases decodeValue_eq_ok_iff.1 h
    exact string _
  | bool =>
    cases decodeValue_eq_ok_iff.1 h
    exact bool _
  | int =>
    cases decodeValue_eq_ok_iff.1 h
    exact int _
  | float =>
    cases decodeValue_eq_ok_iff.1 h
    exact float _ (Value.isFinite_floatOfNumber _)

/-- **Decoded values are of the schema.** -/
lemma decodeValue_conforms (h : decodeValue s tree = .ok v) : v.conforms s = true := by
  refine decodeValue_induction (P := fun s v => v.conforms s = true) ?string ?bool ?int ?float ?list ?set h
  case list => exact fun e values hall => List.all_eq_true.2 hall
  case set =>
    intro e values hall
    exact List.all_eq_true.2 fun w hw => hall w (Value.mem_of_mem_distinct hw)
  all_goals
    intros
    rfl

lemma decodeValue_finite (h : decodeValue s tree = .ok v) : v.Finite := by
  refine decodeValue_induction (P := fun _ v => v.Finite) ?string ?bool ?int ?float ?list ?set h
  case float =>
    intro x hfin y hy
    cases List.mem_singleton.1 hy
    exact hfin
  case list => exact fun e values => Value.finite_list_iff.2
  case set =>
    intro e values hall
    exact Value.finite_set_iff.2 fun w hw => hall w (Value.mem_of_mem_distinct hw)
  all_goals simp [Value.Finite, Value.leaves]

/-! ### Decoded records -/

namespace RecordSchema

variable {record out : Record} {name : String} {fields : List (String × Json)}

/-- What becomes of one field: null is left out. -/
def decodeField (schema : RecordSchema) (field : String × Json) :
    Except QueryError (Option Value) :=
  match schema.require field.1 with
  | .error e => .error e
  | .ok s =>
    match field.2 with
    | .null => .ok none
    | tree =>
      match decodeValue s tree with
      | .error e => .error (.undecodable field.1 e)
      | .ok v => .ok (some v)

lemma decodeField_of_declared (h : schema.get? name = some s) (hnull : tree ≠ .null) :
    schema.decodeField (name, tree) =
      match decodeValue s tree with
      | .error e => .error (.undecodable name e)
      | .ok v => .ok (some v) := by
  rw [decodeField, require_eq_ok_iff.2 h]
  cases tree with
  | null => exact absurd rfl hnull
  | _ => rfl

lemma decodeField_null (h : schema.get? name = some s) :
    schema.decodeField (name, .null) = .ok none := by
  rw [decodeField, require_eq_ok_iff.2 h]

lemma decodeField_of_undeclared (h : schema.get? name = none) :
    schema.decodeField (name, tree) = .error (.unknownAttribute name) := by
  rw [decodeField, require_of_none h]

lemma decodeFields_cons (record : Record) (field : String × Json)
    (rest : List (String × Json)) :
    schema.decodeFields record (field :: rest) =
      match schema.decodeField field with
      | .error e => .error e
      | .ok none => schema.decodeFields record rest
      | .ok (some v) => schema.decodeFields (record.insert field.1 v) rest := by
  obtain ⟨name, tree⟩ := field
  simp only [decodeFields, decodeField]
  cases schema.require name with
  | error e => rfl
  | ok s =>
    cases hdec : decodeValue s tree with
    | error e | ok v => cases tree <;> simp only [hdec]

lemma decodeField_eq_ok_some_iff :
    schema.decodeField (name, tree) = .ok (some v) ↔
      ∃ s, schema.get? name = some s ∧ decodeValue s tree = .ok v := by
  cases hs : schema.get? name with
  | none => simp [decodeField_of_undeclared hs]
  | some s =>
    by_cases hnull : tree = .null
    · subst hnull
      rw [decodeField_null hs]
      cases s <;> simp [decodeValue]
    · rw [decodeField_of_declared hs hnull]
      simp only [Option.some.injEq, exists_eq_left']
      cases decodeValue s tree <;> simp

/-- A decoded record has what its fields give, and elsewhere what it had before. -/
lemma get?_of_decodeFields (hsorted : fields.Pairwise fun a b => a.1 < b.1)
    (h : schema.decodeFields record fields = .ok out) (name : String) :
    out.get? name = ((fields.lookup name).bind fun tree =>
      (schema.decodeField (name, tree)).toOption.join).or (record.get? name) := by
  induction fields generalizing record with
  | nil =>
    cases h
    rfl
  | cons field rest ih =>
    obtain ⟨key, tree⟩ := field
    obtain ⟨hlt, hrest⟩ := List.pairwise_cons.1 hsorted
    rw [decodeFields_cons] at h
    by_cases hname : name = key
    · subst hname
      -- the name does not come again
      have hnone : rest.lookup name = none := List.lookup_eq_none_iff.2 fun field hmem =>
        bne_iff_ne.2 fun heq => String.lt_irrefl name (heq ▸ hlt field hmem)
      split at h
      · cases h
      · next hdec => simp [ih hrest h, hnone, hdec, Except.toOption]
      · next hdec => simp [ih hrest h, hnone, hdec, Except.toOption, NameMap.get?_insert]
    · have hne : (name == key) = false := by simpa using hname
      rw [List.lookup_cons, hne]
      split at h
      · cases h
      · exact ih hrest h
      · rw [ih hrest h, NameMap.get?_insert, if_neg hname]

lemma get?_of_decodeRecord (h : schema.decodeRecord (.object fields) = .ok record) :
    record.get? name = some v ↔ ∃ s, schema.get? name = some s ∧
      ∃ t, (NameMap.ofList fields).get? name = some t ∧ decodeValue s t = .ok v := by
  rw [get?_of_decodeFields (NameMap.ofList fields).sorted h, NameMap.get?_empty, Option.or_none]
  change ((NameMap.ofList fields).get? name).bind _ = some v ↔ _
  cases (NameMap.ofList fields).get? name with
  | none => simp
  | some t =>
    rw [Option.bind_some, Option.join_eq_some_iff, toOption_eq_some_iff, decodeField_eq_ok_some_iff]
    simp

/-- What a decoded record holds was decoded under the declared type. -/
lemma exists_decodeValue (h : schema.decodeRecord tree = .ok record)
    (hv : record.get? name = some v) : ∃ s, schema.get? name = some s ∧
      ∃ t, decodeValue s t = .ok v := by
  cases tree with
  | object fields =>
    obtain ⟨s, hs, t, -, hdec⟩ := (get?_of_decodeRecord h).1 hv
    exact ⟨s, hs, t, hdec⟩
  | _ => cases h

/-- **Decoded records are admitted.** -/
lemma admits_of_decodeRecord (h : schema.decodeRecord tree = .ok record) :
    schema.Admits record := by
  intro name v hv
  obtain ⟨s, hs, t, hdec⟩ := exists_decodeValue h hv
  exact ⟨s, hs, decodeValue_conforms hdec⟩

lemma finite_of_decodeRecord (h : schema.decodeRecord tree = .ok record)
    (hv : record.get? name = some v) : v.Finite := by
  obtain ⟨s, -, t, hdec⟩ := exists_decodeValue h hv
  exact decodeValue_finite hdec

end RecordSchema

end RecordQuery
