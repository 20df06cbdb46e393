import RecordQuery.Proofs.Match

/-!
When matching fails, and what it answers when it does not, for every value and operand.

A value that strays from the schema at some depth is an error. Of a value of the schema nothing
but its leaves counts: without leaves it matches nothing, and whatever the operand is, no fault is
found; with leaves, an operand that the mode cannot use is an error, the same one for all values,
and any other operand is asked for a leaf in the relation of the mode.
-/

namespace RecordQuery

variable {s t : Schema} {v w : Value} {o : Operand} {mode : Mode}

/-! ### Values of the schema -/

/-- What a value that conforms to a schema is. -/
inductive Value.Shape : Schema → Value → Prop where
  | string (text : String) : Shape .string (.string text)
  | bool (b : Bool) : Shape .bool (.bool b)
  | int (n : Int64) : Shape .int (.int n)
  | float (x : Binary64) : Shape .float (.float x)
  | list {e : Schema} {items : List Value} (h : ∀ w ∈ items, w.conforms e = true) :
      Shape (.list e) (.list items)
  | set {e : Schema} {items : List Value} (h : ∀ w ∈ items, w.conforms e = true) :
      Shape (.set e) (.set items)

lemma Value.conforms_iff_shape : v.conforms s = true ↔ Shape s v := by
  constructor
  · intro h
    cases s with
    | list e =>
      cases v with
      | list items => exact .list (List.all_eq_true.1 h)
      | _ => cases h
    | set e =>
      cases v with
      | set items => exact .set (List.all_eq_true.1 h)
      | _ => cases h
    | _ => cases v <;> first | constructor | cases h
  · intro h
    cases h with
    | list h | set h => exact List.all_eq_true.2 h
    | _ => rfl

/-! ### Straying from the schema -/

/-- Going down the schema and the value together leads to the other schema and value. -/
inductive Occurs : Schema → Value → Schema → Value → Prop where
  | here (s : Schema) (v : Value) : Occurs s v s v
  | list {e : Schema} {items : List Value} {w : Value} {t : Schema} {u : Value}
      (hw : w ∈ items) (h : Occurs e w t u) : Occurs (.list e) (.list items) t u
  | set {e : Schema} {items : List Value} {w : Value} {t : Schema} {u : Value}
      (hw : w ∈ items) (h : Occurs e w t u) : Occurs (.set e) (.set items) t u

/-- At some depth the value is of another type than the schema says. -/
def Value.Strays (s : Schema) (v : Value) : Prop := ∃ t u, Occurs s v t u ∧ u.tag ≠ t.tag

lemma Occurs.conforms (h : Occurs s v t w) (hv : v.conforms s = true) :
    w.conforms t = true := by
  induction h with
  | here => exact hv
  | list hw _ ih | set hw _ ih => exact ih (List.all_eq_true.1 hv _ hw)

namespace Value

lemma tag_eq_of_not_strays (h : ¬v.Strays s) : v.tag = s.tag :=
  not_not.1 fun hne => h ⟨s, v, .here s v, hne⟩

lemma Strays.list {items : List Value} (h : w.Strays s) (hw : w ∈ items) :
    (Value.list items).Strays (.list s) := by
  obtain ⟨t, u, hoccurs, htag⟩ := h
  exact ⟨t, u, .list hw hoccurs, htag⟩

lemma Strays.set {items : List Value} (h : w.Strays s) (hw : w ∈ items) :
    (Value.set items).Strays (.set s) := by
  obtain ⟨t, u, hoccurs, htag⟩ := h
  exact ⟨t, u, .set hw hoccurs, htag⟩

/-- The check of a value sees every depth. -/
lemma conforms_iff_not_strays : v.conforms s = true ↔ ¬v.Strays s := by
  constructor
  · rintro hv ⟨t, w, hoccurs, htag⟩
    exact htag (tag_eq_of_conforms (hoccurs.conforms hv))
  · intro h
    induction s generalizing v with
    | list e ih =>
      have htag := tag_eq_of_not_strays h
      cases v with
      | list items => exact List.all_eq_true.2 fun w hw => ih fun hw' => h (hw'.list hw)
      | _ => cases htag
    | set e ih =>
      have htag := tag_eq_of_not_strays h
      cases v with
      | set items => exact List.all_eq_true.2 fun w hw => ih fun hw' => h (hw'.set hw)
      | _ => cases htag
    | _ =>
      have htag := tag_eq_of_not_strays h
      cases v <;> first | rfl | cases htag

end Value

/-! ### Relations of modes -/

/-- The relation of a mode between whole numbers; modes of texts ask for equality. -/
def Mode.Relates (a b : Int) : Mode → Prop
  | lessThan => a < b
  | lessThanOrEqual => a ≤ b
  | greaterThan => b < a
  | greaterThanOrEqual => b ≤ a
  | equals | substring | regex => a = b

/-- The relation of a mode between floats. Numbers within the tolerance are equal, but strictly
less and greater numbers are so by any distance; no comparison of magnitude holds of a zero. -/
inductive Mode.RelatesFloats (x y : Binary64) : Mode → Prop where
  | near {mode : Mode} (strict : mode ≠ lessThan ∧ mode ≠ greaterThan)
      (zero : mode.isRelational = true → x.isZero = false) (h : y.near x = true) :
      RelatesFloats x y mode
  | less {mode : Mode} (hmode : mode = lessThan ∨ mode = lessThanOrEqual)
      (zero : x.isZero = false) (h : x.lt y = true) : RelatesFloats x y mode
  | greater {mode : Mode} (hmode : mode = greaterThan ∨ mode = greaterThanOrEqual)
      (zero : x.isZero = false) (h : y.lt x = true) : RelatesFloats x y mode

/-- The scalar stands in the relation of the mode to the operand. -/
inductive Value.Satisfies : Mode → Operand → Value → Prop where
  | matched {p : Pattern} {text : String} (h : p.isMatch text = true) :
      Satisfies .regex (.pattern p) (.string text)
  | contained {before part after text : String} (h : text = before ++ part ++ after) :
      Satisfies .substring (.literal (.string part)) (.string text)
  | folded {mode : Mode} {text other : String} (hmode : mode ≠ .regex ∧ mode ≠ .substring)
      (h : Unicode.foldText text = Unicode.foldText other) :
      Satisfies mode (.literal (.string other)) (.string text)
  | bool (mode : Mode) (b : Bool) : Satisfies mode (.literal (.bool b)) (.bool b)
  | int {mode : Mode} {n other : Int64} (h : mode.Relates n.toInt other.toInt) :
      Satisfies mode (.literal (.int other)) (.int n)
  | float {mode : Mode} {x other : Binary64} (h : mode.RelatesFloats x other) :
      Satisfies mode (.literal (.float other)) (.float x)

lemma Text.containsList_iff_isInfix {part text : List Char} :
    containsList part text = true ↔ part <:+: text := by
  induction text with
  | nil => simp [containsList]
  | cons c rest ih => rw [containsList, Bool.or_eq_true, ih, List.isPrefixOf_iff_prefix,
      List.infix_cons_iff]

lemma Text.contains_iff {text part : String} :
    contains text part = true ↔ ∃ before after : String, text = before ++ part ++ after := by
  rw [contains, containsList_iff_isInfix]
  constructor
  · rintro ⟨before, after, h⟩
    refine ⟨.ofList before, .ofList after, String.toList_inj.1 ?_⟩
    simp [← h]
  · rintro ⟨before, after, rfl⟩
    exact ⟨before.toList, after.toList, by simp⟩

lemma matchInt_iff {n other : Int64} :
    matchInt n other mode = true ↔ mode.Relates n.toInt other.toInt := by
  cases mode <;>
    simp [matchInt, Mode.Relates, Int64.lt_iff_toInt_lt, Int64.le_iff_toInt_le, Int64.toInt_inj]

lemma matchFloat_iff {x other : Binary64} :
    matchFloat x other mode = true ↔ mode.RelatesFloats x other := by
  constructor
  · intro h
    unfold matchFloat at h
    split at h
    · cases h
    · next hzero =>
      have zero : mode.isRelational = true → x.isZero = false := fun hr => by
        simpa [hr] using hzero
      cases mode with
      | lessThan => exact .less (.inl rfl) (zero rfl) h
      | lessThanOrEqual =>
        rcases Bool.or_eq_true_iff.1 h with hlt | hnear
        · exact .less (.inr rfl) (zero rfl) hlt
        · exact .near (by decide) zero hnear
      | greaterThan => exact .greater (.inl rfl) (zero rfl) h
      | greaterThanOrEqual =>
        rcases Bool.or_eq_true_iff.1 h with hlt | hnear
        · exact .greater (.inr rfl) (zero rfl) hlt
        · exact .near (by decide) zero hnear
      | equals | substring | regex => exact .near (by decide) zero h
  · rintro (⟨strict, zero, h⟩ | ⟨hmode, zero, h⟩ | ⟨hmode, zero, h⟩)
    · cases mode <;> simp_all [matchFloat, Mode.isRelational]
    · rcases hmode with rfl | rfl <;> simp [matchFloat, zero, h]
    · rcases hmode with rfl | rfl <;> simp [matchFloat, zero, h]

namespace Value

lemma satisfies_pattern_iff {p : Pattern} {text : String} :
    (string text).Satisfies .regex (.pattern p) ↔ p.isMatch text = true := by
  constructor
  · rintro ⟨h⟩
    exact h
  · exact .matched

lemma satisfies_substring_iff {text part : String} :
    (string text).Satisfies .substring (.literal (.string part)) ↔
      ∃ before after, text = before ++ part ++ after := by
  constructor
  · intro h
    cases h with
    | contained h => exact ⟨_, _, h⟩
    | folded hmode => exact absurd rfl hmode.2
  · rintro ⟨before, after, h⟩
    exact .contained h

lemma satisfies_text_iff {text other : String} (hregex : mode ≠ .regex)
    (hsub : mode ≠ .substring) : (string text).Satisfies mode (.literal (.string other)) ↔
      Unicode.foldText text = Unicode.foldText other := by
  constructor
  · intro h
    cases h with
    | contained => exact absurd rfl hsub
    | folded _ h => exact h
  · exact .folded ⟨hregex, hsub⟩

lemma satisfies_bool_iff {b c : Bool} :
    (bool b).Satisfies mode (.literal (.bool c)) ↔ b = c := by
  constructor
  · rintro ⟨⟩
    rfl
  · rintro rfl
    exact .bool mode b

lemma satisfies_int_iff {n other : Int64} :
    (int n).Satisfies mode (.literal (.int other)) ↔ mode.Relates n.toInt other.toInt := by
  constructor
  · intro h
    cases h with
    | int h => exact h
  · exact .int

lemma satisfies_float_iff {x other : Binary64} :
    (float x).Satisfies mode (.literal (.float other)) ↔ mode.RelatesFloats x other := by
  constructor
  · intro h
    cases h with
    | float h => exact h
  · exact .float

end Value

/-- What matching asks of a leaf, where the mode can use the operand. -/
lemma Operand.holds_iff (ho : o.Admissible s mode) (hw : w.conforms s.scalar = true) :
    o.holds mode w = true ↔ w.Satisfies mode o := by
  cases o with
  | pattern p =>
    obtain ⟨hs, rfl⟩ := ho
    rw [hs] at hw
    cases Value.conforms_iff_shape.1 hw with
    | string text => rw [holds, Value.satisfies_pattern_iff]
  | literal u =>
    obtain ⟨hmode, hu⟩ := ho
    have hscalar := s.isOrderable_scalar
    have hregex : s.scalar = .string → mode ≠ .regex := fun hs h => hmode ⟨hs, h⟩
    -- operand and leaf are of one type, and what that is tells which relation is asked for
    generalize s.scalar = t at hu hw hscalar hregex
    cases Value.conforms_iff_shape.1 hu with
    | string other =>
      cases Value.conforms_iff_shape.1 hw with
      | string text =>
        by_cases hsub : mode = .substring
        · subst hsub
          rw [holds, if_pos rfl, Text.contains_iff, Value.satisfies_substring_iff]
        · rw [holds, if_neg hsub, Unicode.caseless, beq_iff_eq,
            Value.satisfies_text_iff (hregex rfl) hsub]
    | bool c =>
      cases Value.conforms_iff_shape.1 hw with
      | bool b => rw [holds, beq_iff_eq, Value.satisfies_bool_iff]
    | int other =>
      cases Value.conforms_iff_shape.1 hw with
      | int n => rw [holds, matchInt_iff, Value.satisfies_int_iff]
    | float other =>
      cases Value.conforms_iff_shape.1 hw with
      | float x => rw [holds, matchFloat_iff, Value.satisfies_float_iff]
    | list _ | set _ => cases hscalar

/-! ### Operands that the mode cannot use -/

/-- What a mode takes for operands over a schema. -/
def Operand.wanted (s : Schema) (mode : Mode) : TypeName :=
  if s.scalar = .string ∧ mode = .regex then .pattern else .value s.scalar.tag

/-- The error for an operand that a mode cannot use over a schema. -/
def Operand.unusable (s : Schema) (mode : Mode) (o : Operand) : EngineError :=
  .typeMismatch (wanted s mode) o.typeName

lemma matchString_eq_error {text : String} (h : ¬o.Admissible .string mode) :
    matchString text o mode = .error (o.unusable .string mode) := by
  cases o with
  | pattern p => cases mode <;> first | rfl | exact absurd ⟨rfl, rfl⟩ h
  | literal u =>
    cases u <;> cases mode <;>
      first | rfl | exact absurd (by simp [Operand.Admissible, Schema.scalar, Value.conforms]) h

lemma matchValue_of_tag_ne (h : v.tag ≠ s.tag) :
    matchValue s v o mode = .error (.mismatch s.tag v.tag) := by
  cases s <;> cases v <;> first | exact absurd rfl h | simp [matchValue, h]

section Elements

variable {items : List Value} {test : Value → Except EngineError Bool}

lemma exists_matchElements_eq_mismatch (hw : w ∈ items) (h : w.conforms s = false) :
    ∃ actual, matchElements s test items = .error (.mismatch s.tag actual) := by
  unfold matchElements
  cases hfind : items.find? fun item => !item.conforms s with
  | some bad => exact ⟨bad.tag, rfl⟩
  | none => exact absurd h (by simpa using List.find?_eq_none.1 hfind w hw)

lemma Value.leavesAll_eq_nil_iff : leavesAll items = [] ↔ ∀ w ∈ items, w.leaves = [] := by
  rw [leavesAll_eq_flatMap, List.flatMap_eq_nil_iff]

lemma Value.leavesAll_ne_nil_iff : leavesAll items ≠ [] ↔ ∃ w ∈ items, w.leaves ≠ [] := by
  simp [leavesAll_eq_nil_iff]

end Elements

/-- A value that strays from the schema is an error whatever it is matched against. -/
lemma exists_matchValue_eq_mismatch (h : v.conforms s = false) :
    ∃ expected actual, matchValue s v o mode = .error (.mismatch expected actual) := by
  by_cases htag : v.tag = s.tag
  · cases s with
    | list e | set e =>
      cases v <;> cases htag
      obtain ⟨w, hw, hc⟩ := List.all_eq_false.1 h
      rw [matchValue]
      exact ⟨_, exists_matchElements_eq_mismatch hw (Bool.not_eq_true _ ▸ hc)⟩
    | _ =>
      cases v <;> cases htag
      cases h
  · exact ⟨_, _, matchValue_of_tag_ne htag⟩

/-- A value without leaves matches nothing, and no operand is at fault. -/
lemma matchValue_eq_ok_false (hv : v.conforms s = true) (h : v.leaves = []) :
    matchValue s v o mode = .ok false := by
  induction s generalizing v with
  | list e ih | set e ih =>
    cases Value.conforms_iff_shape.1 hv with
    | _ hc =>
      have hitem := fun w hw => ih (hc w hw) (Value.leavesAll_eq_nil_iff.1 h w hw)
      rw [matchValue, matchElements_eq_ok (p := fun _ => false) hc hitem]
      simp
  | _ =>
    cases Value.conforms_iff_shape.1 hv
    cases h

/-- An operand that the mode cannot use is an error on a value with leaves, the same one on all
of them. -/
lemma matchValue_eq_unusable (hv : v.conforms s = true) (hleaf : v.leaves ≠ [])
    (ho : ¬o.Admissible s mode) : matchValue s v o mode = .error (o.unusable s mode) := by
  induction s generalizing v with
  | string =>
    cases Value.conforms_iff_shape.1 hv with
    | string text => rw [matchValue, matchString_eq_error ho]
  | bool | int | float =>
    cases Value.conforms_iff_shape.1 hv
    cases o with
    | pattern p => rfl
    | literal u => cases u <;> first | rfl | exact absurd ⟨by simp [Schema.scalar], rfl⟩ ho
  | list e ih | set e ih =>
    cases Value.conforms_iff_shape.1 hv with
    | _ hc =>
      rw [matchValue, matchElements_of_conforms hc]
      -- elements without leaves say no, and all others fail alike
      refine anyOk_eq_error (fun w hw => ?_) ?_
      · by_cases hne : w.leaves = []
        · exact .inl (matchValue_eq_ok_false (hc w hw) hne)
        · exact .inr (ih (hc w hw) hne ho)
      · obtain ⟨w, hw, hne⟩ := Value.leavesAll_ne_nil_iff.1 hleaf
        refine ⟨w, hw, ?_⟩
        simp [ih (hc w hw) hne ho]

/-! ### The meaning of matching -/

lemma Value.conforms_of_mem_leaves (hv : v.conforms s = true) (hw : w ∈ v.leaves) :
    w.conforms s.scalar = true := by
  induction s generalizing v with
  | list e ih | set e ih =>
    cases conforms_iff_shape.1 hv with
    | _ hc =>
      rw [leaves, leavesAll_eq_flatMap, List.mem_flatMap] at hw
      obtain ⟨u, hu, hmem⟩ := hw
      exact ih (hc u hu) hmem
  | _ =>
    cases conforms_iff_shape.1 hv
    cases List.mem_singleton.1 hw
    exact hv

/-- All that matching can come to. -/
inductive MatchOutcome (s : Schema) (v : Value) (o : Operand) (mode : Mode) :
    Except EngineError Bool → Prop where
  | strayed {expected actual : TypeTag} (hv : v.conforms s = false) :
      MatchOutcome s v o mode (.error (.mismatch expected actual))
  | unusable (hv : v.conforms s = true) (hleaf : v.leaves ≠ []) (ho : ¬o.Admissible s mode) :
      MatchOutcome s v o mode (.error (o.unusable s mode))
  | leafless (hv : v.conforms s = true) (hleaf : v.leaves = []) :
      MatchOutcome s v o mode (.ok false)
  | answered (hv : v.conforms s = true) (hleaf : v.leaves ≠ []) (ho : o.Admissible s mode) :
      MatchOutcome s v o mode (.ok (v.leaves.any (o.holds mode)))

lemma matchOutcome (s : Schema) (v : Value) (o : Operand) (mode : Mode) :
    MatchOutcome s v o mode (matchValue s v o mode) := by
  cases hv : v.conforms s with
  | false =>
    obtain ⟨expected, actual, h⟩ := exists_matchValue_eq_mismatch hv
    exact h ▸ .strayed hv
  | true =>
    by_cases hleaf : v.leaves = []
    · exact matchValue_eq_ok_false hv hleaf ▸ .leafless hv hleaf
    · by_cases ho : o.Admissible s mode
      · exact matchValue_eq_ok hv ho ▸ .answered hv hleaf ho
      · exact matchValue_eq_unusable hv hleaf ho ▸ .unusable hv hleaf ho

/-- Of the leaves of a value of the schema, matching asks for one in the relation of the mode. -/
lemma Value.any_leaves_iff (hv : v.conforms s = true) (ho : o.Admissible s mode) :
    v.leaves.any (o.holds mode) = true ↔ ∃ leaf ∈ v.leaves, leaf.Satisfies mode o := by
  rw [List.any_eq_true]
  constructor
  · rintro ⟨w, hw, h⟩
    exact ⟨w, hw, (Operand.holds_iff ho (conforms_of_mem_leaves hv hw)).1 h⟩
  · rintro ⟨w, hw, h⟩
    exact ⟨w, hw, (Operand.holds_iff ho (conforms_of_mem_leaves hv hw)).2 h⟩

/-- **Where matching fails and what it answers.** It fails on a value that strays from the schema
at any depth, and on an operand that the mode cannot use if the value has a leaf to use it on,
with a mismatch of types both times. Otherwise it answers whether some leaf stands in the relation
of the mode to the operand; so a value of the schema without leaves matches nothing. -/
theorem matchValue_domain (s : Schema) (v : Value) (o : Operand) (mode : Mode) :
    (v.conforms s = true ↔ ¬v.Strays s) ∧
    ((∃ e, matchValue s v o mode = .error e) ↔
      v.Strays s ∨ v.leaves ≠ [] ∧ ¬o.Admissible s mode) ∧
    (∀ e, matchValue s v o mode = .error e →
      ∃ expected actual, e = .typeMismatch expected actual) ∧
    (∀ b, matchValue s v o mode = .ok b → ¬v.Strays s ∧
      (b = true ↔ ∃ leaf ∈ v.leaves, leaf.Satisfies mode o)) ∧
    (¬v.Strays s → v.leaves = [] → matchValue s v o mode = .ok false) := by
  have hstrays : ¬v.Strays s ↔ v.conforms s = true := Value.conforms_iff_not_strays.symm
  have hout := matchOutcome s v o mode
  refine ⟨hstrays.symm, ?_, fun e he => ?_, fun b hb => ?_, fun hv =>
    matchValue_eq_ok_false (hstrays.1 hv)⟩
  · rw [← not_not (a := v.Strays s), hstrays]
    generalize matchValue s v o mode = result at hout
    cases hout with
    | strayed hv => simp [hv]
    | unusable hv hleaf ho => simp [hleaf, ho]
    | leafless hv hleaf => simp [hv, hleaf]
    | answered hv hleaf ho => simp [hv, ho]
  · rw [he] at hout
    cases hout with
    | strayed => exact ⟨_, _, rfl⟩
    | unusable => exact ⟨_, _, rfl⟩
  · rw [hb] at hout
    rw [hstrays]
    cases hout with
    | leafless hv hleaf => exact ⟨hv, by simp [hleaf]⟩
    | answered hv hleaf ho => exact ⟨hv, Value.any_leaves_iff hv ho⟩

end RecordQuery
