import RecordQuery.Proofs.TolerantOrder
import RecordQuery.Proofs.ZeroErasure

/-!
Modes that compare magnitudes are monotone.

What is less than an operand stays so when it falls or the operand rises, and the same holds of
less or nearly equal: where the order stops to hold, nearness takes over without a gap, because it
is convex. A float zero is left out, since no comparison holds of it. So among records in the
order of an attribute those that a filter on it picks out stand together at one end.
-/

namespace RecordQuery

open StableSort

/-! ### Floats -/

namespace Binary64

variable {x y z : Binary64}

lemma lt_of_le_left (hxy : x.le y = true) (h : y.lt z = true) : x.lt z = true := by
  obtain ⟨hx, hy, hle⟩ := le_iff.1 hxy
  simp only [lt, Bool.and_eq_true, Bool.not_eq_true', decide_eq_true_eq] at h ⊢
  exact ⟨⟨hx, h.1.2⟩, Int.lt_of_le_of_lt hle h.2⟩

lemma lt_of_le_right (h : x.lt y = true) (hyz : y.le z = true) : x.lt z = true := by
  obtain ⟨hy, hz, hle⟩ := le_iff.1 hyz
  simp only [lt, Bool.and_eq_true, Bool.not_eq_true', decide_eq_true_eq] at h ⊢
  exact ⟨⟨h.1.1, hz⟩, Int.lt_of_lt_of_le h.2 hle⟩

lemma LtOrNear.of_le_left (hxy : x.le y = true) (h : y.LtOrNear z) : x.LtOrNear z := by
  rcases h with hlt | hnear
  · exact .inl (lt_of_le_left hxy hlt)
  · obtain ⟨hx, -, hle⟩ := le_iff.1 hxy
    have hz : z.isNaN = false :=
      isNaN_eq_false_of_isFinite (isFinite_of_near (near_comm y z ▸ hnear))
    rcases Int.lt_or_le x.key z.key with hlt | hge
    · exact .inl ((lt_iff hx hz).2 hlt)
    · -- the smaller number is still above the third one, so between the two near ones
      rw [near_comm] at hnear
      exact .inr (near_comm z x ▸ (near_of_between hnear hge hle).1)

lemma LtOrNear.of_le_right (h : x.LtOrNear y) (hyz : y.le z = true) : x.LtOrNear z := by
  rcases h with hlt | hnear
  · exact .inl (lt_of_le_right hlt hyz)
  · obtain ⟨-, hz, hle⟩ := le_iff.1 hyz
    have hx : x.isNaN = false := isNaN_eq_false_of_isFinite (isFinite_of_near hnear)
    rcases Int.lt_or_le x.key z.key with hlt | hge
    · exact .inl ((lt_iff hx hz).2 hlt)
    · rw [near_comm] at hnear
      exact .inr (near_comm z x ▸ (near_of_between hnear hle hge).2)

end Binary64

/-! ### Numbers and modes -/

/-- Less than or equal in number; only integers and floats that are no NaN are. -/
inductive Value.AtMost : Value → Value → Prop where
  | int {m n : Int64} (h : m ≤ n) : AtMost (.int m) (.int n)
  | float {x y : Binary64} (h : x.le y = true) : AtMost (.float x) (.float y)

namespace Mode

/-- The modes that ask for less. -/
def IsLess (mode : Mode) : Prop := mode = .lessThan ∨ mode = .lessThanOrEqual

/-- The modes that ask for more. -/
def IsGreater (mode : Mode) : Prop := mode = .greaterThan ∨ mode = .greaterThanOrEqual

/-- The first number is at least as far as the second in the direction that the mode asks for. -/
inductive Favours (mode : Mode) : Value → Value → Prop where
  | int {m n : Int64} (h : mode.IsLess ∧ m ≤ n ∨ mode.IsGreater ∧ n ≤ m) :
      Favours mode (.int m) (.int n)
  | float {x y : Binary64} (h : mode.IsLess ∧ x.le y = true ∨ mode.IsGreater ∧ y.le x = true) :
      Favours mode (.float x) (.float y)

end Mode

variable {s : Schema} {v w u : Value} {o : Operand} {mode : Mode}

lemma Mode.isRelational_iff : mode.isRelational = true ↔ mode.IsLess ∨ mode.IsGreater := by
  cases mode <;> simp [isRelational, IsLess, IsGreater]

lemma Mode.IsLess.favours (hmode : mode.IsLess) (h : v.AtMost w) : mode.Favours v w := by
  cases h with
  | int h => exact .int (.inl ⟨hmode, h⟩)
  | float h => exact .float (.inl ⟨hmode, h⟩)

lemma Mode.IsGreater.favours (hmode : mode.IsGreater) (h : v.AtMost w) : mode.Favours w v := by
  cases h with
  | int h => exact .int (.inr ⟨hmode, h⟩)
  | float h => exact .float (.inr ⟨hmode, h⟩)

lemma matchInt_of_favours {m n : Int64} (h : mode.IsLess ∧ m ≤ n ∨ mode.IsGreater ∧ n ≤ m) :
    (∀ k, matchInt n k mode = true → matchInt m k mode = true) ∧
    ∀ k, matchInt k m mode = true → matchInt k n mode = true := by
  simp only [matchInt_iff, Int64.le_iff_toInt_le] at h ⊢
  rcases h with ⟨rfl | rfl, h⟩ | ⟨rfl | rfl, h⟩ <;>
    exact ⟨fun k hk => by unfold Mode.Relates at hk ⊢; omega,
      fun k hk => by unfold Mode.Relates at hk ⊢; omega⟩

/-- The value may move as the mode favours while it does not become a zero; the operand may move
the other way. -/
lemma matchFloat_of_favours {x y : Binary64}
    (h : mode.IsLess ∧ x.le y = true ∨ mode.IsGreater ∧ y.le x = true) :
    (∀ z, x.isZero = false → matchFloat y z mode = true → matchFloat x z mode = true) ∧
    ∀ z, matchFloat z x mode = true → matchFloat z y mode = true := by
  rcases h with ⟨rfl | rfl, h⟩ | ⟨rfl | rfl, h⟩
  · simp only [matchFloat_lessThan_iff]
    exact ⟨fun z hzero hy => ⟨hzero, Binary64.lt_of_le_left h hy.2⟩,
      fun z hz => ⟨hz.1, Binary64.lt_of_le_right hz.2 h⟩⟩
  · simp only [matchFloat_lessThanOrEqual_iff]
    exact ⟨fun z hzero hy => ⟨hzero, hy.2.of_le_left h⟩, fun z hz => ⟨hz.1, hz.2.of_le_right h⟩⟩
  · simp only [matchFloat_greaterThan_iff]
    exact ⟨fun z hzero hy => ⟨hzero, Binary64.lt_of_le_right hy.2 h⟩,
      fun z hz => ⟨hz.1, Binary64.lt_of_le_left h hz.2⟩⟩
  · simp only [matchFloat_greaterThanOrEqual_iff]
    exact ⟨fun z hzero hy => ⟨hzero, hy.2.of_le_right h⟩, fun z hz => ⟨hz.1, hz.2.of_le_left h⟩⟩

namespace Mode.Favours

lemma leaves_left (h : mode.Favours v w) : v.leaves = [v] := by
  cases h <;> rfl

lemma leaves_right (h : mode.Favours v w) : w.leaves = [w] := by
  cases h <;> rfl

lemma conforms_eq (h : mode.Favours v w) (s : Schema) : v.conforms s = w.conforms s := by
  cases h <;> cases s <;> rfl

/-- A value favoured over one that matches matches too, unless it is a float zero. -/
lemma holds_left (h : mode.Favours v w) (hzero : v.isZero = false)
    (hw : o.holds mode w = true) : o.holds mode v = true := by
  cases h with
  | int h =>
    cases o with
    | pattern p => cases hw
    | literal u =>
      cases u with
      | int k => exact (matchInt_of_favours h).1 k hw
      | _ => cases hw
  | float h =>
    cases o with
    | pattern p => cases hw
    | literal u =>
      cases u with
      | float z => exact (matchFloat_of_favours h).1 z hzero hw
      | _ => cases hw

/-- What matches an operand matches those that it is favoured over. -/
lemma holds_right (h : mode.Favours v w) (hu : (Operand.literal v).holds mode u = true) :
    (Operand.literal w).holds mode u = true := by
  cases h with
  | int h =>
    cases u with
    | int k => exact (matchInt_of_favours h).2 k hu
    | _ => cases hu
  | float h =>
    cases u with
    | float z => exact (matchFloat_of_favours h).2 z hu
    | _ => cases hu

end Mode.Favours

/-! ### Matching -/

lemma matchValue_eq_ok_true_iff : matchValue s v o mode = .ok true ↔
    v.conforms s = true ∧ o.Admissible s mode ∧ v.leaves.any (o.holds mode) = true := by
  constructor
  · intro h
    have hout := matchOutcome s v o mode
    generalize hresult : matchValue s v o mode = result at hout
    cases hout with
    | answered hv hleaf ho => exact ⟨hv, ho, by simpa [h] using hresult.symm⟩
    | _ => simp [h] at hresult
  · rintro ⟨hv, ho, hany⟩
    rw [matchValue_eq_ok hv ho, hany]

lemma matchValue_left_of_favours (h : mode.Favours v w) (hzero : v.isZero = false)
    (hw : matchValue s w o mode = .ok true) : matchValue s v o mode = .ok true := by
  rw [matchValue_eq_ok_true_iff] at hw ⊢
  rw [h.leaves_right] at hw
  rw [h.leaves_left, h.conforms_eq]
  refine ⟨hw.1, hw.2.1, ?_⟩
  simpa using h.holds_left hzero (by simpa using hw.2.2)

lemma matchValue_right_of_favours (h : mode.Favours v w)
    (hu : matchValue s u (.literal v) mode = .ok true) :
    matchValue s u (.literal w) mode = .ok true := by
  rw [matchValue_eq_ok_true_iff] at hu ⊢
  obtain ⟨hconf, ⟨hmode, hv⟩, hany⟩ := hu
  obtain ⟨leaf, hleaf, hholds⟩ := List.any_eq_true.1 hany
  exact ⟨hconf, ⟨hmode, h.conforms_eq _ ▸ hv⟩,
    List.any_eq_true.2 ⟨leaf, hleaf, h.holds_right hholds⟩⟩

/-! ### Records in order -/

/-- The record has a number of the schema under the name, neither a NaN nor a float zero. -/
def Record.HasMagnitude (name : String) (s : Schema) (r : Record) : Prop :=
  ∃ v, r.get? name = some v ∧ v.Orderable s ∧ v.isZero = false

/-- In the direction, what the mode asks for comes first. -/
def Mode.ComesFirst (mode : Mode) (d : Direction) : Prop :=
  d = .asc ∧ mode.IsLess ∨ d = .desc ∧ mode.IsGreater

lemma Value.atMost_of_sortOrder (hs : s = .int ∨ s = .float) (hv : v.Orderable s)
    (hw : w.Orderable s) (h : (sortOrder v w).isLE = true) : v.AtMost w := by
  rcases hs with rfl | rfl
  · cases Value.conforms_iff_shape.1 hv.conforms with
    | int m =>
      cases Value.conforms_iff_shape.1 hw.conforms with
      | int n => exact .int (Int64.le_iff_toInt_le.2 (Int.isLE_compare.1 h))
  · obtain ⟨x, rfl, hx⟩ := hv.exists_float
    obtain ⟨y, rfl, hy⟩ := hw.exists_float
    exact .float (Binary64.le_of_compareTotal hx hy h)

/-- Of two numbers in the order of a direction the mode favours the first, if what it asks for
comes first, and else the second. -/
lemma Mode.favours_of_order {d : Direction} (hs : s = .int ∨ s = .float)
    (hmode : mode.isRelational = true) (hv : v.Orderable s) (hw : w.Orderable s)
    (h : (d.order v w).isLE = true) :
    (mode.ComesFirst d → mode.Favours v w) ∧ (¬mode.ComesFirst d → mode.Favours w v) := by
  have hmodes := isRelational_iff.1 hmode
  cases d with
  | asc =>
    have hle : v.AtMost w := Value.atMost_of_sortOrder hs hv hw h
    constructor
    · rintro (⟨-, hless⟩ | ⟨⟨⟩, -⟩)
      exact hless.favours hle
    · intro hlast
      exact (hmodes.resolve_left fun hless => hlast (.inl ⟨rfl, hless⟩)).favours hle
  | desc =>
    have hswap : sortOrder w v = (sortOrder v w).swap := Std.OrientedCmp.eq_swap
    have hle : w.AtMost v := Value.atMost_of_sortOrder hs hw hv (hswap ▸ h)
    constructor
    · rintro (⟨⟨⟩, -⟩ | ⟨-, hgreater⟩)
      exact hgreater.favours hle
    · intro hlast
      exact (hmodes.resolve_right fun hgreater => hlast (.inr ⟨rfl, hgreater⟩)).favours hle

namespace BoundFilter

variable {bound : BoundFilter} {r t : Record}

/-- A filter that holds of a record holds of those with a value that its mode favours over the
value of that record. -/
lemma holds_of_favours (hr : r.get? bound.filter.name = some v)
    (ht : t.get? bound.filter.name = some w) (h : bound.filter.mode.Favours v w)
    (hzero : v.isZero = false) (hholds : bound.holds t = true) : bound.holds r = true := by
  rw [holds_of_some ht, h.leaves_right] at hholds
  rw [holds_of_some hr, h.leaves_left]
  simp only [List.any_cons, List.any_nil, Bool.or_false] at hholds ⊢
  by_cases hall : bound.filter.all = true
  · rw [if_pos hall, List.all_eq_true] at hholds ⊢
    exact fun o ho => h.holds_left hzero (hholds o ho)
  · rw [if_neg hall, List.any_eq_true] at hholds ⊢
    obtain ⟨o, ho, hw⟩ := hholds
    exact ⟨o, ho, h.holds_left hzero hw⟩

/-- Among numbers in the order of a sort, acceptance passes on to what comes earlier, or else to
what comes later. -/
lemma pairwise_accepts {schema : RecordSchema} {sort : BoundSort} {those : List Record}
    (hwell : bound.WellBound schema) (hs : bound.schema = .int ∨ bound.schema = .float)
    (hmode : bound.filter.mode.isRelational = true) (hname : sort.key.name = bound.filter.name)
    (hrising : Rising sort.compareRecords those)
    (hthose : ∀ r ∈ those, r.HasMagnitude bound.filter.name bound.schema) :
    those.Pairwise fun r t =>
      (bound.filter.mode.ComesFirst sort.key.direction →
        passes bound.accepts t = true → passes bound.accepts r = true) ∧
      (¬bound.filter.mode.ComesFirst sort.key.direction →
        passes bound.accepts r = true → passes bound.accepts t = true) := by
  refine hrising.imp_of_mem fun {r t} hr ht hrt => ?_
  obtain ⟨v, hv, hvord, hvzero⟩ := hthose r hr
  obtain ⟨w, hw, hword, hwzero⟩ := hthose t ht
  have horder : (sort.key.direction.order v w).isLE = true := by
    rw [BoundSort.compareRecords, hname, hv, hw] at hrt
    exact hrt
  obtain ⟨hfirst, hlast⟩ := Mode.favours_of_order hs hmode hvord hword horder
  rw [passes_of_ok (accepts_eq_ok_holds hwell.admissible hv hvord.conforms),
    passes_of_ok (accepts_eq_ok_holds hwell.admissible hw hword.conforms)]
  exact ⟨fun h => holds_of_favours hv hw (hfirst h) hvzero,
    fun h => holds_of_favours hw hv (hlast h) hwzero⟩

end BoundFilter

/-- What a query gives is in the order of its first sort. -/
lemma Query.rising_of_apply {q : Query} {records out : List Record} {sort : BoundSort}
    {rest : List BoundSort} (hsorts : q.sorts = sort :: rest) (h : q.apply records = .ok out) :
    Rising sort.compareRecords out := by
  obtain ⟨-, -, rfl⟩ := apply_eq_ok_iff.1 h
  refine (rising_sorted (compareRecords q.sorts) _).imp fun {a b} hab => ?_
  rw [hsorts, compareRecords_cons] at hab
  exact (Ordering.isLE_then_iff_and.1 hab).1

/-- **Modes that compare magnitudes are monotone.** Where less is asked for, a value that is no
more than a matching one matches too, unless it is a float zero, and what matches an operand
matches those that are no less; where more is asked for, the other way round. So among records in
the order of an attribute of integers or floats, those with a magnitude that a filter on it accepts
come first or last, whether it asks for some of its operands or for all. What a query gives that
sorts by the attribute first is in that order. -/
theorem relational_modes_monotone :
    (∀ (s : Schema) (mode : Mode) (v w u : Value), mode.IsLess → v.AtMost w →
      (v.isZero = false → matchValue s w (.literal u) mode = .ok true →
        matchValue s v (.literal u) mode = .ok true) ∧
      (matchValue s u (.literal v) mode = .ok true →
        matchValue s u (.literal w) mode = .ok true)) ∧
    (∀ (s : Schema) (mode : Mode) (v w u : Value), mode.IsGreater → v.AtMost w →
      (w.isZero = false → matchValue s v (.literal u) mode = .ok true →
        matchValue s w (.literal u) mode = .ok true) ∧
      (matchValue s u (.literal w) mode = .ok true →
        matchValue s u (.literal v) mode = .ok true)) ∧
    (∀ (schema : RecordSchema) (f : Filter) (bound : BoundFilter) (sort : BoundSort)
      (records those : List Record),
      QueryClauses.bindFilter schema f = .ok bound →
      bound.schema = .int ∨ bound.schema = .float → f.mode.isRelational = true →
      sort.key.name = f.name → Rising sort.compareRecords records → those.Sublist records →
      (∀ r ∈ those, r.HasMagnitude f.name bound.schema) →
      (∀ r ∈ those, ∃ b, bound.accepts r = .ok b) ∧
      (f.mode.ComesFirst sort.key.direction → those.filter (passes bound.accepts) <+: those) ∧
      (¬f.mode.ComesFirst sort.key.direction →
        those.filter (passes bound.accepts) <:+ those)) ∧
    ∀ (q : Query) (records out : List Record) (sort : BoundSort) (rest : List BoundSort),
      q.sorts = sort :: rest → q.apply records = .ok out → Rising sort.compareRecords out := by
  refine ⟨fun s mode v w u hmode h => ?_, fun s mode v w u hmode h => ?_, ?_,
    fun q records out sort rest => Query.rising_of_apply⟩
  · have hfavours := hmode.favours h
    exact ⟨matchValue_left_of_favours hfavours, matchValue_right_of_favours hfavours⟩
  · have hfavours := hmode.favours h
    exact ⟨matchValue_left_of_favours hfavours, matchValue_right_of_favours hfavours⟩
  · intro schema f bound sort records those hbind hs hmode hname hrising hsub hthose
    have hbinds := ((QueryClauses.bindFilter_iff schema f).1 bound).1 hbind
    have hwell := hbinds.wellBound
    rw [← hbinds.name] at hname hthose
    rw [← hbinds.mode] at hmode ⊢
    have hpairs := BoundFilter.pairwise_accepts hwell hs hmode hname (hrising.sublist hsub) hthose
    refine ⟨fun r hr => ?_, fun hfirst => ?_, fun hlast => ?_⟩
    · obtain ⟨v, hv, hord, -⟩ := hthose r hr
      exact ⟨_, BoundFilter.accepts_eq_ok_holds hwell.admissible hv hord.conforms⟩
    · exact filter_prefix_of_pairwise (hpairs.imp fun h => h.1 hfirst)
    · exact filter_suffix_of_pairwise (hpairs.imp fun h => h.2 hlast)

namespace Sample

/-- Asks for prices that do not exceed one millionth, or one that is not a number. -/
def cheap : Filter :=
  ⟨"price", [.literal (.float .nan), .literal (.float .epsilon)], .lessThanOrEqual, false⟩

def fallingPrices : List Record :=
  [server "db" (.infinity false), server "web" .epsilon, server "log" (.infinity true)]

end Sample

open Sample in
theorem relational_modes_monotone_sample :
    QueryClauses.bindFilter serverSchema cheap = .ok ⟨cheap, .float⟩ ∧
    Rising (BoundSort.compareRecords ⟨byPrice, .float⟩) fallingPrices ∧
    (∀ r ∈ fallingPrices, r.HasMagnitude "price" .float) ∧
    fallingPrices.filter (passes (BoundFilter.accepts ⟨cheap, .float⟩)) <:+ fallingPrices := by
  have hrising : Rising (BoundSort.compareRecords ⟨byPrice, .float⟩) fallingPrices := by
    unfold Rising
    decide
  have hserver (name : String) {x : Binary64} (hx : x.isNaN = false) (hzero : x.isZero = false) :
      (server name x).HasMagnitude "price" .float := by
    have hprice : (server name x).get? "price" = some (.float x) := by
      simp [server, NameMap.ofList, NameMap.get?_insert]
    exact ⟨.float x, hprice, Value.orderable_float hx, hzero⟩
  have hmagnitude : ∀ r ∈ fallingPrices, r.HasMagnitude "price" .float := by
    simp only [fallingPrices, List.forall_mem_cons, List.not_mem_nil, false_implies,
      implies_true, and_true]
    exact ⟨hserver _ (by decide) (by decide), hserver _ (by decide) (by decide),
      hserver _ (by decide) (by decide)⟩
  have hlast : ¬Mode.ComesFirst .lessThanOrEqual .desc := by
    simp [Mode.ComesFirst, Mode.IsGreater]
  exact ⟨rfl, hrising, hmagnitude, (relational_modes_monotone.2.2.1 serverSchema cheap _
    ⟨byPrice, .float⟩ _ _ rfl (.inr rfl) rfl rfl hrising (.refl _) hmagnitude).2.2 hlast⟩

end RecordQuery
