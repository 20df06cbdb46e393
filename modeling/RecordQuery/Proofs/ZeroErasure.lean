import RecordQuery.Proofs.EqualityLaws
import RecordQuery.Proofs.Soundness

/-!
A float zero stands for an absent value.

No comparison of magnitude holds of a zero. To filters that compare, a zero in a collection might
as well not be there, at whatever depth it is, and a zero that is the whole value of an attribute
might as well be missing from the record. The second needs that a bound filter has an operand: an
empty list of operands would all hold of the zero, where nothing holds of a missing value.
-/

namespace RecordQuery

/-! ### Removing a name -/

namespace NameMap

variable {α : Type}

/-- The map without a name. -/
def erase (m : NameMap α) (name : String) : NameMap α :=
  ⟨m.entries.filter fun e => e.1 != name, m.sorted.filter _⟩

lemma lookup_filter_ne (name other : String) (l : List (String × α)) :
    (l.filter fun e => e.1 != name).lookup other =
      if other = name then none else l.lookup other := by
  induction l with
  | nil => simp
  | cons head rest ih =>
    obtain ⟨n, v⟩ := head
    by_cases hn : n = name
    · subst hn
      have hdrop : ((n, v) :: rest).filter (fun e => e.1 != n) =
          rest.filter fun e => e.1 != n := by simp
      rw [hdrop, ih, List.lookup_cons]
      by_cases h : other = n
      · simp [h]
      · have hother : (other == n) = false := by simpa using h
        simp [hother]
    · have hkeep : ((n, v) :: rest).filter (fun e => e.1 != name) =
          (n, v) :: rest.filter fun e => e.1 != name := by simp [hn]
      rw [hkeep, List.lookup_cons, List.lookup_cons, ih]
      by_cases h : other = n
      · simp [h, hn]
      · have hother : (other == n) = false := by simpa using h
        simp [hother]

/-- Removing a name leaves the other names as they were. -/
lemma get?_erase (m : NameMap α) (name other : String) :
    (m.erase name).get? other = if other = name then none else m.get? other :=
  lookup_filter_ne name other m.entries

end NameMap

/-! ### Values without zeros -/

namespace Value

/-- A float of either sign that is zero. -/
def isZero : Value → Bool
  | float x => x.isZero
  | _ => false

mutual

/-- The value without the zeros among its elements, at every depth. A collection that has none but
zeros is left empty. -/
def eraseZeros : Value → Value
  | list items => list (eraseZerosAll items)
  | set items => set (eraseZerosAll items)
  | v => v

def eraseZerosAll : List Value → List Value
  | [] => []
  | v :: rest => if v.isZero then eraseZerosAll rest else v.eraseZeros :: eraseZerosAll rest

end

variable {v w : Value} {s : Schema} {items : List Value}

lemma leaves_of_isZero (h : v.isZero = true) : v.leaves = [v] := by
  cases v with
  | float x => rfl
  | _ => cases h

lemma exists_of_mem_eraseZerosAll (h : w ∈ eraseZerosAll items) :
    ∃ u ∈ items, w = u.eraseZeros := by
  induction items with
  | nil => cases h
  | cons v rest ih =>
    rw [eraseZerosAll] at h
    split at h
    · obtain ⟨u, hu, rfl⟩ := ih h
      exact ⟨u, List.mem_cons_of_mem _ hu, rfl⟩
    · rcases List.mem_cons.1 h with rfl | h
      · exact ⟨v, List.mem_cons_self, rfl⟩
      · obtain ⟨u, hu, rfl⟩ := ih h
        exact ⟨u, List.mem_cons_of_mem _ hu, rfl⟩

lemma conforms_eraseZeros (h : v.conforms s = true) : v.eraseZeros.conforms s = true := by
  induction s generalizing v with
  | list e ih | set e ih =>
    cases conforms_iff_shape.1 h with
    | _ hitems =>
      rw [eraseZeros, conforms, List.all_eq_true]
      intro w hw
      obtain ⟨u, hu, rfl⟩ := exists_of_mem_eraseZerosAll hw
      exact ih (hitems u hu)
  | _ =>
    cases conforms_iff_shape.1 h
    rfl

lemma leavesAll_eraseZerosAll
    (h : ∀ w ∈ items, w.isZero = false →
      w.eraseZeros.leaves = w.leaves.filter fun leaf => !leaf.isZero) :
    leavesAll (eraseZerosAll items) = (leavesAll items).filter fun leaf => !leaf.isZero := by
  induction items with
  | nil => rfl
  | cons v rest ih =>
    have hrest := ih fun w hw => h w (List.mem_cons_of_mem _ hw)
    rw [eraseZerosAll, leavesAll, List.filter_append]
    cases hzero : v.isZero with
    | true =>
      have hnone : v.leaves.filter (fun leaf => !leaf.isZero) = [] := by
        rw [leaves_of_isZero hzero]
        simp [hzero]
      rw [if_pos rfl, hrest, hnone, List.nil_append]
    | false =>
      rw [if_neg Bool.false_ne_true, leavesAll, hrest, h v List.mem_cons_self hzero]

/-- The leaves that are left are those that are no zeros. -/
lemma leaves_eraseZeros (h : v.isZero = false) :
    v.eraseZeros.leaves = v.leaves.filter fun leaf => !leaf.isZero := by
  induction v using Value.induction with
  | list items ih | set items ih =>
    rw [eraseZeros, leaves, leaves]
    exact leavesAll_eraseZerosAll ih
  | _ => simp [eraseZeros, leaves, h]

/-- A test that no zero passes does not see that zeros are gone. -/
lemma any_leaves_eraseZeros {p : Value → Bool} (hp : ∀ w : Value, w.isZero = true → p w = false)
    (h : v.isZero = false) : v.eraseZeros.leaves.any p = v.leaves.any p := by
  have htest : (fun leaf => !leaf.isZero && p leaf) = p := by
    funext leaf
    cases hleaf : leaf.isZero with
    | true => rw [hp leaf hleaf]; rfl
    | false => rfl
  rw [leaves_eraseZeros h, List.any_filter, htest]

end Value

/-- No comparison of magnitude holds of a zero. -/
lemma Operand.holds_of_isZero {mode : Mode} {w : Value} (hmode : mode.isRelational = true)
    (hw : w.isZero = true) (o : Operand) : o.holds mode w = false := by
  cases w with
  | float x =>
    have hzero : x.isZero = true := hw
    cases o with
    | pattern p => rfl
    | literal u =>
      cases u with
      | float other => simp [holds, matchFloat, hmode, hzero]
      | _ => rfl
  | _ => cases hw

/-! ### Records without zeros -/

/-- The record without the zeros of one attribute: without the attribute if it is a zero, and
otherwise without the zeros among its elements. -/
def Record.eraseZeros (record : Record) (name : String) : Record :=
  match record.get? name with
  | none => record
  | some v => if v.isZero then record.erase name else record.insert name v.eraseZeros

namespace Record

variable {record : Record} {name other : String} {v : Value}

lemma eraseZeros_of_none (h : record.get? name = none) : record.eraseZeros name = record := by
  rw [eraseZeros, h]

lemma get?_eraseZeros_of_isZero (h : record.get? name = some v) (hv : v.isZero = true) :
    (record.eraseZeros name).get? name = none := by
  rw [eraseZeros, h]
  simp [hv, NameMap.get?_erase]

lemma get?_eraseZeros_of_not_isZero (h : record.get? name = some v) (hv : v.isZero = false) :
    (record.eraseZeros name).get? name = some v.eraseZeros := by
  rw [eraseZeros, h]
  simp [hv, NameMap.get?_insert]

lemma get?_eraseZeros_of_ne (h : other ≠ name) :
    (record.eraseZeros name).get? other = record.get? other := by
  rw [eraseZeros]
  split
  · rfl
  · split
    · rw [NameMap.get?_erase, if_neg h]
    · rw [NameMap.get?_insert, if_neg h]

end Record

variable {schema : RecordSchema} {record : Record} {bound : BoundFilter}

lemma RecordSchema.Admits.eraseZeros (h : schema.Admits record) (name : String) :
    schema.Admits (record.eraseZeros name) := by
  intro other w hw
  by_cases hname : other = name
  · subst hname
    cases hv : record.get? other with
    | none =>
      rw [Record.eraseZeros_of_none hv] at hw
      exact h other w hw
    | some v =>
      obtain ⟨s, hs, hc⟩ := h other v hv
      cases hzero : v.isZero with
      | true =>
        rw [Record.get?_eraseZeros_of_isZero hv hzero] at hw
        cases hw
      | false =>
        rw [Record.get?_eraseZeros_of_not_isZero hv hzero] at hw
        cases hw
        exact ⟨s, hs, Value.conforms_eraseZeros hc⟩
  · rw [Record.get?_eraseZeros_of_ne hname] at hw
    exact h other w hw

/-! ### Filters -/

namespace BoundFilter

/-- A filter looks at no attribute but its own. -/
lemma holds_congr {record' : Record}
    (h : record.get? bound.filter.name = record'.get? bound.filter.name) :
    bound.holds record = bound.holds record' := by
  simp only [holds, h]

lemma holds_of_none (h : record.get? bound.filter.name = none) : bound.holds record = false := by
  simp only [holds, h]

lemma holds_of_some {v : Value} (h : record.get? bound.filter.name = some v) :
    bound.holds record =
      if bound.filter.all then
        bound.filter.operands.all fun o => v.leaves.any (o.holds bound.filter.mode)
      else bound.filter.operands.any fun o => v.leaves.any (o.holds bound.filter.mode) := by
  simp only [holds, h]

/-- A filter that compares does not hold of a zero, as it does not of a missing value. -/
lemma holds_of_isZero {v : Value} (h : record.get? bound.filter.name = some v)
    (hv : v.isZero = true) (hmode : bound.filter.mode.isRelational = true)
    (hne : bound.filter.operands ≠ []) : bound.holds record = false := by
  have hno : ∀ o : Operand, v.leaves.any (o.holds bound.filter.mode) = false := fun o => by
    rw [Value.leaves_of_isZero hv, List.any_cons, o.holds_of_isZero hmode hv]
    rfl
  obtain ⟨o, ho⟩ := List.exists_mem_of_ne_nil _ hne
  rw [holds_of_some h]
  simp only [hno]
  split
  · exact List.all_eq_false.2 ⟨o, ho, Bool.false_ne_true⟩
  · exact List.any_eq_false.2 fun _ _ => Bool.false_ne_true

/-- A filter that compares does not see that the zeros of its attribute are gone. -/
lemma holds_eraseZeros (hmode : bound.filter.mode.isRelational = true)
    (hne : bound.filter.operands ≠ []) (record : Record) :
    bound.holds (record.eraseZeros bound.filter.name) = bound.holds record := by
  cases hv : record.get? bound.filter.name with
  | none => rw [Record.eraseZeros_of_none hv]
  | some v =>
    cases hzero : v.isZero with
    | true =>
      have hgone := Record.get?_eraseZeros_of_isZero hv hzero
      rw [holds_of_none hgone, holds_of_isZero hv hzero hmode hne]
    | false =>
      have hleft := Record.get?_eraseZeros_of_not_isZero hv hzero
      have hleaves : ∀ o : Operand, v.eraseZeros.leaves.any (o.holds bound.filter.mode) =
          v.leaves.any (o.holds bound.filter.mode) := fun o =>
        Value.any_leaves_eraseZeros (fun w hw => o.holds_of_isZero hmode hw) hzero
      rw [holds_of_some hv, holds_of_some hleft]
      simp only [hleaves]

end BoundFilter

/-- **A float zero stands for an absent value.** Where all filters of a built query on an attribute
compare magnitudes, erasing the zeros of the attribute from a record of the schema leaves a record
of the schema, on which the query gives the same answer. -/
theorem accepts_eraseZeros {schema : RecordSchema} {clauses : QueryClauses} {q : Query}
    {record : Record} {name : String} (hq : clauses.build schema = .ok q)
    (hr : schema.validateRecord record = .ok ())
    (hmode : ∀ f ∈ clauses.filters, f.name = name → f.mode.isRelational = true) :
    schema.validateRecord (record.eraseZeros name) = .ok () ∧
    ∃ b, q.accepts record = .ok b ∧ q.accepts (record.eraseZeros name) = .ok b := by
  have hwell := QueryClauses.wellBound_of_build hq
  have hadmits : schema.Admits record := RecordSchema.validateRecord_eq_ok_iff.1 hr
  have hadmits' := hadmits.eraseZeros name
  have hholds : ∀ b ∈ q.filters, b.holds (record.eraseZeros name) = b.holds record :=
    fun b hb => by
      obtain ⟨f, hf, hbind⟩ := exists_of_mem_mapOk (QueryClauses.build_eq_ok hq).1 hb
      have hbinds := ((QueryClauses.bindFilter_iff schema f).1 b).1 hbind
      by_cases hname : b.filter.name = name
      · subst hname
        have hcompares : b.filter.mode.isRelational = true :=
          hbinds.mode ▸ hmode f hf hbinds.name.symm
        exact b.holds_eraseZeros hcompares (hwell.filters b hb).nonempty record
      · exact BoundFilter.holds_congr (Record.get?_eraseZeros_of_ne hname)
  refine ⟨RecordSchema.validateRecord_eq_ok_iff.2 hadmits', _, hwell.accepts_eq_ok hadmits, ?_⟩
  have hall : q.filters.all (·.holds (record.eraseZeros name)) = q.filters.all (·.holds record) := by
    rw [Bool.eq_iff_iff, List.all_eq_true, List.all_eq_true]
    exact forall₂_congr fun b hb => by rw [hholds b hb]
  rw [hwell.accepts_eq_ok hadmits', hall]

namespace Sample

/-- Boards with the loads of their slots, and what the whole costs. -/
def boardSchema : RecordSchema := .ofList [("loads", .list (.set .float)), ("price", .float)]

def board : Record := .ofList
  [("loads", .list [.set [.float (.zero true)], .set [.float .epsilon, .float (.zero false)]]),
    ("price", .float (.zero true))]

/-- Asks for loads that do not exceed one millionth. -/
def smallLoad : Filter :=
  ⟨"loads", [.literal (.float .epsilon), .literal (.float (.infinity false))], .lessThanOrEqual,
    true⟩

/-- Asks for a price below infinity. -/
def priced : Filter :=
  ⟨"price", [.literal (.float .nan), .literal (.float (.infinity false))], .lessThan, false⟩

def boardQuery : Query := ⟨[⟨smallLoad, .list (.set .float)⟩, ⟨priced, .float⟩], []⟩

end Sample

open Sample in
theorem accepts_eraseZeros_sample :
    QueryClauses.build ⟨[smallLoad, priced], []⟩ boardSchema = .ok boardQuery ∧
    boardSchema.validateRecord board = .ok () ∧
    (∀ f ∈ [smallLoad, priced], f.mode.isRelational = true) ∧
    (board.eraseZeros "loads").get? "loads" = some (.list [.set [], .set [.float .epsilon]]) ∧
    (board.eraseZeros "price").get? "price" = none ∧
    ∀ name, boardQuery.accepts (board.eraseZeros name) = boardQuery.accepts board := by
  have hq : QueryClauses.build ⟨[smallLoad, priced], []⟩ boardSchema = .ok boardQuery := rfl
  have hr : boardSchema.validateRecord board = .ok () := rfl
  have hmode : ∀ f ∈ [smallLoad, priced], f.mode.isRelational = true := by
    simp [smallLoad, priced, Mode.isRelational]
  refine ⟨hq, hr, hmode, rfl, rfl, fun name => ?_⟩
  have hnamed : ∀ f ∈ [smallLoad, priced], f.name = name → f.mode.isRelational = true :=
    fun f hf _ => hmode f hf
  obtain ⟨-, b, hb, hb'⟩ := accepts_eraseZeros hq hr hnamed
  rw [hb, hb']

end RecordQuery
