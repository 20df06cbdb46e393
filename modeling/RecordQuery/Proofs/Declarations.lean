import Mathlib.Data.List.Sort
import RecordQuery.Dataset
import RecordQuery.Proofs.ByteOrder
import RecordQuery.Proofs.FirstFault

/-!
The declarations of a document beside those of the dataset that it is run against.

Declarations that the dataset has and the document lacks are added to those of the document, in
the order of the names. That fails at the first name that the two declare as different types, and
otherwise gives the one schema that declares what either of them declares. So a declaration that
the two have in common may as well be left out of the document.
-/

namespace RecordQuery

namespace NameMap

variable {α : Type}

/-- A map is what look-ups find in it. -/
lemma ext_get? {m n : NameMap α} (h : ∀ name, m.get? name = n.get? name) : m = n := by
  refine ext_entries ?_
  have hirrefl : Std.Irrefl fun a b : String × α => a.1 < b.1 := ⟨fun a => String.lt_irrefl a.1⟩
  have hasymm : Std.Antisymm fun a b : String × α => a.1 < b.1 :=
    ⟨fun a b hab hba => absurd (String.lt_trans hab hba) (String.lt_irrefl a.1)⟩
  refine List.Pairwise.eq_of_mem_iff m.sorted n.sorted fun e => ?_
  rw [← get?_eq_some_iff (m := m), ← get?_eq_some_iff (m := n), h]

end NameMap

namespace RecordSchema

/-- Both declare the attribute, and as different types. -/
structure Clash (schema held : RecordSchema) (name : String) (s t : Schema) : Prop where
  declared : schema.get? name = some s
  held : held.get? name = some t
  ne : s ≠ t

/-- The clash whose name comes first, read byte by byte. -/
structure FirstClash (schema held : RecordSchema) (name : String) (s t : Schema) : Prop where
  clash : schema.Clash held name s t
  least : ∀ other s' t', schema.Clash held other s' t' → Text.bytes name ≤ Text.bytes other

/-- What both declare, they declare as the same type. -/
def Agrees (schema held : RecordSchema) : Prop := ∀ name s t, ¬schema.Clash held name s t

/-- The third declares what one of the first two declares, the first before the second. -/
def IsUnion (schema held both : RecordSchema) : Prop :=
  ∀ name, both.get? name = (schema.get? name).or (held.get? name)

/-- Where the two differ, one lacks a declaration that the other has in common with `held`. -/
def DifferWithin (held a b : RecordSchema) : Prop :=
  ∀ name, a.get? name = b.get? name ∨
    (a.get? name = none ∧ b.get? name = held.get? name) ∨
    (b.get? name = none ∧ a.get? name = held.get? name)

end RecordSchema

/-! ### Adding declarations -/

namespace Dataset

variable {schema held both : RecordSchema} {e : DatasetError}

/-- Whether the schema does not declare the name otherwise. -/
def checkDeclaration (schema : RecordSchema) (entry : String × Schema) :
    Except DatasetError Unit :=
  match schema.get? entry.1 with
  | none => .ok ()
  | some declared =>
    if declared = entry.2 then .ok () else .error (.conflict entry.1 declared entry.2)

lemma checkDeclaration_eq_ok_iff {name : String} {t : Schema} :
    checkDeclaration schema (name, t) = .ok () ↔ ∀ s, schema.get? name = some s → s = t := by
  unfold checkDeclaration
  cases schema.get? name with
  | none => simp
  | some s => by_cases h : s = t <;> simp [h]

lemma checkDeclaration_eq_error_iff {name : String} {t : Schema} :
    checkDeclaration schema (name, t) = .error e ↔
      ∃ s, schema.get? name = some s ∧ s ≠ t ∧ e = .conflict name s t := by
  unfold checkDeclaration
  cases schema.get? name with
  | none => simp
  | some s =>
    by_cases h : s = t
    · simp [h]
    · simpa [h] using eq_comm

/-- An added declaration does not show at the names that follow it. -/
lemma checkDeclaration_insert {name : String} {t : Schema} {rest : List (String × Schema)}
    (h : ∀ entry ∈ rest, name < entry.1) :
    ∀ entry ∈ rest, checkDeclaration (schema.insert name t) entry =
      checkDeclaration schema entry := by
  intro entry hentry
  have hne : entry.1 ≠ name := fun heq => String.lt_irrefl name (heq ▸ h entry hentry)
  rw [checkDeclaration, checkDeclaration, NameMap.get?_insert, if_neg hne]

/-- The check of a document's declarations comes before the first of them is added. -/
lemma addDeclarations_eq_error_iff {entries : List (String × Schema)}
    (hsorted : entries.Pairwise fun a b => a.1 < b.1) :
    addDeclarations schema entries = .error e ↔
      FirstFault (checkDeclaration schema) entries e := by
  induction entries generalizing schema with
  | nil => simp [addDeclarations]
  | cons entry rest ih =>
    obtain ⟨name, t⟩ := entry
    obtain ⟨hlt, hrest⟩ := List.pairwise_cons.1 hsorted
    rw [firstFault_cons, addDeclarations]
    cases hs : schema.get? name with
    | none =>
      have hok : checkDeclaration schema (name, t) = .ok () :=
        checkDeclaration_eq_ok_iff.2 (by simp [hs])
      simp only
      rw [ih hrest, firstFault_congr (checkDeclaration_insert hlt), hok]
      simp
    | some s =>
      simp only
      split
      · next heq =>
        have hok : checkDeclaration schema (name, t) = .ok () :=
          checkDeclaration_eq_ok_iff.2 (by simp [hs, heq])
        rw [ih hrest, hok]
        simp
      · next hne =>
        have hfail : checkDeclaration schema (name, t) = .error (.conflict name s t) :=
          checkDeclaration_eq_error_iff.2 ⟨s, hs, hne, rfl⟩
        rw [hfail]
        simp

lemma get?_of_addDeclarations {entries : List (String × Schema)}
    (h : addDeclarations schema entries = .ok both) (name : String) :
    both.get? name = (schema.get? name).or (entries.lookup name) := by
  induction entries generalizing schema with
  | nil =>
    cases h
    simp
  | cons entry rest ih =>
    obtain ⟨other, t⟩ := entry
    rw [addDeclarations] at h
    by_cases hname : name = other
    · subst hname
      cases hs : schema.get? name with
      | none =>
        simp only [hs] at h
        simp [ih h, NameMap.get?_insert]
      | some s =>
        simp only [hs] at h
        split at h
        · simp [ih h, hs]
        · cases h
    · have hne : (name == other) = false := by simpa using hname
      rw [List.lookup_cons, hne]
      cases hs : schema.get? other with
      | none =>
        simp only [hs] at h
        rw [ih h, NameMap.get?_insert, if_neg hname]
      | some s =>
        simp only [hs] at h
        split at h
        · exact ih h
        · cases h

/-- What is in conflict with the declarations of a dataset is a clash. -/
lemma checkDeclaration_eq_error_iff_clash {name : String} {t : Schema}
    (hmem : (name, t) ∈ held.entries) : checkDeclaration schema (name, t) = .error e ↔
      ∃ s, schema.Clash held name s t ∧ e = .conflict name s t := by
  have hheld : held.get? name = some t := NameMap.get?_eq_some_iff.2 hmem
  rw [checkDeclaration_eq_error_iff]
  constructor
  · rintro ⟨s, hs, hne, rfl⟩
    exact ⟨s, ⟨hs, hheld, hne⟩, rfl⟩
  · rintro ⟨s, hclash, rfl⟩
    exact ⟨s, hclash.declared, hclash.ne, rfl⟩

lemma firstFault_checkDeclaration_iff :
    FirstFault (checkDeclaration schema) held.entries e ↔
      ∃ name s t, schema.FirstClash held name s t ∧ e = .conflict name s t := by
  have hclash {name : String} {t : Schema} (ht : held.get? name = some t) {e : DatasetError} :
      checkDeclaration schema (name, t) = .error e ↔
        ∃ s, schema.Clash held name s t ∧ e = .conflict name s t :=
    checkDeclaration_eq_error_iff_clash (NameMap.get?_eq_some_iff.1 ht)
  rw [NameMap.firstFault_entries_iff]
  constructor
  · rintro ⟨name, t, ht, hfail, hleast⟩
    obtain ⟨s, hs, rfl⟩ := (hclash ht).1 hfail
    refine ⟨name, s, t, ⟨hs, fun other s' t' hother => Text.le_iff_bytes_le.1 ?_⟩, rfl⟩
    exact hleast other t' _ hother.held ((hclash hother.held).2 ⟨s', hother, rfl⟩)
  · rintro ⟨name, s, t, ⟨hs, hleast⟩, rfl⟩
    refine ⟨name, t, hs.held, (hclash hs.held).2 ⟨s, hs, rfl⟩, fun other t' e' ht' hfail => ?_⟩
    obtain ⟨s', hother, -⟩ := (hclash ht').1 hfail
    exact Text.le_iff_bytes_le.2 (hleast other s' t' hother)

lemma agrees_or_exists_firstClash (schema held : RecordSchema) :
    schema.Agrees held ∨ ∃ name s t, schema.FirstClash held name s t := by
  rcases faultless_or_exists_firstFault (checkDeclaration schema) held.entries with
    hall | ⟨e, hfirst⟩
  · refine .inl fun name s t hclash => ?_
    have hmem : (name, t) ∈ held.entries := NameMap.get?_eq_some_iff.1 hclash.held
    obtain ⟨u, hu⟩ := hall _ hmem
    have hfail := (checkDeclaration_eq_error_iff_clash hmem).2 ⟨s, hclash, rfl⟩
    rw [hu] at hfail
    cases hfail
  · obtain ⟨name, s, t, hclash, -⟩ := firstFault_checkDeclaration_iff.1 hfirst
    exact .inr ⟨name, s, t, hclash⟩

/-- **What is added.** The declarations of a dataset can be added exactly if none of them clashes,
which gives the union, and otherwise the error is the first clash. -/
lemma addDeclarations_iff (schema held : RecordSchema) :
    (∀ both, addDeclarations schema held.entries = .ok both ↔
      schema.Agrees held ∧ schema.IsUnion held both) ∧
    ∀ e, addDeclarations schema held.entries = .error e ↔
      ∃ name s t, schema.FirstClash held name s t ∧ e = .conflict name s t := by
  have herror : ∀ e, addDeclarations schema held.entries = .error e ↔
      ∃ name s t, schema.FirstClash held name s t ∧ e = .conflict name s t := fun e => by
    rw [addDeclarations_eq_error_iff held.sorted, firstFault_checkDeclaration_iff]
  refine ⟨fun both => ?_, herror⟩
  cases hadd : addDeclarations schema held.entries with
  | error e =>
    obtain ⟨name, s, t, hfirst, -⟩ := (herror e).1 hadd
    have hno : ¬schema.Agrees held := fun hagrees => hagrees name s t hfirst.clash
    simp [hno]
  | ok union =>
    have hagrees : schema.Agrees held := (agrees_or_exists_firstClash schema held).resolve_right
      fun ⟨name, s, t, hfirst⟩ => by
        rw [(herror _).2 ⟨name, s, t, hfirst, rfl⟩] at hadd
        cases hadd
    have hunion : schema.IsUnion held union := get?_of_addDeclarations hadd
    simp only [Except.ok.injEq, hagrees, true_and]
    constructor
    · rintro rfl
      exact hunion
    · intro hboth
      exact NameMap.ext_get? fun name => (hunion name).trans (hboth name).symm

end Dataset

/-! ### Redundant declarations -/

namespace RecordSchema

variable {held a b both : RecordSchema}

lemma DifferWithin.agrees (h : DifferWithin held a b) (ha : a.Agrees held) : b.Agrees held := by
  rintro name s t ⟨hs, ht, hne⟩
  rcases h name with heq | ⟨-, hheld⟩ | ⟨hnone, -⟩
  · exact ha name s t ⟨heq.trans hs, ht, hne⟩
  · exact hne (Option.some.inj (hs.symm.trans (hheld.trans ht)))
  · rw [hnone] at hs
    cases hs

lemma DifferWithin.isUnion (h : DifferWithin held a b) (ha : a.IsUnion held both) :
    b.IsUnion held both := by
  intro name
  rw [ha name]
  rcases h name with heq | ⟨hnone, hheld⟩ | ⟨hnone, hheld⟩
  · rw [heq]
  · rw [hnone, hheld, Option.none_or, Option.or_self]
  · rw [hnone, hheld, Option.none_or, Option.or_self]

/-- The union of schemas that agree keeps the declarations of each. -/
lemma IsUnion.get?_right (h : a.IsUnion held both) (ha : a.Agrees held) {name : String}
    {t : Schema} (ht : held.get? name = some t) : both.get? name = some t := by
  rw [h name, ht]
  cases hs : a.get? name with
  | none => rfl
  | some s =>
    have heq : s = t := not_not.1 fun hne => ha name s t ⟨hs, ht, hne⟩
    rw [heq, Option.some_or]

end RecordSchema

end RecordQuery
