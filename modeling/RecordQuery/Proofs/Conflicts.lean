import RecordQuery.Proofs.Selecting
import RecordQuery.Proofs.TypeDisplay

/-!
What the error of a conflict tells.

Its message ends in a type, and has another one before fixed words and the attribute before that.
So all three can be read from the message, even if the name of the attribute looks like a part of
it. The error is raised exactly if a document declares an attribute otherwise than the dataset,
and it is about the first such attribute, so the two types that it shows are different.
-/

namespace RecordQuery

/-- From the message of a conflict the attribute and both types can be read. -/
lemma DatasetError.message?_conflict_inj {name name' : String} {s s' t t' : Schema}
    (h : (conflict name s t).message? = (conflict name' s' t').message?) :
    name = name' ∧ s = s' ∧ t = t' := by
  obtain ⟨hheld, rfl⟩ := Schema.append_display_inj (Option.some.inj h)
  obtain ⟨hdeclared, rfl⟩ := Schema.append_display_inj ((String.append_left_inj _).1 hheld)
  have hname := (String.append_left_inj _).1 hdeclared
  exact ⟨(String.append_right_inj _).1 hname, rfl, rfl⟩

namespace Dataset

variable {d : Dataset} {c : QueryDocument} {text name : String} {s t : Schema}

lemma selectDocument_eq_conflict_iff :
    d.selectDocument c = .error (.conflict name s t) ↔ c.schema.FirstClash d.schema name s t := by
  refine ⟨fun h => ?_, selectDocument_of_firstClash⟩
  rcases agrees_or_exists_firstClash c.schema d.schema with ha | ⟨_, _, _, hfirst⟩
  · -- without a clash all errors are those of the query
    obtain ⟨both, hu⟩ := exists_isUnion ha
    rw [selectDocument_eq ha hu] at h
    cases hq : ({ c with schema := both } : QueryDocument).compile with
    | error e => simp [hq] at h
    | ok q =>
      rw [hq] at h
      obtain ⟨fault, -, hfault⟩ := select_eq_error_iff.1 h
      cases hfault
  · cases (selectDocument_of_firstClash hfirst).symm.trans h
    exact hfirst

lemma selectToml_eq_conflict_iff :
    d.selectToml text = .error (.conflict name s t) ↔
      ∃ c, QueryDocument.parseToml text = .ok c ∧ c.schema.FirstClash d.schema name s t := by
  cases hc : QueryDocument.parseToml text with
  | error e =>
    have herror : d.selectToml text = .error (.query e) := by
      delta selectToml
      rw [hc]
    simp [herror]
  | ok c => simp [selectToml_eq hc, selectDocument_eq_conflict_iff]

/-- Some attribute is in conflict exactly if some attribute is declared in two ways. -/
lemma exists_selectToml_eq_conflict_iff :
    (∃ name s t, d.selectToml text = .error (.conflict name s t)) ↔
      ∃ c, QueryDocument.parseToml text = .ok c ∧
        ∃ name s t, c.schema.Clash d.schema name s t := by
  simp only [selectToml_eq_conflict_iff]
  constructor
  · rintro ⟨name, s, t, c, hc, hfirst⟩
    exact ⟨c, hc, name, s, t, hfirst.clash⟩
  · rintro ⟨c, hc, name, s, t, hclash⟩
    obtain ⟨name', s', t', hfirst⟩ :=
      (agrees_or_exists_firstClash c.schema d.schema).resolve_left fun ha => ha name s t hclash
    exact ⟨name', s', t', c, hc, hfirst⟩

end Dataset

/-- **A conflict shows two types.** No two types are displayed alike, and the message of a conflict
shows which attribute and which two types it is about. Selecting by a document gives this error
exactly if the document can be read and declares some attribute as another type than the dataset;
it then is about the first such attribute, and it shows two different types. -/
theorem conflict_shows_two_types (d : Dataset) (text : String) :
    Function.Injective Schema.display ∧
    (∀ name s t name' s' t', (DatasetError.conflict name s t).message? =
      (DatasetError.conflict name' s' t').message? → name = name' ∧ s = s' ∧ t = t') ∧
    ((∃ name s t, d.selectToml text = .error (.conflict name s t)) ↔
      ∃ c, QueryDocument.parseToml text = .ok c ∧
        ∃ name s t, c.schema.Clash d.schema name s t) ∧
    ∀ name s t, (d.selectToml text = .error (.conflict name s t) ↔
        ∃ c, QueryDocument.parseToml text = .ok c ∧ c.schema.FirstClash d.schema name s t) ∧
      (d.selectToml text = .error (.conflict name s t) → s.display ≠ t.display) := by
  refine ⟨Schema.display_injective, fun _ _ _ _ _ _ => DatasetError.message?_conflict_inj,
    Dataset.exists_selectToml_eq_conflict_iff, fun name s t => ?_⟩
  refine ⟨Dataset.selectToml_eq_conflict_iff, fun h => ?_⟩
  obtain ⟨c, -, hfirst⟩ := Dataset.selectToml_eq_conflict_iff.1 h
  exact Schema.display_injective.ne hfirst.clash.ne

end RecordQuery
