import Mathlib.Logic.Function.Basic
import Mathlib.Tactic.Lemma
import RecordQuery.Schema

/-!
What the end of a text tells of a type that is displayed there.

No name of a type ends another one, and none ends in a bracket. So the end of a text that displays
a type shows which type it is and where its display begins, whatever stands before it: a closing
bracket shows a collection, before it stands the element, and before that the name of the
collection. In particular no two types are displayed alike.
-/

namespace RecordQuery

namespace TypeTag

variable {a b : TypeTag} {u v : String}

lemma append_name_inj (h : u ++ a.name = v ++ b.name) : u = v ∧ a = b := by
  by_cases hab : a = b
  · subst hab
    exact ⟨(String.append_left_inj _).1 h, rfl⟩
  · have hback := congrArg (fun text : String => text.toList.reverse) h
    -- read backwards, two names differ before either of them ends
    cases a <;> cases b <;> simp [name] at hab hback

lemma name_injective : Function.Injective name := fun _ _ h =>
  (append_name_inj (congrArg ("" ++ ·) h)).2

lemma append_name_ne_append_bracket : u ++ a.name ≠ v ++ ">" := by
  intro h
  have hback := congrArg (fun text : String => text.toList.reverse) h
  cases a <;> simp [name] at hback

end TypeTag

namespace Schema

variable {s t e : Schema} {u v : String}

lemma display_of_scalar (h : s.element? = none) : s.display = s.tag.name := by
  cases s with
  | list | set => cases h
  | _ => rfl

lemma display_of_element (h : s.element? = some e) :
    s.display = s.tag.name ++ "<" ++ e.display ++ ">" := by
  cases s with
  | list | set =>
    cases h
    rfl
  | _ => cases h

/-- A schema is its outermost shape and its element. -/
lemma ext_element (htag : s.tag = t.tag) (helement : s.element? = t.element?) : s = t := by
  cases s <;> cases t <;> simp_all [tag, element?]

/-- A scalar is told by its name, as the display of a collection does not end like one. -/
lemma append_display_inj_of_scalar (hs : s.element? = none)
    (h : u ++ s.display = v ++ t.display) : u = v ∧ s = t := by
  rw [display_of_scalar hs] at h
  cases ht : t.element? with
  | none =>
    rw [display_of_scalar ht] at h
    obtain ⟨hu, htag⟩ := TypeTag.append_name_inj h
    exact ⟨hu, ext_element htag (hs.trans ht.symm)⟩
  | some f =>
    rw [display_of_element ht, ← String.append_assoc] at h
    exact absurd h TypeTag.append_name_ne_append_bracket

/-- A collection is told by its element and its name, if its element is told. -/
lemma append_display_inj_of_element (hs : s.element? = some e)
    (ih : ∀ {t u v}, u ++ e.display = v ++ t.display → u = v ∧ e = t)
    (h : u ++ s.display = v ++ t.display) : u = v ∧ s = t := by
  cases ht : t.element? with
  | none =>
    obtain ⟨hu, rfl⟩ := append_display_inj_of_scalar ht h.symm
    exact ⟨hu.symm, rfl⟩
  | some f =>
    simp only [display_of_element hs, display_of_element ht, ← String.append_assoc,
      String.append_left_inj] at h
    obtain ⟨hname, rfl⟩ := ih h
    obtain ⟨hu, htag⟩ := TypeTag.append_name_inj ((String.append_left_inj _).1 hname)
    exact ⟨hu, ext_element htag (hs.trans ht.symm)⟩

/-- The end of a text shows which type it displays, and where that begins. -/
lemma append_display_inj (h : u ++ s.display = v ++ t.display) : u = v ∧ s = t := by
  induction s generalizing t u v with
  | list e ih | set e ih => exact append_display_inj_of_element rfl ih h
  | _ => exact append_display_inj_of_scalar rfl h

lemma display_injective : Function.Injective display := fun _ _ h =>
  (append_display_inj (congrArg ("" ++ ·) h)).2

end Schema

end RecordQuery
