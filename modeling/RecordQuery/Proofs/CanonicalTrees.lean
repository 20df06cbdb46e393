import RecordQuery.Json.Convention
import RecordQuery.Json.Writer
import RecordQuery.Proofs.RecordDecoding

/-!
Canonical document trees, in which the fields of every object stand in the order of their names.

The order of fields carries no meaning. A tree and its canonical form decode to the same values,
and whoever reads a structure with named fields finds the same fields in both, those of the
canonical form in their own canonical form.
-/

namespace RecordQuery

/-! ### Maps and their entries -/

namespace NameMap

variable {α : Type} {name : String} {value : α} {l entries : List (String × α)}

lemma mem_of_mem_ofList {entry : String × α} (h : entry ∈ (ofList entries).entries) :
    entry ∈ entries := by
  induction entries using List.reverseRecOn with
  | nil => exact h
  | append_singleton entries last ih =>
    rw [ofList_concat] at h
    rcases eq_or_mem_of_mem_insertEntry h with rfl | h
    · exact List.mem_append_right _ (List.mem_singleton.2 rfl)
    · exact List.mem_append_left _ (ih h)

lemma insertEntry_perm (h : ∀ entry ∈ l, entry.1 ≠ name) :
    (insertEntry name value l).Perm ((name, value) :: l) := by
  induction l with
  | nil => exact .refl _
  | cons head rest ih =>
    obtain ⟨n, v⟩ := head
    have hne : n ≠ name := h (n, v) List.mem_cons_self
    rw [insertEntry]
    split
    · exact .refl _
    · next hnlt =>
      split
      · have hrest := ih fun entry hmem => h entry (List.mem_cons_of_mem _ hmem)
        exact (hrest.cons (n, v)).trans (.swap (name, value) (n, v) rest)
      · next hnlt' => exact absurd (eq_of_not_lt hnlt' hnlt) hne

/-- Entries of different names are all kept. -/
lemma ofList_entries_perm (h : (entries.map (·.1)).Nodup) :
    (ofList entries).entries.Perm entries := by
  induction entries using List.reverseRecOn with
  | nil => exact .refl _
  | append_singleton entries last ih =>
    rw [List.map_append, List.map_singleton] at h
    obtain ⟨hentries, -, hdisjoint⟩ := List.nodup_append.1 h
    have hne : ∀ entry ∈ (ofList entries).entries, entry.1 ≠ last.1 := fun entry hmem =>
      hdisjoint entry.1 (List.mem_map_of_mem (mem_of_mem_ofList hmem)) last.1 List.mem_cons_self
    rw [ofList_concat]
    exact (insertEntry_perm hne).trans (((ih hentries).cons last).trans
      (List.perm_append_singleton last entries).symm)

/-- The map of the entries of a map is that map. -/
lemma ofList_entries (m : NameMap α) : ofList m.entries = m :=
  ext_entries ((ofList_entries_perm m.nodup_names).eq_of_pairwise
    (fun _ _ _ _ hab hba => absurd (String.lt_trans hab hba) (String.lt_irrefl _))
    (ofList m.entries).sorted m.sorted)

lemma get?_ofList_of_nodup (h : (entries.map (·.1)).Nodup) (name : String) :
    (ofList entries).get? name = entries.lookup name := by
  ext value
  rw [get?_eq_some_iff, (ofList_entries_perm h).mem_iff, lookup_eq_some_iff_mem h]

lemma lookup_map {β : Type} (f : α → β) (l : List (String × α)) (name : String) :
    (l.map fun entry => (entry.1, f entry.2)).lookup name = (l.lookup name).map f := by
  induction l with
  | nil => rfl
  | cons head rest ih =>
    rw [List.map_cons, List.lookup_cons, List.lookup_cons, ih]
    cases name == head.1 <;> rfl

/-- The entries have the same names, and related values under them. -/
def EntriesRelated {β : Type} (R : α → β → Prop) (l : List (String × α))
    (m : List (String × β)) : Prop :=
  List.Forall₂ (fun a b => a.1 = b.1 ∧ R a.2 b.2) l m

section Related

variable {β : Type} {R : α → β → Prop} {m : List (String × β)}

lemma EntriesRelated.insertEntry {other : β} (h : EntriesRelated R l m) (hvalue : R value other) :
    EntriesRelated R (insertEntry name value l) (insertEntry name other m) := by
  induction h with
  | nil => exact .cons ⟨rfl, hvalue⟩ .nil
  | @cons a b l m hab hrest ih =>
    obtain ⟨n, v⟩ := a
    obtain ⟨_, w⟩ := b
    obtain ⟨rfl, hvw⟩ := hab
    rw [NameMap.insertEntry, NameMap.insertEntry]
    split_ifs
    · exact .cons ⟨rfl, hvalue⟩ (.cons ⟨rfl, hvw⟩ hrest)
    · exact .cons ⟨rfl, hvw⟩ ih
    · exact .cons ⟨rfl, hvalue⟩ hrest

lemma EntriesRelated.ofList (h : EntriesRelated R l m) :
    EntriesRelated R (ofList l).entries (ofList m).entries := by
  -- the same insertions on both sides, into maps that are related already
  have hfold : ∀ (s : NameMap α) (t : NameMap β), EntriesRelated R s.entries t.entries →
      EntriesRelated R (l.foldl (fun s e => s.insert e.1 e.2) s).entries
        (m.foldl (fun t e => t.insert e.1 e.2) t).entries := by
    induction h with
    | nil => exact fun s t hst => hst
    | cons hab hrest ih =>
      intro s t hst
      refine ih _ _ ?_
      obtain ⟨hname, hvw⟩ := hab
      simp only [hname]
      exact hst.insertEntry hvw
  exact hfold _ _ .nil

end Related

end NameMap

/-! ### Canonical trees -/

namespace Json

variable {tree : Json}

/-- What passes from the parts of a tree to the tree holds of all trees. -/
@[elab_as_elim]
lemma induction {P : Json → Prop} (null : P .null) (bool : ∀ b, P (.bool b))
    (number : ∀ n, P (.number n)) (string : ∀ text, P (.string text))
    (array : ∀ items, (∀ t ∈ items, P t) → P (.array items))
    (object : ∀ fields, (∀ name t, (name, t) ∈ fields → P t) → P (.object fields))
    (tree : Json) : P tree := by
  induction hn : sizeOf tree using Nat.strongRecOn generalizing tree with
  | ind n ih =>
    subst hn
    cases tree with
    | array items =>
      refine array items fun t ht => ih _ ?_ t rfl
      have hlt := List.sizeOf_lt_of_mem ht
      rw [Json.array.sizeOf_spec]
      omega
    | object fields =>
      refine object fields fun name t ht => ih _ ?_ t rfl
      have hlt := List.sizeOf_lt_of_mem ht
      rw [Json.object.sizeOf_spec]
      rw [Prod.mk.sizeOf_spec] at hlt
      omega
    | null => exact null
    | bool b => exact bool b
    | number n => exact number n
    | string text => exact string text

lemma canonicalList_eq_map (items : List Json) : canonicalList items = items.map canonical := by
  induction items with
  | nil => rfl
  | cons item rest ih => rw [canonicalList, ih, List.map_cons]

lemma canonicalFields_eq_map (fields : List (String × Json)) :
    canonicalFields fields = fields.map fun field => (field.1, field.2.canonical) := by
  induction fields with
  | nil => rfl
  | cons field rest ih => rw [canonicalFields, ih, List.map_cons]

lemma canonical_array (items : List Json) :
    (array items).canonical = array (items.map canonical) := by
  rw [canonical, canonicalList_eq_map]

lemma canonical_object (fields : List (String × Json)) :
    (object fields).canonical = object
      (NameMap.ofList (fields.map fun field => (field.1, field.2.canonical))).entries := by
  rw [canonical, canonicalFields_eq_map]

/-- An object is canonical if its fields are those of a map of canonical trees. -/
lemma canonical_object_entries {m : NameMap Json}
    (h : ∀ field ∈ m.entries, field.2.canonical = field.2) :
    (object m.entries).canonical = object m.entries := by
  have hmap : m.entries.map (fun field => (field.1, field.2.canonical)) = m.entries := by
    refine (List.map_congr_left fun field hfield => ?_).trans (List.map_id _)
    rw [h field hfield, id]
  rw [canonical_object, hmap, NameMap.ofList_entries]

lemma canonical_canonical (tree : Json) : tree.canonical.canonical = tree.canonical := by
  induction tree using Json.induction with
  | array items ih =>
    rw [canonical_array, canonical_array, List.map_map]
    exact congrArg array (List.map_congr_left ih)
  | object fields ih =>
    rw [canonical_object]
    refine canonical_object_entries fun field hfield => ?_
    obtain ⟨given, hgiven, rfl⟩ := List.mem_map.1 (NameMap.mem_of_mem_ofList hfield)
    exact ih given.1 given.2 hgiven
  | _ => rfl

end Json

/-! ### Decoding -/

/-- Decoding looks into no object, so the order of fields makes no difference to it. -/
lemma decodeValue_canonical (s : Schema) (tree : Json) :
    decodeValue s tree.canonical = decodeValue s tree := by
  induction s generalizing tree with
  | list e ih | set e ih =>
    cases tree with
    | array items =>
      rw [Json.canonical_array, decodeValue, decodeValue, mapOk_map]
      simp only [ih]
    | _ => rfl
  | _ =>
    cases tree with
    | array items =>
      rw [Json.canonical_array]
      rfl
    | _ => rfl

namespace Json

/-! ### Structures -/

namespace Convention

variable {convention : Convention} {names : List String} {fields : List (String × Json)}
  {values : List (Option Json)}

/-- What counts as nothing still does in its canonical form. -/
def OrderFree (convention : Convention) : Prop :=
  ∀ tree, convention.isNothing tree = true → convention.isNothing tree.canonical = true

lemma strict_orderFree : strict.OrderFree := by
  intro tree h
  cases tree <;> first | rfl | cases h

lemma tabular_orderFree : tabular.OrderFree := by
  intro tree h
  cases tree with
  | array items => cases items <;> first | rfl | cases h
  | object fields => cases fields <;> first | rfl | cases h
  | _ => cases h

lemma length_eraseDups_concat (l : List String) (name : String) :
    (l ++ [name]).eraseDups.length = l.eraseDups.length + if name ∈ l then 0 else 1 := by
  rw [List.eraseDups_append, List.length_append, List.removeAll]
  by_cases h : name ∈ l <;> simp [h, List.eraseDups_cons]

/-- Removing repetitions keeps the length of a list without repetitions only. -/
lemma length_eraseDups (l : List String) :
    l.eraseDups.length ≤ l.length ∧ (l.eraseDups.length = l.length ↔ l.Nodup) := by
  induction l using List.reverseRecOn with
  | nil => simp
  | append_singleton l name ih =>
    obtain ⟨hle, hiff⟩ := ih
    rw [length_eraseDups_concat, List.length_append, List.length_singleton,
      (List.perm_append_singleton name l).nodup_iff, List.nodup_cons, ← hiff]
    by_cases h : name ∈ l
    · rw [if_pos h]
      exact ⟨by omega, iff_of_false (by omega) fun hnew => hnew.1 h⟩
    · rw [if_neg h]
      exact ⟨by omega, by simp [h]⟩

lemma fields?_object_eq_some_iff : convention.fields? names (.object fields) = some values ↔
    (fields.map (·.1)).Nodup ∧ (∀ name ∈ fields.map (·.1), name ∈ names) ∧
      values = names.map fun name => fields.lookup name := by
  simp only [fields?, Option.ite_none_right_eq_some, Bool.and_eq_true, beq_iff_eq,
    (length_eraseDups _).2, List.all_eq_true, List.contains_iff_mem, Option.some.injEq]
  constructor
  · rintro ⟨⟨hnames, hnodup⟩, rfl⟩
    exact ⟨hnodup, hnames, rfl⟩
  · rintro ⟨hnodup, hnames, rfl⟩
    exact ⟨⟨hnames, hnodup⟩, rfl⟩

/-- The fields of the canonical form are those of the tree, in their canonical form. -/
lemma fields?_canonical (h : convention.fields? names tree = some values) :
    convention.fields? names tree.canonical = some (values.map (Option.map canonical)) := by
  cases tree with
  | object fields =>
    obtain ⟨hnodup, hnames, rfl⟩ := fields?_object_eq_some_iff.1 h
    have hkept : (fields.map fun field => (field.1, field.2.canonical)).map (·.1) =
        fields.map (·.1) := by
      rw [List.map_map]
      rfl
    rw [← hkept] at hnodup
    have hperm := (NameMap.ofList_entries_perm hnodup).map (·.1)
    rw [hkept] at hperm
    rw [canonical_object, fields?_object_eq_some_iff]
    refine ⟨NameMap.nodup_names _, fun name hname => hnames name (hperm.mem_iff.1 hname), ?_⟩
    rw [List.map_map]
    refine List.map_congr_left fun name _ => ?_
    exact ((NameMap.get?_ofList_of_nodup hnodup name).trans (NameMap.lookup_map _ _ _)).symm
  | array items =>
    simp only [canonical_array, fields?, List.length_map, Option.ite_none_right_eq_some,
      Option.some.injEq] at h ⊢
    obtain ⟨hlength, rfl⟩ := h
    refine ⟨hlength, ?_⟩
    rw [List.map_map]
    exact List.map_congr_left fun i _ => List.getElem?_map
  | _ => cases h

end Convention

end Json

end RecordQuery
