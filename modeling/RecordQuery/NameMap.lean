/-!
Finite maps from names, kept in the byte order of the names.

The entries are a list in strictly rising order of name, so two maps with the same entries are
the same map, and whatever walks a map meets the names in one fixed order. The order of strings
by code point is the order of their UTF-8 bytes.
-/

namespace RecordQuery

/-- Values under names, in strictly rising order of name. -/
structure NameMap (α : Type) where
  entries : List (String × α)
  sorted : entries.Pairwise fun a b => a.1 < b.1

namespace NameMap

variable {α : Type}

def empty : NameMap α := ⟨[], .nil⟩

instance : Inhabited (NameMap α) := ⟨empty⟩

/-- Puts a value in the place of its name, over the value that was there. -/
def insertEntry (name : String) (value : α) : List (String × α) → List (String × α)
  | [] => [(name, value)]
  | (n, v) :: rest =>
    if name < n then (name, value) :: (n, v) :: rest
    else if n < name then (n, v) :: insertEntry name value rest
    else (name, value) :: rest

theorem eq_or_mem_of_mem_insertEntry {name : String} {value : α} {e : String × α}
    {l : List (String × α)} (h : e ∈ insertEntry name value l) : e = (name, value) ∨ e ∈ l := by
  induction l with
  | nil => simpa [insertEntry] using h
  | cons head rest ih =>
    simp only [insertEntry] at h
    split at h
    · simpa using h
    · split at h
      · rcases List.mem_cons.1 h with h | h
        · exact .inr (by simp [h])
        · exact (ih h).imp_right fun h => by simp [h]
      · rcases List.mem_cons.1 h with h | h
        · exact .inl h
        · exact .inr (by simp [h])

theorem eq_of_not_lt {a b : String} (h : ¬a < b) (h' : ¬b < a) : a = b :=
  String.le_antisymm (String.not_lt.1 h') (String.not_lt.1 h)

theorem sorted_insertEntry {name : String} {value : α} {l : List (String × α)}
    (h : l.Pairwise fun a b => a.1 < b.1) :
    (insertEntry name value l).Pairwise fun a b => a.1 < b.1 := by
  induction l with
  | nil => simp [insertEntry]
  | cons head rest ih =>
    obtain ⟨hh, hr⟩ := List.pairwise_cons.1 h
    simp only [insertEntry]
    split
    · next hlt =>
      refine List.pairwise_cons.2 ⟨fun e he => ?_, h⟩
      rcases List.mem_cons.1 he with rfl | he
      · exact hlt
      · exact String.lt_trans hlt (hh e he)
    · next hnlt =>
      split
      · next hlt =>
        refine List.pairwise_cons.2 ⟨fun e he => ?_, ih hr⟩
        rcases eq_or_mem_of_mem_insertEntry he with rfl | he
        · exact hlt
        · exact hh e he
      · next hnlt' =>
        have hname : name = head.1 := eq_of_not_lt hnlt hnlt'
        exact List.pairwise_cons.2 ⟨fun e he => by simpa [hname] using hh e he, hr⟩

def insert (m : NameMap α) (name : String) (value : α) : NameMap α :=
  ⟨insertEntry name value m.entries, sorted_insertEntry m.sorted⟩

def get? (m : NameMap α) (name : String) : Option α := m.entries.lookup name

def names (m : NameMap α) : List String := m.entries.map (·.1)

def size (m : NameMap α) : Nat := m.entries.length

/-- The map of a list of entries; of several under one name the last one counts. -/
def ofList (entries : List (String × α)) : NameMap α :=
  entries.foldl (fun m e => m.insert e.1 e.2) empty

/-! ### Look-up -/

@[simp] theorem get?_empty (name : String) : (empty : NameMap α).get? name = none := rfl

theorem lookup_insertEntry (name other : String) (value : α) (l : List (String × α)) :
    (insertEntry name value l).lookup other =
      if other = name then some value else l.lookup other := by
  induction l with
  | nil =>
    by_cases h : other = name
    · simp [insertEntry, h]
    · have h' : (other == name) = false := by simpa using h
      simp [insertEntry, List.lookup_cons, h, h']
  | cons head rest ih =>
    obtain ⟨n, v⟩ := head
    simp only [insertEntry]
    split
    · by_cases h : other = name
      · simp [h]
      · have h' : (other == name) = false := by simpa using h
        simp [List.lookup_cons, h, h']
    · next hnlt =>
      split
      · next hlt =>
        have hne : n ≠ name := fun h => String.lt_irrefl _ (h ▸ hlt)
        by_cases h : other = n
        · simp [h, hne]
        · have h' : (other == n) = false := by simpa using h
          simp [List.lookup_cons, h', ih]
      · next hnlt' =>
        have hname : name = n := eq_of_not_lt hnlt hnlt'
        by_cases h : other = n
        · simp [h, hname]
        · have h' : (other == n) = false := by simpa using h
          simp [List.lookup_cons, h, h', hname]

/-- An insertion shows under its own name and leaves the other names as they were. -/
theorem get?_insert (m : NameMap α) (name other : String) (value : α) :
    (m.insert name value).get? other = if other = name then some value else m.get? other :=
  lookup_insertEntry name other value m.entries

/-- Where no name comes twice, a look-up finds what is there. -/
theorem lookup_eq_some_iff_mem {name : String} {value : α} {l : List (String × α)}
    (h : (l.map (·.1)).Nodup) : l.lookup name = some value ↔ (name, value) ∈ l := by
  induction l with
  | nil => simp
  | cons head rest ih =>
    obtain ⟨n, v⟩ := head
    obtain ⟨hn, hr⟩ := List.nodup_cons.1 h
    by_cases hname : name = n
    · subst hname
      have hnot : (name, value) ∉ rest := fun hm => hn (List.mem_map_of_mem (f := (·.1)) hm)
      simp [hnot, eq_comm]
    · have hname' : (name == n) = false := by simpa using hname
      simp [List.lookup_cons, hname', ih hr, hname]

theorem nodup_names (m : NameMap α) : m.names.Nodup := by
  refine List.pairwise_map.2 (m.sorted.imp fun hlt heq => ?_)
  rw [heq] at hlt
  exact String.lt_irrefl _ hlt

/-- The entries of a map are what look-ups find. -/
theorem get?_eq_some_iff {m : NameMap α} {name : String} {value : α} :
    m.get? name = some value ↔ (name, value) ∈ m.entries :=
  lookup_eq_some_iff_mem m.nodup_names

theorem ext_entries {m n : NameMap α} (h : m.entries = n.entries) : m = n := by
  cases m; cases n; cases h; rfl

end NameMap

end RecordQuery
