/-
# Finite maps from names

A map whose keys are names, kept as its list of entries in strictly increasing
order of the name.  Names compare by scalar values, which is the order of their
UTF-8 octets, so listing the entries is listing them in octet order.

| Operation | What it does to `get?` |
|-----------|------------------------|
| `empty` | nothing is bound (`get?_empty`) |
| `insert m n a` | binds `n` to `a`, keeps all else (`get?_insert`) |
| `erase m n` | unbinds `n`, keeps all else (`get?_erase`) |

The order is part of the type, so two maps with the same bindings have the same
entries.
-/

namespace ComponentHost

/-- Entries in strictly increasing order of their names. -/
structure ByName (α : Type) where
  entries : List (String × α)
  increasing : entries.Pairwise (·.1 < ·.1)

namespace ByName

variable {α : Type}

/-- The map without bindings. -/
def empty : ByName α := ⟨[], .nil⟩

instance : Inhabited (ByName α) := ⟨empty⟩

/-- The value bound to a name. -/
def get? (m : ByName α) (name : String) : Option α := m.entries.lookup name

/-- The names bound, in increasing order. -/
def names (m : ByName α) : List String := m.entries.map (·.1)

/-- How many names are bound. -/
def size (m : ByName α) : Nat := m.entries.length

/-- Puts a binding into an ordered list of entries, in place of one of the same name. -/
def insertEntry (name : String) (value : α) : List (String × α) → List (String × α)
  | [] => [(name, value)]
  | (n, v) :: rest =>
    if name < n then (name, value) :: (n, v) :: rest
    else if n = name then (name, value) :: rest
    else (n, v) :: insertEntry name value rest

theorem name_of_mem_insertEntry {name : String} {value : α} {entries : List (String × α)}
    {e : String × α} (h : e ∈ insertEntry name value entries) : e.1 = name ∨ e ∈ entries := by
  induction entries with
  | nil => simp_all [insertEntry]
  | cons d rest ih =>
    obtain ⟨n, v⟩ := d
    simp only [insertEntry] at h
    split at h
    · rcases List.mem_cons.1 h with rfl | h
      · exact .inl rfl
      · exact .inr h
    · split at h
      · rcases List.mem_cons.1 h with rfl | h
        · exact .inl rfl
        · exact .inr (List.mem_cons_of_mem _ h)
      · rcases List.mem_cons.1 h with rfl | h
        · exact .inr (List.mem_cons_self ..)
        · exact (ih h).imp id (List.mem_cons_of_mem _)

theorem increasing_insertEntry {name : String} {value : α} {entries : List (String × α)}
    (h : entries.Pairwise (·.1 < ·.1)) : (insertEntry name value entries).Pairwise (·.1 < ·.1) := by
  induction entries with
  | nil => exact .cons (by simp) .nil
  | cons d rest ih =>
    obtain ⟨n, v⟩ := d
    obtain ⟨below, tail⟩ := List.pairwise_cons.1 h
    simp only [insertEntry]
    split
    · rename_i less
      refine .cons (fun e he => ?_) h
      rcases List.mem_cons.1 he with rfl | he
      · exact less
      · exact String.lt_trans less (below e he)
    · rename_i notLess
      split
      · rename_i same
        subst same
        exact .cons below tail
      · rename_i other
        refine .cons (fun e he => ?_) (ih tail)
        rcases name_of_mem_insertEntry he with rfl | he
        · exact Std.lt_of_le_of_ne notLess other
        · exact below e he

/-- Binds a name, in place of its former binding. -/
def insert (m : ByName α) (name : String) (value : α) : ByName α :=
  ⟨insertEntry name value m.entries, increasing_insertEntry m.increasing⟩

/-- Takes the binding of a name away. -/
def erase (m : ByName α) (name : String) : ByName α :=
  ⟨m.entries.filter (·.1 ≠ name), m.increasing.filter _⟩

theorem lookup_insertEntry (name other : String) (value : α) (entries : List (String × α)) :
    (insertEntry name value entries).lookup other =
      if other = name then some value else entries.lookup other := by
  induction entries with
  | nil =>
    by_cases h : other = name
    · simp [insertEntry, h]
    · have : (other == name) = false := by simpa using h
      simp [insertEntry, List.lookup_cons, this, h]
  | cons d rest ih =>
    obtain ⟨n, v⟩ := d
    simp only [insertEntry]
    split
    · by_cases h : other = name
      · simp [h]
      · have : (other == name) = false := by simpa using h
        rw [List.lookup_cons, this, if_neg h]
    · split
      · rename_i same
        subst same
        by_cases h : other = n
        · simp [h]
        · have : (other == n) = false := by simpa using h
          simp [List.lookup_cons, this, h]
      · rename_i distinct
        by_cases here : other = n
        · subst here
          simp [distinct]
        · have : (other == n) = false := by simpa using here
          rw [List.lookup_cons, this, List.lookup_cons, this, ih]

@[simp] theorem get?_empty (name : String) : (empty : ByName α).get? name = none := rfl

@[simp] theorem names_empty : (empty : ByName α).names = [] := rfl

/-- **The last write of a name is what is read under it.** -/
theorem get?_insert (m : ByName α) (name other : String) (value : α) :
    (m.insert name value).get? other = if other = name then some value else m.get? other :=
  lookup_insertEntry ..

theorem get?_erase (m : ByName α) (name other : String) :
    (m.erase name).get? other = if other = name then none else m.get? other := by
  simp only [get?, erase]
  generalize m.entries = entries
  induction entries with
  | nil => simp
  | cons d rest ih =>
    obtain ⟨n, v⟩ := d
    by_cases keep : n = name
    · subst keep
      rw [List.filter_cons_of_neg (by simp), ih]
      by_cases h : other = n
      · simp [h]
      · have : (other == n) = false := by simpa using h
        simp [List.lookup_cons, h, this]
    · rw [List.filter_cons_of_pos (by simpa using keep)]
      by_cases here : other = n
      · subst here
        simp [keep]
      · have : (other == n) = false := by simpa using here
        rw [List.lookup_cons, this, List.lookup_cons, this, ih]

/-- The names of a map are in strictly increasing order. -/
theorem names_increasing (m : ByName α) : m.names.Pairwise (· < ·) :=
  List.pairwise_map.2 m.increasing

end ByName
end ComponentHost
