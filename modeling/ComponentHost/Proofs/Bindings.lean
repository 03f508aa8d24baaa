/-
# A map is its bindings

The entries of a map are in strictly increasing order of the name, so each binding
stands in them once (`ByName.mem_entries_iff`), and maps with the same bindings are the
same map (`ByName.ext_get?`).  A new binding goes where its name belongs
(`insertEntry_ahead`, `insertEntry_behind`), and wherever that is, it is one entry more
(`perm_entries_insert`).  What is made of a map binding by binding can be read binding by binding
(`ByName.get?_filterMap`).
-/

import ComponentHost.ByName
import Mathlib.Data.List.Sort

namespace ComponentHost
namespace ByName

variable {α β : Type}

/-- **What is listed is what is bound.** -/
theorem mem_entries_iff {m : ByName α} {name : String} {a : α} :
    (name, a) ∈ m.entries ↔ m.get? name = some a := by
  obtain ⟨entries, increasing⟩ := m
  rw [get?]
  induction entries with
  | nil => simp
  | cons e rest ih =>
    obtain ⟨n, b⟩ := e
    obtain ⟨below, tail⟩ := List.pairwise_cons.1 increasing
    by_cases here : name = n
    · subst here
      -- No later entry has the name of the first.
      have later : (name, a) ∉ rest := fun h => String.lt_irrefl name (below _ h)
      simp [later, eq_comm]
    · have : (name == n) = false := by simpa using here
      rw [List.lookup_cons, this, ← ih tail]
      simp [here]

theorem ext {m m' : ByName α} (h : m.entries = m'.entries) : m = m' := by
  obtain ⟨entries, _⟩ := m
  obtain ⟨entries', _⟩ := m'
  obtain rfl : entries = entries' := h
  rfl

/-- **Maps with the same bindings are the same.** -/
theorem ext_get? {m m' : ByName α} (h : ∀ name, m.get? name = m'.get? name) : m = m' := by
  have irrefl : Std.Irrefl fun d e : String × α => d.1 < e.1 := ⟨fun _ => String.lt_irrefl _⟩
  have antisymm : Std.Antisymm fun d e : String × α => d.1 < e.1 :=
    ⟨fun _ _ less greater => absurd greater (String.lt_asymm less)⟩
  refine ext (m.increasing.eq_of_mem_iff m'.increasing fun e => ?_)
  rw [mem_entries_iff, mem_entries_iff, h]

/-- A name before the first one is put in front. -/
theorem insertEntry_ahead {name n : String} (h : name < n) (value v : α)
    (rest : List (String × α)) :
    insertEntry name value ((n, v) :: rest) = (name, value) :: (n, v) :: rest := by
  rw [insertEntry, if_pos h]

/-- A name after the first one is put among the others. -/
theorem insertEntry_behind {name n : String} (h : n < name) (value v : α)
    (rest : List (String × α)) :
    insertEntry name value ((n, v) :: rest) = (n, v) :: insertEntry name value rest := by
  have other : n ≠ name := fun e => String.lt_irrefl name (e ▸ h)
  rw [insertEntry, if_neg (String.lt_asymm h), if_neg other]

theorem perm_insertEntry {name : String} {entries : List (String × α)}
    (free : ∀ e ∈ entries, e.1 ≠ name) (value : α) :
    (insertEntry name value entries).Perm ((name, value) :: entries) := by
  induction entries with
  | nil => exact .refl _
  | cons e rest ih =>
    obtain ⟨n, v⟩ := e
    obtain ⟨other, later⟩ := List.forall_mem_cons.1 free
    have other : n ≠ name := other
    rw [insertEntry, if_neg other]
    split
    · exact .refl _
    · exact ((ih later).cons _).trans (.swap ..)

/-- **A name that was not bound gets one entry more**, and all others stay. -/
theorem perm_entries_insert {m : ByName α} {name : String} (free : m.get? name = none)
    (value : α) : (m.insert name value).entries.Perm ((name, value) :: m.entries) := by
  refine perm_insertEntry (fun e mem same => ?_) value
  obtain ⟨n, v⟩ := e
  obtain rfl : n = name := same
  rw [mem_entries_iff.1 mem] at free
  cases free

/-- Keeps of each binding what a function makes of it, if anything. -/
def filterMap (f : α → Option β) (m : ByName α) : ByName β where
  entries := m.entries.filterMap fun e => (f e.2).map (e.1, ·)
  increasing := by
    refine m.increasing.filterMap _ fun d e less d' hd e' he => ?_
    obtain ⟨_, -, rfl⟩ := Option.map_eq_some_iff.1 hd
    obtain ⟨_, -, rfl⟩ := Option.map_eq_some_iff.1 he
    exact less

theorem get?_filterMap (f : α → Option β) (m : ByName α) (name : String) :
    (m.filterMap f).get? name = (m.get? name).bind f := by
  ext b
  rw [← mem_entries_iff, Option.bind_eq_some_iff]
  constructor
  · intro h
    obtain ⟨⟨n, a⟩, mem, made⟩ := List.mem_filterMap.1 h
    obtain ⟨b', hb, same⟩ := Option.map_eq_some_iff.1 made
    obtain ⟨rfl, rfl⟩ := Prod.mk.inj same
    exact ⟨a, mem_entries_iff.1 mem, hb⟩
  · rintro ⟨a, bound, made⟩
    exact List.mem_filterMap.2 ⟨(name, a), mem_entries_iff.2 bound, by rw [made]; rfl⟩

end ByName
end ComponentHost
