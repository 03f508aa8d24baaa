/-
# Where a look-up ends

`FileTree.lookUp` gives a location only after it has gone through every directory
above it, so the location is canonical: directories that may be searched stand at all
places above it, what stands at it is no link, and its names are names of entries.
One walk keeps this (`walk_sound`), a look-up is a bounded number of walks
(`follow_canonical`).

The way there depends on the shape of the tree alone, on which names there are, of
which kind, what the links stand for, and which directories may be searched.  Two
trees that differ only in what their files hold, and in what may be read, lead every
path to the same location (`lookUp_congr`).
-/

import ComponentHost.FileTree

namespace ComponentHost

/-! ### Segments -/

/-- A segment holds no slash. -/
theorem Path.slash_notMem_of_mem_splitAtSlashes {bs s : Bytes} (h : s ∈ splitAtSlashes bs) :
    slash ∉ s := by
  induction bs generalizing s with
  | nil =>
    rw [splitAtSlashes, List.mem_singleton] at h
    simp [h]
  | cons b bs ih =>
    rw [splitAtSlashes] at h
    split at h
    · rcases List.mem_cons.1 h with rfl | h
      · exact List.not_mem_nil
      · exact ih h
    · rename_i hb
      have first : ∀ t, slash ∉ t → slash ∉ b :: t := fun t ht hmem => by
        rcases List.mem_cons.1 hmem with rfl | hmem
        · exact hb rfl
        · exact ht hmem
      split at h
      · rw [List.mem_singleton.1 h]
        exact first [] List.not_mem_nil
      · rename_i t ts hsplit
        rcases List.mem_cons.1 h with rfl | h
        · exact first t (ih (hsplit ▸ List.mem_cons_self ..))
        · exact ih (hsplit ▸ List.mem_cons_of_mem _ h)

/-! ### Kinds of entries -/

/-- What kind of entry stands somewhere, and what a link stands for. -/
inductive EntryKind where
  | directory
  | file
  | symlink (target : Path)
  deriving DecidableEq, Repr

/-- An entry without the octets of a file. -/
def Entry.kind : Entry → EntryKind
  | .directory => .directory
  | .file _ => .file
  | .symlink target => .symlink target

theorem Entry.map_kind_eq_directory_iff {e : Option Entry} :
    e.map Entry.kind = some .directory ↔ e = some .directory := by
  rcases e with _ | (_ | _ | _) <;> simp [Entry.kind]

namespace FileTree

/-! ### Canonical locations -/

/-- A location that is reached without a link. -/
structure Canonical (tree : FileTree) (location : Location) : Prop where
  /-- All places above it are directories. -/
  above : ∀ upper, upper <+: location → upper ≠ location → tree.entryAt upper = some .directory
  /-- All places above it may be searched. -/
  searched : ∀ upper, upper <+: location → upper ≠ location → tree.Permits .search upper
  /-- Something stands at it, and that is no link. -/
  entry : ∃ e, tree.entryAt location = some e ∧ ∀ target, e ≠ .symlink target
  names : ∀ s ∈ location, Path.IsName s

variable {tree other : FileTree} {manner : Manner}

theorem canonical_root (tree : FileTree) : tree.Canonical [] where
  above _ h ne := absurd (List.prefix_nil.1 h) ne
  searched _ h ne := absurd (List.prefix_nil.1 h) ne
  entry := ⟨.directory, rfl, fun _ => nofun⟩
  names _ h := absurd h List.not_mem_nil

/-- The place above a canonical location is canonical. -/
theorem Canonical.dropLast {location : Location} (h : tree.Canonical location) :
    tree.Canonical location.dropLast := by
  rcases List.eq_nil_or_concat location with rfl | ⟨upper, name, rfl⟩
  · exact h
  · rw [List.concat_eq_append] at h ⊢
    rw [List.dropLast_concat]
    have shorter : ∀ l, l <+: upper → l ≠ upper ++ [name] := fun l hl heq => by
      have := hl.length_le
      rw [heq, List.length_append, List.length_singleton] at this
      omega
    have extend : ∀ l, l <+: upper → l <+: upper ++ [name] := fun l hl =>
      hl.trans (List.prefix_append ..)
    refine ⟨fun l hl _ => h.above l (extend l hl) (shorter l hl),
      fun l hl _ => h.searched l (extend l hl) (shorter l hl),
      ⟨.directory, h.above upper (extend _ (List.prefix_refl _)) (shorter _ (List.prefix_refl _)),
        fun _ => nofun⟩, fun s hs => h.names s (List.mem_append_left _ hs)⟩

/-- An entry of a canonical directory that may be searched is canonical, if it is no link. -/
theorem Canonical.child {here : Location} {name : Bytes} {e : Entry} (h : tree.Canonical here)
    (directory : tree.entryAt here = some .directory) (search : tree.Permits .search here)
    (hname : Path.IsName name) (he : tree.entryAt (here ++ [name]) = some e)
    (nolink : ∀ target, e ≠ .symlink target) : tree.Canonical (here ++ [name]) where
  above upper hu ne := by
    rcases List.prefix_concat_iff.1 hu with heq | hu
    · exact absurd heq ne
    · by_cases same : upper = here
      · rw [same, directory]
      · exact h.above upper hu same
  searched upper hu ne := by
    rcases List.prefix_concat_iff.1 hu with heq | hu
    · exact absurd heq ne
    · by_cases same : upper = here
      · rw [same]
        exact search
      · exact h.searched upper hu same
  entry := ⟨e, he, nolink⟩
  names s hs := by
    rcases List.mem_append.1 hs with hs | hs
    · exact h.names s hs
    · rw [List.mem_singleton.1 hs]
      exact hname

/-! ### Walks -/

/-- A look-up goes on only from a directory, and looks for a segment only where it may
search. -/
theorem obstruction?_eq_none_iff {here : Location} {s : Bytes} :
    tree.obstruction? manner here s = none ↔ tree.entryAt here = some .directory ∧
      (manner.searches s = true → tree.Permits .search here) := by
  rw [obstruction?]
  split
  · rename_i other
    exact iff_of_false nofun fun h => other h.1
  rename_i directory
  split
  · rename_i denied
    exact iff_of_false nofun fun h => denied.2 (h.2 denied.1)
  · rename_i allowed
    exact iff_of_true rfl ⟨Decidable.not_not.1 directory,
      fun search => Decidable.not_not.1 fun denied => allowed ⟨search, denied⟩⟩

/-- A name is looked for in its directory, whichever the manner. -/
theorem searches_of_isName {s : Bytes} (h : Path.IsName s) (manner : Manner) :
    manner.searches s = true := by
  obtain ⟨nonempty, notStay, notUp, -⟩ := h
  cases manner <;> simp [Manner.searches, nonempty, notStay, notUp]

/-- What a walk that began at a canonical location tells: where it arrived is
canonical, and so is the place from which a link goes on. -/
def Walk.Sound (tree : FileTree) : Walk → Prop
  | .arrived location => tree.Canonical location
  | .linked location segments => tree.Canonical location ∧ ∀ s ∈ segments, Path.slash ∉ s
  | .failed _ => True

theorem walk_sound {here : Location} {segments : List Bytes} (h : tree.Canonical here)
    (hs : ∀ s ∈ segments, Path.slash ∉ s) : (tree.walk manner here segments).Sound tree := by
  induction segments generalizing here with
  | nil => exact h
  | cons s rest ih =>
    have hrest : ∀ t ∈ rest, Path.slash ∉ t := fun t ht => hs t (List.mem_cons_of_mem _ ht)
    simp only [walk]
    split
    · split
      · trivial
      · exact ih h hrest
    rename_i notStay
    split
    · split
      · trivial
      · exact ih h.dropLast hrest
    rename_i notUp
    split
    · trivial
    split
    · trivial
    rename_i free
    have hname : Path.IsName s :=
      ⟨fun e => notStay (.inl e), fun e => notStay (.inr e), notUp, hs s (List.mem_cons_self ..)⟩
    obtain ⟨directory, search⟩ := obstruction?_eq_none_iff.1 free
    split
    · trivial
    split
    · trivial
    · rename_i target _
      refine ⟨?_, fun t ht => ?_⟩
      · rw [linkBase]
        split
        · exact canonical_root tree
        · exact h
      · rcases List.mem_append.1 ht with ht | ht
        · exact Path.slash_notMem_of_mem_splitAtSlashes ht
        · exact hrest t ht
    · rename_i e nolink he
      exact ih (h.child directory (search (searches_of_isName hname manner)) hname he nolink) hrest

/-- **Links end at canonical locations.** -/
theorem follow_canonical {links : Nat} {here location : Location} {segments : List Bytes}
    (h : tree.Canonical here) (hs : ∀ s ∈ segments, Path.slash ∉ s)
    (hf : tree.follow manner links here segments = .ok location) : tree.Canonical location := by
  induction links generalizing here segments with
  | zero =>
    have sound : (tree.walk manner here segments).Sound tree := walk_sound h hs
    rw [follow] at hf
    split at hf
    · rename_i there hw
      rw [hw] at sound
      exact Except.ok.inj hf ▸ sound
    · cases hf
    · cases hf
  | succ links ih =>
    have sound : (tree.walk manner here segments).Sound tree := walk_sound h hs
    rw [follow] at hf
    split at hf
    · rename_i there hw
      rw [hw] at sound
      exact Except.ok.inj hf ▸ sound
    · cases hf
    · rename_i base segments' hw
      rw [hw] at sound
      exact ih sound.1 sound.2 hf

/-- **A path leads to a canonical location or nowhere.** -/
theorem canonical_of_lookUp {p : Path} {location : Location}
    (h : tree.lookUp manner p = .ok location) : tree.Canonical location := by
  rw [lookUp] at h
  split at h
  · cases h
  split at h
  · cases h
  exact follow_canonical (canonical_root tree)
    (fun _ hs => Path.slash_notMem_of_mem_splitAtSlashes hs) h

/-! ### The shape of a tree -/

/-- Two trees with the same names, kinds of entries and link targets everywhere, of which
the same directories may be searched. -/
structure SameShape (tree other : FileTree) : Prop where
  kinds : ∀ location,
    (tree.entryAt location).map Entry.kind = (other.entryAt location).map Entry.kind
  search : ∀ location, tree.Permits .search location ↔ other.Permits .search location

theorem SameShape.directory_iff (h : tree.SameShape other) (location : Location) :
    tree.entryAt location = some .directory ↔ other.entryAt location = some .directory := by
  rw [← Entry.map_kind_eq_directory_iff, h.kinds location, Entry.map_kind_eq_directory_iff]

theorem obstruction?_congr (h : tree.SameShape other) (here : Location) (s : Bytes) :
    tree.obstruction? manner here s = other.obstruction? manner here s := by
  simp only [obstruction?, ne_eq, h.directory_iff, h.search]

/-- A walk sees the shape of a tree only. -/
theorem walk_congr (h : tree.SameShape other) (here : Location) (segments : List Bytes) :
    tree.walk manner here segments = other.walk manner here segments := by
  induction segments generalizing here with
  | nil => rfl
  | cons s rest ih =>
    simp only [walk, obstruction?_congr h, ih]
    -- What is left is the entry itself, of which a walk asks whether it is a link.
    have kinds := h.kinds (here ++ [s])
    generalize tree.entryAt (here ++ [s]) = e at kinds ⊢
    generalize other.entryAt (here ++ [s]) = e' at kinds ⊢
    rcases e with _ | (_ | _ | _) <;> rcases e' with _ | (_ | _ | _) <;>
      simp_all [Entry.kind]

theorem follow_congr (h : tree.SameShape other) (links : Nat) (here : Location)
    (segments : List Bytes) :
    tree.follow manner links here segments = other.follow manner links here segments := by
  induction links generalizing here segments with
  | zero => rw [follow, follow, walk_congr h]
  | succ links ih =>
    rw [follow, follow, walk_congr h]
    split
    · rfl
    · rfl
    · exact ih _ _

/-- **Where a path leads does not depend on what files hold.** -/
theorem lookUp_congr (h : tree.SameShape other) (p : Path) :
    tree.lookUp manner p = other.lookUp manner p := by
  rw [lookUp, lookUp, follow_congr h]

/-! ### Putting one entry -/

/-- Only the place where an entry is put changes. -/
theorem entryAt_put {place : Location} (h : place ≠ []) (entry : Entry) (location : Location) :
    (tree.put place entry).entryAt location =
      if location = place then some entry else tree.entryAt location := by
  rcases location with _ | ⟨name, names⟩
  · rw [if_neg fun e => h e.symm]
    rfl
  change (put tree place entry).entries.lookup (name :: names) =
    if name :: names = place then some entry else tree.entries.lookup (name :: names)
  by_cases same : name :: names = place
  · rw [if_pos same, put, same, List.lookup_cons_self]
  · have front : (name :: names == place) = false := beq_eq_false_iff_ne.2 same
    simp only [if_neg same, put, List.lookup_cons, front]
    generalize tree.entries = entries
    induction entries with
    | nil => rfl
    | cons d rest ih =>
      obtain ⟨l, e⟩ := d
      by_cases keep : l = place
      · have skip : (name :: names == l) = false := keep ▸ front
        rw [List.filter_cons_of_neg (by simpa using keep), ih, List.lookup_cons, skip]
      · rw [List.filter_cons_of_pos (by simpa using keep), List.lookup_cons, List.lookup_cons, ih]

/-- Writing a file anew keeps the shape. -/
theorem sameShape_put_file {place : Location} {old : Bytes} (h : place ≠ [])
    (hold : tree.entryAt place = some (.file old)) (new : Bytes) :
    tree.SameShape (tree.put place (.file new)) := by
  refine ⟨fun location => ?_, fun _ => Iff.rfl⟩
  rw [entryAt_put h]
  split
  · rename_i same
    rw [same, hold]
    rfl
  · rfl

end FileTree
end ComponentHost
