/-
# Components below a directory

Segments are what stands between slashes, so a slash between two spellings puts their
segments one after another (`splitAtSlashes_append_slash`).  Two facts about components
follow: the entry of a directory has one component more than the directory
(`components_child`), and the last segment of a path is its last component, unless it is
one of those that mean nothing (`exists_components_append`).

A descent that is not refused therefore adds the components of the relative path to those
of the directory (`components_of_descend`), and ends at the name that the relative path
ends with (`fileName?_of_descend`).  It is refused exactly if the relative path could leave the
directory: it begins with a slash, or one of its segments is `..`
(`resolveWithin_eq_none_iff`).
-/

import ComponentHost.Asset.Load
import ComponentHost.Proofs.AbsolutePath
import ComponentHost.Proofs.Location

namespace ComponentHost
namespace Path

/-! ### Segments -/

/-- Splitting at slashes is splitting at one element of a list. -/
theorem splitAtSlashes_eq_splitOn (bs : Bytes) : splitAtSlashes bs = bs.splitOn slash := by
  induction bs with
  | nil => rfl
  | cons b bs ih =>
    obtain ⟨s, ss, hss⟩ := List.exists_cons_of_ne_nil (splitAtSlashes_ne_nil bs)
    rw [List.splitOn_cons_eq_if_modifyHead, ← ih, splitAtSlashes, hss]
    by_cases h : b = slash
    · rw [if_pos h, if_pos (beq_iff_eq.2 h)]
    · rw [if_neg h, if_neg (mt beq_iff_eq.1 h)]
      rfl

/-- **A slash separates segments.** -/
theorem splitAtSlashes_append_slash (front rest : Bytes) :
    splitAtSlashes (front ++ slash :: rest) = splitAtSlashes front ++ splitAtSlashes rest := by
  rw [splitAtSlashes_eq_splitOn, List.splitOn_append_cons_self, splitAtSlashes_eq_splitOn,
    splitAtSlashes_eq_splitOn]

theorem splitAtSlashes_of_notMem {bs : Bytes} (h : slash ∉ bs) : splitAtSlashes bs = [bs] := by
  rw [splitAtSlashes_eq_splitOn, List.splitOn_eq_singleton h]

/-- What is in a list has a last place there. -/
theorem exists_eq_append_of_mem {α : Type} {a : α} {l : List α} (h : a ∈ l) :
    ∃ front last, l = front ++ a :: last ∧ a ∉ last := by
  obtain ⟨last, front, hreverse, hlast⟩ := List.eq_append_cons_of_mem (List.mem_reverse.2 h)
  refine ⟨front.reverse, last.reverse, ?_, mt List.mem_reverse.1 hlast⟩
  rw [← List.reverse_reverse l, hreverse]
  simp

/-- The segment behind the last slash. -/
def lastSegment (p : Path) : Bytes := p.segments.getLast (splitAtSlashes_ne_nil p.bytes)

/-- The segments of a path, the last one apart. -/
theorem segments_eq_append (p : Path) : p.segments = p.segments.dropLast ++ [p.lastSegment] :=
  (List.dropLast_concat_getLast _).symm

/-- A path is its last segment, or it ends in a slash and that segment. -/
theorem bytes_eq_lastSegment_or (p : Path) :
    p.bytes = p.lastSegment ∨ ∃ front, p.bytes = front ++ slash :: p.lastSegment := by
  obtain ⟨bytes⟩ := p
  by_cases h : slash ∈ bytes
  · right
    obtain ⟨front, last, rfl, hlast⟩ := exists_eq_append_of_mem h
    refine ⟨front, ?_⟩
    simp only [lastSegment, segments, splitAtSlashes_append_slash, splitAtSlashes_of_notMem hlast,
      List.getLast_concat]
  · left
    simp only [lastSegment, segments, splitAtSlashes_of_notMem h, List.getLast_singleton]

/-- **What a path ends with, short of a slash, its last segment ends with.** -/
theorem suffix_bytes_iff {p : Path} {ending : Bytes} (h : slash ∉ ending) :
    ending <:+ p.bytes ↔ ending <:+ p.lastSegment := by
  rcases p.bytes_eq_lastSegment_or with whole | ⟨front, cut⟩
  · rw [whole]
  · have isSuffix : slash :: p.lastSegment <:+ p.bytes := by
      rw [cut]
      exact List.suffix_append ..
    constructor
    · intro hend
      rcases List.suffix_or_suffix_of_suffix hend isSuffix with inside | around
      · rcases List.suffix_cons_iff.1 inside with e | hlast
        · exact absurd (e ▸ List.mem_cons_self ..) h
        · exact hlast
      · exact absurd (around.subset (List.mem_cons_self ..)) h
    · intro hend
      exact hend.trans ((List.suffix_cons ..).trans isSuffix)

/-! ### Components -/

/-- A path that ends in a slash or in `.`: its last segment means nothing. -/
def Trails (p : Path) : Prop := p.lastSegment = [] ∨ p.lastSegment = [dot]

instance : DecidablePred Trails := fun _ => inferInstanceAs (Decidable (_ ∨ _))

theorem components_of_segments {p : Path} {first : Bytes} {rest : List Bytes}
    (h : p.segments = first :: rest) :
    p.components = (Component.ofFirst? first rest.isEmpty).toList ++
      rest.filterMap Component.ofSegment? := by
  rw [components, h]

/-- A segment that is a name means itself. -/
theorem Component.ofSegment?_of_isName {name : Bytes} (h : Path.IsName name) :
    ofSegment? name = some (.normal name) := by
  obtain ⟨notEmpty, notDot, notDots, -⟩ := h
  rw [ofSegment?, if_neg (not_or.2 ⟨notEmpty, notDot⟩), if_neg notDots]

/-- A component that stands below the root: a name that an entry can have, or `..`. -/
def Component.IsStep : Component → Prop
  | .normal name => Path.IsName name
  | .parent => True
  | _ => False

/-- What a segment means is a step. -/
theorem Component.isStep_of_ofSegment? {s : Bytes} {c : Component} (noSlash : slash ∉ s)
    (h : ofSegment? s = some c) : c.IsStep := by
  rw [ofSegment?] at h
  split at h
  · cases h
  rename_i meant
  split at h
  · cases h
    trivial
  · rename_i notDots
    cases h
    exact ⟨fun e => meant (.inl e), fun e => meant (.inr e), notDots, noSlash⟩

/-- A first segment means the root, a `.`, or what it means anywhere else. -/
theorem Component.cases_of_ofFirst? {s : Bytes} {isLast : Bool} {c : Component}
    (h : ofFirst? s isLast = some c) : c = .root ∨ c = .current ∨ ofSegment? s = some c := by
  rw [ofFirst?] at h
  split at h
  · split at h
    · cases h
    · exact .inl (Option.some.inj h).symm
  split at h
  · exact .inr (.inl (Option.some.inj h).symm)
  · exact .inr (.inr h)

/-- Components that are names come from segments that are. -/
theorem isName_of_mem_components {p : Path} {name : Bytes}
    (h : Component.normal name ∈ p.components) : Path.IsName name := by
  have noSlash : ∀ s ∈ p.segments, slash ∉ s := fun s => slash_notMem_of_mem_splitAtSlashes
  obtain ⟨first, rest, hsegments⟩ := List.exists_cons_of_ne_nil (splitAtSlashes_ne_nil p.bytes)
  have hsegments : p.segments = first :: rest := hsegments
  rw [components_of_segments hsegments] at h
  rw [hsegments] at noSlash
  rcases List.mem_append.1 h with h | h
  · rcases Component.cases_of_ofFirst? (Option.mem_toList.1 h) with e | e | meant
    · cases e
    · cases e
    · exact Component.isStep_of_ofSegment? (noSlash first (List.mem_cons_self ..)) meant
  · obtain ⟨s, hs, meant⟩ := List.mem_filterMap.1 h
    exact Component.isStep_of_ofSegment? (noSlash s (List.mem_cons_of_mem _ hs)) meant

/-- A segment with a slash behind it is not the last one. -/
theorem components_before_slash {front first : Bytes} {others : List Bytes}
    (h : splitAtSlashes front = first :: others) (rest : Bytes) :
    (mk (front ++ slash :: rest)).components = (Component.ofFirst? first false).toList ++
      (others ++ splitAtSlashes rest).filterMap Component.ofSegment? := by
  have hsegments : (mk (front ++ slash :: rest)).segments =
      first :: (others ++ splitAtSlashes rest) := by
    rw [segments, splitAtSlashes_append_slash, h, List.cons_append]
  have more : (others ++ splitAtSlashes rest).isEmpty = false := by
    rw [List.isEmpty_eq_false_iff]
    exact List.append_ne_nil_of_right_ne_nil _ (splitAtSlashes_ne_nil rest)
  rw [components_of_segments hsegments, more]

/-- What stands behind a slash adds its own components, none of them the root. -/
theorem components_append_slash (front rest : Bytes) :
    (mk (front ++ slash :: rest)).components = (mk (front ++ [slash])).components ++
      (splitAtSlashes rest).filterMap Component.ofSegment? := by
  obtain ⟨first, others, h⟩ := List.exists_cons_of_ne_nil (splitAtSlashes_ne_nil front)
  rw [components_before_slash h, components_before_slash h]
  simp [splitAtSlashes, Component.ofSegment?]

/-- A slash at the end of a path means nothing. -/
theorem components_append_singleton_slash {front : Bytes} (h : front ≠ []) :
    (mk (front ++ [slash])).components = (mk front).components := by
  obtain ⟨first, others, hfront⟩ := List.exists_cons_of_ne_nil (splitAtSlashes_ne_nil front)
  have hsegments : (mk front).segments = first :: others := hfront
  have sameFirst : Component.ofFirst? first others.isEmpty = Component.ofFirst? first false := by
    by_cases empty : first = []
    · -- An empty first segment of a path with octets has a slash behind it.
      have more : others.isEmpty = false := by
        rw [List.isEmpty_eq_false_iff]
        rintro rfl
        have none : (mk front).components = [] := by
          rw [components_of_segments hsegments, empty]
          rfl
        exact h (components_eq_nil_iff.1 none)
      rw [more]
    · rw [Component.ofFirst?, Component.ofFirst?, if_neg empty, if_neg empty]
  rw [components_before_slash hfront, components_of_segments hsegments, sameFirst]
  simp [splitAtSlashes, Component.ofSegment?]

/-- **A segment that means something adds what it means.** -/
theorem components_child_of_ofSegment? {p : Path} {s : Bytes} {c : Component}
    (noSlash : slash ∉ s) (h : Component.ofSegment? s = some c) :
    (p.child s).components = p.components ++ [c] := by
  have meant : ¬ (s = [] ∨ s = [dot]) := fun e => by
    rw [Component.ofSegment?, if_pos e] at h
    cases h
  have alone : (splitAtSlashes s).filterMap Component.ofSegment? = [c] := by
    rw [splitAtSlashes_of_notMem noSlash, List.filterMap_cons_some h]
    rfl
  obtain ⟨bytes⟩ := p
  rw [child]
  by_cases empty : bytes = []
  · rw [if_pos (.inl empty), empty, List.nil_append]
    have whole : (mk s).segments = [s] := splitAtSlashes_of_notMem noSlash
    rw [components_of_segments whole, Component.ofFirst?, if_neg (not_or.1 meant).1,
      if_neg (not_or.1 meant).2, h]
    rfl
  by_cases ends : bytes.getLast? = some slash
  · obtain ⟨front, rfl⟩ := List.getLast?_eq_some_iff.1 ends
    rw [if_pos (.inr ends), List.append_assoc, List.singleton_append, components_append_slash,
      alone]
  · rw [if_neg (not_or.2 ⟨empty, ends⟩), components_append_slash, alone,
      components_append_singleton_slash empty]

/-- **An entry has one component more than its directory.** -/
theorem components_child {p : Path} {name : Bytes} (h : Path.IsName name) :
    (p.child name).components = p.components ++ [.normal name] :=
  components_child_of_ofSegment? h.2.2.2 (Component.ofSegment?_of_isName h)

/-- **A last segment that means something is the last component.** -/
theorem exists_components_append {p : Path} (h : ¬ p.Trails) :
    ∃ front, p.components =
      front ++ [if p.lastSegment = [dot, dot] then .parent else .normal p.lastSegment] := by
  have meant : Component.ofSegment? p.lastSegment =
      some (if p.lastSegment = [dot, dot] then .parent else .normal p.lastSegment) := by
    rw [Component.ofSegment?, if_neg (by exact h)]
    split <;> rfl
  rcases hfront : p.segments.dropLast with _ | ⟨first, rest⟩
  · have hsegments : p.segments = [p.lastSegment] := by
      rw [segments_eq_append, hfront, List.nil_append]
    refine ⟨[], ?_⟩
    rw [components_of_segments hsegments, Component.ofFirst?, if_neg fun e => h (.inl e),
      if_neg fun e => h (.inr e), meant]
    rfl
  · have hsegments : p.segments = first :: (rest ++ [p.lastSegment]) := by
      rw [segments_eq_append, hfront, List.cons_append]
    rw [components_of_segments hsegments, List.filterMap_append,
      List.filterMap_cons_some meant, ← List.append_assoc]
    exact ⟨_, rfl⟩

/-! ### Leaving -/

/-- A path that could lead out of the directory it is taken from: it begins with a slash, or it
has a `..` anywhere. -/
def Leaves (p : Path) : Prop := p.bytes.head? = some slash ∨ [dot, dot] ∈ p.segments

instance : DecidablePred Leaves := fun _ => inferInstanceAs (Decidable (_ ∨ _))

theorem Component.ofSegment?_eq_parent_iff {s : Bytes} :
    ofSegment? s = some .parent ↔ s = [dot, dot] := by
  rw [ofSegment?]
  split
  · rename_i nothing
    rcases nothing with rfl | rfl
    · simp
    · simp
  · split
    · rename_i up
      exact iff_of_true rfl up
    · rename_i named
      exact iff_of_false (by simp) named

theorem Component.ofFirst?_eq_parent_iff {s : Bytes} {isLast : Bool} :
    ofFirst? s isLast = some .parent ↔ s = [dot, dot] := by
  rw [ofFirst?]
  split
  · rename_i empty
    rw [empty]
    split <;> simp
  split
  · rename_i current
    rw [current]
    simp
  · exact ofSegment?_eq_parent_iff

/-- A path goes up exactly if one of its segments is `..`. -/
theorem parent_mem_components_iff {p : Path} :
    .parent ∈ p.components ↔ [dot, dot] ∈ p.segments := by
  obtain ⟨first, rest, hsegments⟩ := List.exists_cons_of_ne_nil (splitAtSlashes_ne_nil p.bytes)
  have hsegments : p.segments = first :: rest := hsegments
  rw [components_of_segments hsegments, hsegments, List.mem_append, Option.mem_toList,
    Component.ofFirst?_eq_parent_iff, List.mem_filterMap, List.mem_cons]
  simp only [Component.ofSegment?_eq_parent_iff, exists_eq_right]
  rw [eq_comm]

/-- A path has a root exactly if it begins with a slash. -/
theorem root_mem_components_iff {p : Path} : .root ∈ p.components ↔ p.bytes.head? = some slash := by
  obtain ⟨bytes⟩ := p
  -- Only the first segment can mean the root.
  have behind : ∀ rest : List Bytes, .root ∉ rest.filterMap Component.ofSegment? := by
    intro rest h
    obtain ⟨s, -, meant⟩ := List.mem_filterMap.1 h
    rw [Component.ofSegment?] at meant
    split at meant
    · cases meant
    · split at meant <;> cases meant
  cases bytes with
  | nil => exact iff_of_false List.not_mem_nil (by simp)
  | cons b bs =>
    by_cases hb : b = slash
    · have hsegments : (mk (b :: bs)).segments = [] :: splitAtSlashes bs := by
        rw [segments, splitAtSlashes, if_pos hb]
      have more : (splitAtSlashes bs).isEmpty = false :=
        List.isEmpty_eq_false_iff.2 (splitAtSlashes_ne_nil bs)
      refine iff_of_true ?_ (congrArg some hb)
      rw [components_of_segments hsegments, more]
      exact List.mem_cons_self ..
    · obtain ⟨s, ss, hss⟩ := List.exists_cons_of_ne_nil (splitAtSlashes_ne_nil bs)
      have hsegments : (mk (b :: bs)).segments = (b :: s) :: ss := by
        rw [segments, splitAtSlashes, if_neg hb, hss]
      refine iff_of_false ?_ fun e => hb (Option.some.inj e)
      rw [components_of_segments hsegments, List.mem_append, Option.mem_toList]
      rintro (first | later)
      · rcases Component.cases_of_ofFirst? first with h | h | meant
        · rw [Component.ofFirst?, if_neg (List.cons_ne_nil b s)] at first
          split at first
          · cases first
          · exact behind [b :: s] (List.mem_filterMap.2 ⟨_, List.mem_cons_self .., first⟩)
        · cases h
        · exact behind [b :: s] (List.mem_filterMap.2 ⟨_, List.mem_cons_self .., meant⟩)
      · exact behind ss later

end Path

/-! ### Descents -/

namespace Asset

/-- A descent goes through names and `.` only. -/
theorem not_leaving_of_descend {p q : Path} {cs : List Path.Component}
    (h : descend p cs = some q) : .parent ∉ cs ∧ .root ∉ cs := by
  induction cs generalizing p with
  | nil => exact ⟨List.not_mem_nil, List.not_mem_nil⟩
  | cons c cs ih =>
    cases c with
    | normal name =>
      rw [descend] at h
      simpa using ih h
    | current =>
      rw [descend] at h
      simpa using ih h
    | parent => cases h
    | root => cases h

theorem descend_eq_none_iff {p : Path} {cs : List Path.Component} :
    descend p cs = none ↔ .parent ∈ cs ∨ .root ∈ cs := by
  constructor
  · intro h
    induction cs generalizing p with
    | nil => cases h
    | cons c cs ih =>
      cases c with
      | parent => exact .inl (List.mem_cons_self ..)
      | root => exact .inr (List.mem_cons_self ..)
      | normal name =>
        rw [descend] at h
        exact (ih h).imp (List.mem_cons_of_mem _) (List.mem_cons_of_mem _)
      | current =>
        rw [descend] at h
        exact (ih h).imp (List.mem_cons_of_mem _) (List.mem_cons_of_mem _)
  · intro leaving
    cases h : descend p cs with
    | none => rfl
    | some q =>
      obtain ⟨notUp, notRoot⟩ := not_leaving_of_descend h
      exact leaving.elim (absurd · notUp) (absurd · notRoot)

/-- **A relative path is refused exactly if it could leave**, whatever the directory. -/
theorem resolveWithin_eq_none_iff {root : Path} {relativePath : String} :
    resolveWithin root relativePath = none ↔ (Path.ofString relativePath).Leaves := by
  rw [resolveWithin, descend_eq_none_iff, Path.parent_mem_components_iff,
    Path.root_mem_components_iff, Path.Leaves, or_comm]

/-- **A descent adds the components it goes through**, and `.` is none. -/
theorem components_of_descend {p q : Path} {cs : List Path.Component}
    (hcs : ∀ name, .normal name ∈ cs → Path.IsName name) (h : descend p cs = some q) :
    q.components = p.components ++ cs.filter (· ≠ .current) := by
  induction cs generalizing p with
  | nil =>
    cases h
    exact (List.append_nil _).symm
  | cons c cs ih =>
    have hrest : ∀ name, .normal name ∈ cs → Path.IsName name := fun name hname =>
      hcs name (List.mem_cons_of_mem _ hname)
    cases c with
    | normal name =>
      rw [descend] at h
      rw [ih hrest h, Path.components_child (hcs name (List.mem_cons_self ..)), List.append_assoc]
      rfl
    | current =>
      rw [descend] at h
      exact ih hrest h
    | parent => cases h
    | root => cases h

/-- **A descent ends at the name that the relative path ends with.** -/
theorem fileName?_of_descend {root path p : Path} (h : descend root p.components = some path)
    (hp : ¬ p.Trails) : path.fileName? = some p.lastSegment := by
  obtain ⟨front, hfront⟩ := Path.exists_components_append hp
  have inside : p.lastSegment ≠ [Path.dot, Path.dot] := by
    intro up
    refine (not_leaving_of_descend h).1 ?_
    rw [hfront, if_pos up]
    exact List.mem_append_right _ (List.mem_singleton_self _)
  have below := components_of_descend (fun _ => Path.isName_of_mem_components) h
  rw [hfront, if_neg inside, List.filter_append, ← List.append_assoc] at below
  rw [Path.fileName?, below]
  simp

end Asset
end ComponentHost
