/-
# The canonical form of a path

Read a path from left to right with a stack of names.  A segment that is empty or `.` does
nothing, `..` takes the name on top off, if there is one, and any other segment is put on top.
The stack begins with the names of the path's origin: none of a path that begins with a slash,
and those of the working directory of a relative one.  The names that are left, joined below
the root, are the canonical form of the path.  With the root as the working directory:

| Path | Names left | Canonical form |
|------|------------|----------------|
| `a/./b//` | `a`, `b` | `/a/b` |
| `/../a/../..` | none | `/` |
| `//a/..x/...` | `a`, `..x`, `...` | `/a/..x/...` |

Except for the empty path, the absolute form is the canonical one (`absolute_eq_canonical`).
What stands on the stack are names at any time (`isName_of_mem_stackStep`), so a canonical path
is its own canonical form, and it can stand for the path it was made of: what is behind one is
behind the other (`canonical_child_canonical`).  `directory_canonical` says this of the
directories of declarations.
-/

import ComponentHost.Proofs.AnchoredPath

namespace ComponentHost
namespace Path

/-! ### The stack -/

/-- One meaningful segment more on a stack of names: `..` takes the top one off. -/
def stackStep (stack : List Bytes) (s : Bytes) : List Bytes :=
  if s = [dot, dot] then stack.tail else s :: stack

/-- The names that a path is left with, from the root down. -/
def namesLeft [Platform] (p : Path) : List Bytes :=
  (p.meaningful.foldl stackStep p.origin.reverse).reverse

/-- The names that a path is left with, joined below the root. -/
def canonical [Platform] (p : Path) : Path := ⟨slash :: [slash].intercalate p.namesLeft⟩

/-- A path taken from another one; one that begins with a slash stays where it is. -/
def join (p q : Path) : Path := if q.bytes.head? = some slash then q else p.child q.bytes

/-- What a segment means leads where it leads on the stack. -/
theorem descend_meaning (stack : List Bytes) (s : Bytes) :
    (Component.meaning s).descend stack = stackStep stack s := by
  rw [Component.meaning, stackStep]
  split <;> rfl

/-- **The steps of a path lead where its segments lead.** -/
theorem foldl_descend_steps (p : Path) (stack : List Bytes) :
    p.steps.foldl Component.descend stack = p.meaningful.foldl stackStep stack := by
  rw [steps_eq_map_meaning, List.foldl_map]
  simp only [descend_meaning]

/-- **A stack of names stays one**, whatever meaningful segment comes. -/
theorem isName_of_mem_stackStep {stack : List Bytes} {s : Bytes} (noSlash : slash ∉ s)
    (means : s ≠ [] ∧ s ≠ [dot]) (h : ∀ t ∈ stack, IsName t) :
    ∀ t ∈ stackStep stack s, IsName t := by
  rw [stackStep]
  split
  · exact fun t ht => h t (List.mem_of_mem_tail ht)
  · rename_i notUp
    exact List.forall_mem_cons.2 ⟨⟨means.1, means.2, notUp, noSlash⟩, h⟩

theorem isName_of_mem_foldl_stackStep {segments stack : List Bytes}
    (hs : ∀ s ∈ segments, slash ∉ s ∧ s ≠ [] ∧ s ≠ [dot])
    (h : ∀ t ∈ stack, IsName t) :
    ∀ t ∈ segments.foldl stackStep stack, IsName t := by
  induction segments generalizing stack with
  | nil => exact h
  | cons s rest ih =>
    obtain ⟨⟨noSlash, means⟩, hrest⟩ := List.forall_mem_cons.1 hs
    exact ih hrest (isName_of_mem_stackStep noSlash means h)

/-- Names are put on the stack one after another. -/
theorem foldl_stackStep_of_names {names : List Bytes} (h : [dot, dot] ∉ names)
    (stack : List Bytes) : names.foldl stackStep stack = names.reverse ++ stack := by
  induction names generalizing stack with
  | nil => rfl
  | cons name rest ih =>
    obtain ⟨notUp, hrest⟩ := List.ne_and_not_mem_of_not_mem_cons h
    rw [List.foldl_cons, ih hrest, stackStep, if_neg notUp.symm, List.reverse_cons,
      List.append_assoc, List.singleton_append]

/-! ### Joined names -/

theorem ofNames_eq_intercalate (names : List Bytes) :
    ofNames names = ⟨slash :: [slash].intercalate names⟩ := by
  cases names with
  | nil => rfl
  | cons name rest =>
    refine congrArg mk ?_
    induction rest generalizing name with
    | nil => simp
    | cons next rest ih =>
      have later : (next :: rest).flatMap (slash :: ·) = slash :: [slash].intercalate (next :: rest) :=
        ih next
      rw [List.flatMap_cons, later, List.intercalate_cons_cons, List.cons_append,
        List.append_assoc, List.singleton_append]

/-- Behind the first slash of joined names there are these names. -/
theorem splitOn_ofNames {names : List Bytes} (noSlash : ∀ s ∈ names, slash ∉ s)
    (h : names ≠ []) : (ofNames names).bytes.splitOn slash = [] :: names := by
  rw [ofNames_eq_intercalate, List.splitOn_cons_eq_if_modifyHead, if_pos (beq_self_eq_true slash),
    List.splitOn_intercalate slash noSlash h]

theorem meaningful_ofNames {names : List Bytes} (h : ∀ s ∈ names, IsName s) :
    (ofNames names).meaningful = names := by
  by_cases none : names = []
  · rw [none]
    rfl
  · have all : ∀ s ∈ names, decide (s ≠ [] ∧ s ≠ [dot]) = true := fun s hs =>
      decide_eq_true ⟨(h s hs).1, (h s hs).2.1⟩
    rw [meaningful, splitOn_ofNames (fun s hs => (h s hs).2.2.2) none,
      List.filter_cons_of_neg (by simp), List.filter_eq_self.2 all]

theorem bytes_child_ne_nil {p : Path} (h : p.bytes ≠ []) (rest : Bytes) :
    (p.child rest).bytes ≠ [] := by
  rw [child]
  split <;> exact List.append_ne_nil_of_left_ne_nil h _

/-! ### Canonical paths -/

section

variable [Platform]

theorem canonical_eq_ofNames (p : Path) : p.canonical = ofNames p.namesLeft :=
  (ofNames_eq_intercalate p.namesLeft).symm

/-- **The absolute form is the canonical one.** -/
theorem absolute_eq_canonical {p : Path} (h : p.bytes ≠ []) : p.absolute = p.canonical := by
  rw [absolute_eq_ofNames h, foldl_descend_steps, canonical_eq_ofNames, namesLeft]

/-- What is left are names: no empty segment, no `.` and no `..`. -/
theorem isName_of_mem_namesLeft {p : Path} {s : Bytes} (h : s ∈ p.namesLeft) :
    IsName s := by
  have segments : ∀ t ∈ p.meaningful, slash ∉ t ∧ t ≠ [] ∧ t ≠ [dot] := fun t ht => by
    obtain ⟨isSegment, means⟩ := mem_meaningful_iff.1 ht
    exact ⟨slash_notMem_of_mem_splitAtSlashes isSegment, means⟩
  have start : ∀ t ∈ p.origin.reverse, IsName t := fun t ht =>
    isName_of_mem_origin (List.mem_reverse.1 ht)
  exact isName_of_mem_foldl_stackStep segments start s (List.mem_reverse.1 h)

/-- **The names of a canonical path are all left.** -/
theorem namesLeft_canonical (p : Path) : p.canonical.namesLeft = p.namesLeft := by
  have names : ∀ s ∈ p.namesLeft, IsName s := fun s => isName_of_mem_namesLeft
  have notUp : [dot, dot] ∉ p.namesLeft := fun up => (names _ up).2.2.1 rfl
  have rooted : p.canonical.origin.reverse = [] := rfl
  rw [namesLeft, rooted, canonical_eq_ofNames, meaningful_ofNames names,
    foldl_stackStep_of_names notUp, List.append_nil, List.reverse_reverse]

theorem canonical_canonical (p : Path) : p.canonical.canonical = p.canonical := by
  rw [canonical, namesLeft_canonical]
  rfl

/-- A canonical path is the root, or it ends in a name and has only names behind its first
slash. -/
theorem shape_canonical (p : Path) :
    p.canonical = ⟨[slash]⟩ ∨
      p.canonical.bytes.getLast? ≠ some slash ∧
        ∃ names, p.canonical.bytes.splitOn slash = [] :: names ∧
          ∀ s ∈ names, IsName s := by
  have isName : ∀ s ∈ p.namesLeft, IsName s := fun s => isName_of_mem_namesLeft
  rw [canonical_eq_ofNames]
  rcases List.eq_nil_or_concat p.namesLeft with none | ⟨front, last, some⟩
  · rw [none]
    exact .inl rfl
  · rw [List.concat_eq_append] at some
    have notNil : p.namesLeft ≠ [] := by rw [some]; simp
    refine .inr ⟨?_, p.namesLeft, splitOn_ofNames (fun s hs => (isName s hs).2.2.2) notNil, isName⟩
    obtain ⟨notEmpty, -, -, noSlash⟩ := isName last (by rw [some]; simp)
    rw [some, bytes_ofNames_concat, ← List.singleton_append, ← List.append_assoc,
      List.getLast?_append_of_ne_nil _ notEmpty]
    exact fun ends => noSlash (List.mem_of_getLast? ends)

/-! ### Behind a canonical path -/

/-- What stands behind a path starts where the path does. -/
theorem origin_child {p : Path} (h : p.bytes ≠ []) (rest : Bytes) :
    (p.child rest).origin = p.origin := by
  have same : (p.child rest).bytes.head? = p.bytes.head? := by
    rw [child]
    split <;> exact List.head?_append_of_ne_nil _ h
  rw [origin, origin, same]

/-- What stands behind a path goes on with the names that it is left with. -/
theorem namesLeft_child {p : Path} (h : p.bytes ≠ []) (rest : Bytes) :
    (p.child rest).namesLeft =
      ((mk rest).meaningful.foldl stackStep p.namesLeft.reverse).reverse := by
  rw [namesLeft, origin_child h, meaningful_child, List.foldl_append, namesLeft,
    List.reverse_reverse]

/-- **A path can be made canonical before something is put behind it.** -/
theorem canonical_child_canonical {p : Path} (h : p.bytes ≠ []) (rest : Bytes) :
    (p.canonical.child rest).canonical = (p.child rest).canonical := by
  have rooted : p.canonical.bytes ≠ [] := List.cons_ne_nil _ _
  have names : (p.canonical.child rest).namesLeft = (p.child rest).namesLeft := by
    rw [namesLeft_child rooted, namesLeft_canonical, ← namesLeft_child h]
  rw [canonical, names]
  rfl

end

end Path

namespace Declaration

theorem directory?_ofPath [Platform] (name : String) {p : Path} (h : p.bytes ≠ []) :
    (ofPath name p).directory? = some p.canonical :=
  congrArg some (Path.absolute_eq_canonical h)

/-- **The directory of a local component is the canonical form of its path.**  The empty path
stays as it is.  Of any other path:

* The directory is what the stack of names leaves, joined below the root; and so is what the
  two stages of anchoring and collapsing put together.  With the root as the working directory
  the stack begins empty, whatever the path.
* It begins with a slash and is the root, or it does not end in a slash, and behind its first
  slash there is no empty segment, no `.` and no `..`.
* Declared once more, it is its own directory.
* A relative path taken from the declared path leads to the same directory as the same path
  taken from the canonical form. -/
theorem directory_canonical [Platform] (name : String) (p : Path) :
    (p.bytes = [] → (ofPath name p).directory? = some p) ∧
    (p.bytes ≠ [] →
      (ofPath name p).directory? = some p.canonical ∧
      p.anchored.collapsed = p.canonical ∧
      (Platform.workingDirectory = [] → p.canonical =
        ⟨Path.slash :: [Path.slash].intercalate
          (p.meaningful.foldl Path.stackStep []).reverse⟩) ∧
      p.canonical.bytes.head? = some Path.slash ∧
      (p.canonical = ⟨[Path.slash]⟩ ∨
        p.canonical.bytes.getLast? ≠ some Path.slash ∧
          ∃ names, p.canonical.bytes.splitOn Path.slash = [] :: names ∧
            ∀ s ∈ names, s ≠ [] ∧ s ≠ [Path.dot] ∧ s ≠ [Path.dot, Path.dot]) ∧
      (ofPath name p.canonical).directory? = some p.canonical ∧
      ∀ q : Path, q.bytes.head? ≠ some Path.slash →
        (ofPath name (p.join q)).directory? = (ofPath name (p.canonical.join q)).directory?) := by
  refine ⟨fun empty => ?_, fun octets => ?_⟩
  · have stays : p.absolute = p := if_pos empty
    exact congrArg some stays
  have rooted : p.canonical.bytes ≠ [] := List.cons_ne_nil _ _
  refine ⟨directory?_ofPath name octets, ?_, fun root => ?_, rfl, ?_, ?_, fun q relative => ?_⟩
  · rw [← Path.absolute_eq_collapsed, Path.absolute_eq_canonical octets]
  · have origin : p.origin = [] := by rw [Path.origin, root, ite_self]
    rw [Path.canonical, Path.namesLeft, origin]
    rfl
  · refine p.shape_canonical.imp id ?_
    rintro ⟨ends, names, hsegments, isName⟩
    exact ⟨ends, names, hsegments, fun s hs =>
      ⟨(isName s hs).1, (isName s hs).2.1, (isName s hs).2.2.1⟩⟩
  · rw [directory?_ofPath name rooted, Path.canonical_canonical]
  · rw [Path.join, Path.join, if_neg relative, if_neg relative,
      directory?_ofPath name (Path.bytes_child_ne_nil octets _),
      directory?_ofPath name (Path.bytes_child_ne_nil rooted _),
      Path.canonical_child_canonical octets]

attribute [local instance] Platform.atRoot

/-- A path that goes up beyond the root, with names that only look like `..`, and one that is
taken from it and goes up again. -/
theorem directory_canonical_of_steps_up :
    let p := Path.ofString "//a/./../../b/..x/.../"
    p.bytes ≠ [] ∧ (ofPath "knob" p).directory? = some (.ofString "/b/..x/...") ∧
      p.anchored.collapsed = .ofString "/b/..x/..." ∧
      (ofPath "knob" (.ofString "/b/..x/...")).directory? = some (.ofString "/b/..x/...") ∧
      (Path.ofString "../c/").bytes.head? ≠ some Path.slash ∧
      (ofPath "knob" (p.join (.ofString "../c/"))).directory? = some (.ofString "/b/..x/c") := by
  intro p
  have octets : p.bytes ≠ [] := by decide
  have relative : (Path.ofString "../c/").bytes.head? ≠ some Path.slash := by decide
  have canonical : p.canonical = .ofString "/b/..x/..." := by decide
  obtain ⟨directory, collapsed, -, -, -, again, behind⟩ := (directory_canonical "knob" p).2 octets
  rw [canonical] at directory collapsed again behind
  exact ⟨octets, directory, collapsed, again, relative, behind _ relative⟩

end Declaration
end ComponentHost
