/-
# From the declared text to the directory

A directory is made absolute in two stages, and each puts a text together component by
component:

| Stage | What it puts together |
|-------|-----------------------|
| `anchored` | the components behind the origin; `..` and some spare slashes are kept |
| `collapsed` | the components of that; `..` takes the last segment off |

The origin is the root, or the working directory if the path is relative.  The text between
the stages tells equal paths apart: `//a/` and `/a` both stay as they are.  But what is put
together has the components that were put into it (`components_foldl_push`), and more the
second stage does not look at.  There `..` takes off just what the last name put on
(`collapseStep_ofNames`), so the second stage follows the names down to a place, and ends at
`absolute` (`absolute_eq_collapsed`).
-/

import ComponentHost.Proofs.Segments
import Mathlib.Data.List.Basic
import Mathlib.Data.List.Induction

namespace ComponentHost
namespace Path

/-! ### The two stages -/

/-- A component put behind a path; the root starts anew. -/
def push (p : Path) : Component → Path
  | .root => ⟨[slash]⟩
  | c => p.child c.spelling

/-- A path without its last segment and the slash before it; the slash of the root stays. -/
def pop (p : Path) : Path :=
  match p.bytes.reverse.dropWhile (· ≠ slash) with
  | [] => ⟨[]⟩
  | [_] => ⟨[slash]⟩
  | _ :: front => ⟨front.reverse⟩

/-- The names down to where a path starts: it is the root, or the working directory if the
path is relative. -/
def origin [Platform] (p : Path) : List Bytes :=
  if p.bytes.head? = some slash then [] else Platform.workingDirectory

/-- The components behind the root or a leading `.`. -/
def steps (p : Path) : List Component :=
  match p.components with
  | .root :: rest => rest
  | .current :: rest => rest
  | cs => cs

/-- Two slashes at the front, which may mean a root of their own; more of them are one. -/
def StartsDoubled (p : Path) : Prop :=
  [slash, slash] <+: p.bytes ∧ ¬ [slash, slash, slash] <+: p.bytes

instance : DecidablePred StartsDoubled := fun _ => inferInstanceAs (Decidable (_ ∧ _))

/-- The path from the root on, with `..` in it.  Two slashes at the front stay, and so does
one at the end; the empty path stays empty. -/
def anchored [Platform] (p : Path) : Path :=
  if p.bytes = [] then p
  else
    let start := if p.StartsDoubled then ⟨[slash, slash]⟩ else ofNames p.origin
    let whole := p.steps.foldl push start
    if p.bytes.getLast? = some slash then whole.child [] else whole

/-- One component more of a path without `.` and `..`: at the root `..` stays there. -/
def collapseStep (p : Path) : Component → Path
  | .current => p
  | .parent =>
    match p.components.getLast? with
    | none => p
    | some .root => p
    | some _ => p.pop
  | c => p.push c

/-- The path without `.` and `..`. -/
def collapsed (p : Path) : Path := p.components.foldl collapseStep ⟨[]⟩

/-! ### Steps -/

/-- A step is what its spelling means. -/
theorem Component.IsStep.ofSegment?_spelling {c : Component} (h : c.IsStep) :
    slash ∉ c.spelling ∧ ofSegment? c.spelling = some c := by
  cases c with
  | normal name => exact ⟨h.2.2.2, ofSegment?_of_isName h⟩
  | parent => exact ⟨by decide, rfl⟩
  | root => exact h.elim
  | current => exact h.elim

/-- The steps of a path are what its meaningful segments mean. -/
theorem steps_eq_map_meaning (p : Path) : p.steps = p.meaningful.map Component.meaning := by
  obtain ⟨lead, hlead, h⟩ := p.components_eq_lead_append
  rw [steps, h]
  rcases hlead with rfl | rfl | rfl
  · cases p.meaningful with
    | nil => rfl
    | cons s rest =>
      by_cases up : s = [dot, dot]
      · simp [Component.meaning, up]
      · simp [Component.meaning, up]
  · rfl
  · rfl

/-- Behind its origin a path has steps only. -/
theorem isStep_of_mem_steps {p : Path} {c : Component} (h : c ∈ p.steps) : c.IsStep := by
  rw [steps_eq_map_meaning] at h
  obtain ⟨s, hs, rfl⟩ := List.mem_map.1 h
  exact isStep_meaning hs

/-- **What stands before the steps leads to the origin**, from the working directory. -/
theorem components_eq_append_steps [Platform] (p : Path) :
    ∃ lead, p.components = lead ++ p.steps ∧
      lead.foldl Component.descend Platform.workingDirectory.reverse = p.origin.reverse := by
  obtain ⟨lead, hlead, h⟩ := p.components_eq_lead_append
  rw [← steps_eq_map_meaning] at h
  have rooted : p.bytes.head? = some slash ↔ .root ∈ lead := by
    rw [← root_mem_components_iff, h, List.mem_append]
    exact or_iff_left fun mem => isStep_of_mem_steps mem
  refine ⟨lead, h, ?_⟩
  rcases hlead with rfl | rfl | rfl <;> simp [origin, rooted, Component.descend]

/-! ### Joined names -/

section

variable {names : List Bytes} {name : Bytes}

theorem bytes_ofNames_concat : (ofNames (names ++ [name])).bytes =
    names.flatMap (slash :: ·) ++ slash :: name := by
  cases names <;> simp [ofNames]

/-- A name put behind names. -/
theorem child_ofNames (h : ∀ s ∈ names, IsName s) :
    (ofNames names).child name = ofNames (names ++ [name]) := by
  rcases List.eq_nil_or_concat names with rfl | ⟨front, last, rfl⟩
  · simp [ofNames, child]
  · rw [List.concat_eq_append] at h ⊢
    obtain ⟨notEmpty, -, -, noSlash⟩ := h last (by simp)
    have ends : (ofNames (front ++ [last])).bytes.getLast? ≠ some slash := by
      rw [bytes_ofNames_concat, ← List.singleton_append, ← List.append_assoc,
        List.getLast?_append_of_ne_nil _ notEmpty]
      exact fun e => noSlash (List.mem_of_getLast? e)
    rw [child, if_neg (not_or.2 ⟨by rw [bytes_ofNames_concat]; simp, ends⟩)]
    refine congrArg mk ?_
    rw [bytes_ofNames_concat]
    simp

/-- A path of names has these names as components. -/
theorem components_ofNames (h : ∀ s ∈ names, IsName s) :
    (ofNames names).components = .root :: names.map .normal := by
  induction names using List.reverseRecOn with
  | nil => rfl
  | append_singleton front last ih =>
    have hfront : ∀ s ∈ front, IsName s := fun s hs => h s (List.mem_append_left _ hs)
    rw [← child_ofNames hfront, components_child (h last (by simp)), ih hfront]
    simp

/-- The names of a path are gone down one after another. -/
theorem foldl_descend_map_normal (names place : List Bytes) :
    (names.map Component.normal).foldl Component.descend place = names.reverse ++ place := by
  induction names generalizing place with
  | nil => rfl
  | cons name rest ih =>
    rw [List.map_cons, List.foldl_cons, ih, List.reverse_cons, List.append_assoc,
      List.singleton_append]
    rfl

theorem isName_of_mem_origin [Platform] {p : Path} {s : Bytes} (h : s ∈ p.origin) : IsName s := by
  rw [origin] at h
  split at h
  · cases h
  · exact Platform.isName_of_mem s h

end

/-! ### What is put together -/

/-- **A path put together has the components that were put into it.** -/
theorem components_foldl_push {cs : List Component} (h : ∀ c ∈ cs, c.IsStep) (p : Path) :
    (cs.foldl push p).components = p.components ++ cs := by
  induction cs generalizing p with
  | nil => exact (List.append_nil _).symm
  | cons c cs ih =>
    obtain ⟨hc, hcs⟩ := List.forall_mem_cons.1 h
    have spelled : p.push c = p.child c.spelling := by
      cases c with
      | root => exact hc.elim
      | _ => rfl
    obtain ⟨noSlash, meant⟩ := hc.ofSegment?_spelling
    rw [List.foldl_cons, ih hcs, spelled, components_child_of_ofSegment? noSlash meant,
      List.append_assoc, List.singleton_append]

/-- A slash at the end, if there was none, means nothing. -/
theorem components_child_nil {p : Path} (h : p.components ≠ []) :
    (p.child []).components = p.components := by
  have octets : p.bytes ≠ [] := mt components_eq_nil_iff.2 h
  rw [child]
  split
  · rw [List.append_nil]
  · exact components_append_singleton_slash octets

/-- What the first stage begins with has the names of the origin as components. -/
theorem components_start [Platform] (p : Path) :
    (if p.StartsDoubled then mk [slash, slash] else ofNames p.origin).components =
      .root :: p.origin.map .normal := by
  split
  · rename_i doubled
    have rooted : p.bytes.head? = some slash := by
      obtain ⟨rest, hrest⟩ := doubled.1
      rw [← hrest]
      rfl
    rw [origin, if_pos rooted]
    rfl
  · exact components_ofNames fun s => isName_of_mem_origin

/-- **The first stage keeps the components behind the origin**, however they are spelled. -/
theorem components_anchored [Platform] {p : Path} (h : p.bytes ≠ []) :
    p.anchored.components = .root :: (p.origin.map .normal ++ p.steps) := by
  have whole := components_foldl_push (fun c => isStep_of_mem_steps (p := p) (c := c))
    (if p.StartsDoubled then mk [slash, slash] else ofNames p.origin)
  rw [components_start, List.cons_append] at whole
  rw [anchored, if_neg h]
  dsimp only
  split
  · rw [components_child_nil (by rw [whole]; exact List.cons_ne_nil _ _), whole]
  · exact whole

/-! ### The second stage -/

section Collapsing

variable {names : List Bytes} {name : Bytes}

/-- **What the last name put on is taken off again.** -/
theorem pop_ofNames_concat (noSlash : slash ∉ name) :
    (ofNames (names ++ [name])).pop = ofNames names := by
  have cut : (ofNames (names ++ [name])).bytes.reverse.dropWhile (· ≠ slash) =
      slash :: (names.flatMap (slash :: ·)).reverse := by
    rw [bytes_ofNames_concat, List.reverse_append, List.reverse_cons, List.append_assoc,
      List.dropWhile_append_of_pos]
    · simp
    · intro b hb
      exact decide_eq_true fun e => noSlash (List.mem_reverse.1 (e ▸ hb))
  rw [pop, cut]
  cases names with
  | nil => rfl
  | cons first others =>
    have octets : ((first :: others).flatMap (slash :: ·)).reverse ≠ [] := by simp
    obtain ⟨b, front, hfront⟩ := List.exists_cons_of_ne_nil octets
    rw [hfront]
    change mk (b :: front).reverse = _
    rw [← hfront, List.reverse_reverse]
    rfl

/-- Where a step leads from a place with names down to it, there are names down to it too. -/
theorem isName_of_mem_descend {place : List Bytes} {c : Component} (hc : c.IsStep)
    (h : ∀ s ∈ place, IsName s) : ∀ s ∈ c.descend place, IsName s := by
  cases c with
  | root => exact hc.elim
  | current => exact hc.elim
  | parent => exact fun s hs => h s (List.mem_of_mem_tail hs)
  | normal name => exact List.forall_mem_cons.2 ⟨hc, h⟩

/-- **One component of the second stage is one step of the descent.** -/
theorem collapseStep_ofNames {place : List Bytes} {c : Component} (hc : c.IsStep)
    (h : ∀ s ∈ place, IsName s) :
    (ofNames place.reverse).collapseStep c = ofNames (c.descend place).reverse := by
  have hreverse : ∀ s ∈ place.reverse, IsName s := fun s hs => h s (List.mem_reverse.1 hs)
  cases c with
  | root => exact hc.elim
  | current => exact hc.elim
  | normal name =>
    change (ofNames place.reverse).child name = ofNames (name :: place).reverse
    rw [child_ofNames hreverse, List.reverse_cons]
  | parent =>
    cases place with
    | nil => rfl
    | cons last above =>
      have hlast : (ofNames (last :: above).reverse).components.getLast? = some (.normal last) := by
        rw [components_ofNames hreverse, List.reverse_cons, List.map_append, ← List.cons_append]
        exact List.getLast?_concat
      simp only [collapseStep, hlast]
      rw [List.reverse_cons, pop_ofNames_concat (h last (List.mem_cons_self ..)).2.2.2]
      rfl

theorem foldl_collapseStep_ofNames {cs : List Component} (hcs : ∀ c ∈ cs, c.IsStep)
    {place : List Bytes} (h : ∀ s ∈ place, IsName s) :
    cs.foldl collapseStep (ofNames place.reverse) =
      ofNames (cs.foldl Component.descend place).reverse := by
  induction cs generalizing place with
  | nil => rfl
  | cons c cs ih =>
    obtain ⟨hc, hcs⟩ := List.forall_mem_cons.1 hcs
    rw [List.foldl_cons, List.foldl_cons, collapseStep_ofNames hc h,
      ih hcs (isName_of_mem_descend hc h)]

end Collapsing

/-- The absolute form of a path is where its steps lead from its origin. -/
theorem absolute_eq_ofNames [Platform] {p : Path} (h : p.bytes ≠ []) :
    p.absolute = ofNames (p.steps.foldl Component.descend p.origin.reverse).reverse := by
  obtain ⟨lead, hlead, start⟩ := components_eq_append_steps p
  rw [absolute, if_neg h]
  dsimp only
  rw [hlead, List.foldl_append, start]

/-- **The absolute form is what the two stages put together.** -/
theorem absolute_eq_collapsed [Platform] (p : Path) : p.absolute = p.anchored.collapsed := by
  by_cases empty : p.bytes = []
  · rw [absolute, anchored, if_pos empty, if_pos empty, collapsed, components_eq_nil_iff.2 empty]
    exact congrArg mk empty
  · have areSteps : ∀ c ∈ p.origin.map Component.normal ++ p.steps, c.IsStep := by
      intro c hc
      rcases List.mem_append.1 hc with hc | hc
      · obtain ⟨s, hs, rfl⟩ := List.mem_map.1 hc
        exact isName_of_mem_origin hs
      · exact isStep_of_mem_steps hc
    have root : collapseStep ⟨[]⟩ .root = ofNames ([] : List Bytes).reverse := rfl
    rw [collapsed, components_anchored empty, List.foldl_cons, root,
      foldl_collapseStep_ofNames areSteps (List.forall_mem_nil _), List.foldl_append,
      foldl_descend_map_normal, List.append_nil, absolute_eq_ofNames empty]

example [Platform] : (ofString "//a/../b/").anchored = ofString "//a/../b/" := rfl

end Path
end ComponentHost
