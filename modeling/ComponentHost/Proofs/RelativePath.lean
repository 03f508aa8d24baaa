/-
# Relative paths of a bundle

The path of a file within a bundle is a text, and what it leads to can be read off the texts
between its slashes:

| Text between slashes | Effect |
|----------------------|--------|
| `..` | the path is refused |
| nothing, or `.` | none, but a path that begins with a slash is refused |
| any other | a name, put behind the directory after one slash |

A text and its octets have the same slashes, for an ASCII octet stands for itself
(`splitOn_flatMap_encodeChar`).  So the checks of a descent, made on components of octets, are
these checks on the text (`leaves_ofString_iff`), and a descent that is not refused puts the
names of the text behind the directory, one after another and unchanged
(`resolveWithin_of_not_leaves`).  All other characters are ordinary ones, backslashes and NULs
included, and so are names such as `...` and `..a`.
-/

import ComponentHost.Proofs.AnchoredPath
import ComponentHost.Proofs.Utf8

namespace ComponentHost
namespace Path

/-! ### Texts between slashes -/

/-- The texts between the slashes of a text, empty ones included. -/
def textSegments (text : String) : List String := (text.toList.splitOn '/').map String.ofList

/-- The texts between slashes that are neither empty nor `.`, in their order. -/
def textNames (text : String) : List String := (textSegments text).filter fun s => s ≠ "" ∧ s ≠ "."

theorem textSegments_append_slash (front rest : String) :
    textSegments (front ++ "/" ++ rest) = textSegments front ++ textSegments rest := by
  have letters : (front ++ "/" ++ rest).toList = front.toList ++ '/' :: rest.toList := by simp
  rw [textSegments, letters, List.splitOn_append_cons_self, List.map_append]
  rfl

theorem textNames_append_slash (front rest : String) :
    textNames (front ++ "/" ++ rest) = textNames front ++ textNames rest := by
  rw [textNames, textSegments_append_slash, List.filter_append]
  rfl

theorem slash_mem_encodeChar_iff {c : Char} : slash ∈ Utf8.encodeChar c ↔ c = '/' :=
  Utf8.mem_encodeChar_iff (by decide : '/'.toNat < 0x80)

/-- **Slashes cut the octets of a text where they cut the text.** -/
theorem splitOn_flatMap_encodeChar (cs : List Char) :
    (cs.flatMap Utf8.encodeChar).splitOn slash =
      (cs.splitOn '/').map (·.flatMap Utf8.encodeChar) := by
  induction cs with
  | nil => rfl
  | cons c cs ih =>
    rw [List.flatMap_cons, List.splitOn_cons_eq_if_modifyHead]
    by_cases h : c = '/'
    · rw [if_pos (beq_iff_eq.2 h), h, List.map_cons, ← ih]
      exact (List.splitOn_cons_eq_if_modifyHead ..).trans (if_pos rfl)
    · have noSlash : slash ∉ Utf8.encodeChar c := mt slash_mem_encodeChar_iff.1 h
      obtain ⟨s, ss, hss⟩ := List.exists_cons_of_ne_nil (List.splitOn_ne_nil '/' cs)
      rw [if_neg (mt beq_iff_eq.1 h), splitOn_append_of_notMem noSlash, ih, hss]
      rfl

theorem segments_ofString (text : String) :
    (ofString text).segments = (textSegments text).map Utf8.encode := by
  rw [segments_eq_splitOn, textSegments, List.map_map]
  refine (splitOn_flatMap_encodeChar text.toList).trans (List.map_congr_left fun s _ => ?_)
  rw [Function.comp_apply, Utf8.encode, String.toList_ofList]

/-- The segments of a text that mean something are those that are written so. -/
theorem meaningful_ofString (text : String) :
    (ofString text).meaningful = (textNames text).map Utf8.encode := by
  have empty : ∀ s, Utf8.encode s = [] ↔ s = "" := fun s =>
    (Utf8.encode_inj : Utf8.encode s = Utf8.encode "" ↔ s = "")
  have current : ∀ s, Utf8.encode s = [dot] ↔ s = "." := fun s =>
    (Utf8.encode_inj : Utf8.encode s = Utf8.encode "." ↔ s = ".")
  rw [meaningful, ← segments_eq_splitOn, segments_ofString, List.filter_map, textNames]
  refine congrArg _ (List.filter_congr fun s _ => ?_)
  simp [empty, current]

theorem head?_ofString_iff {text : String} :
    (ofString text).bytes.head? = some slash ↔ text.toList.head? = some '/' := by
  rw [ofString, Utf8.encode]
  cases text.toList with
  | nil => simp
  | cons c cs =>
    rw [List.flatMap_cons, List.head?_append_of_ne_nil _ (Utf8.encodeChar_ne_nil c)]
    constructor
    · intro h
      exact congrArg some (slash_mem_encodeChar_iff.1 (List.mem_of_head? h))
    · intro h
      rw [Option.some.inj h]
      rfl

/-- **A text leaves a directory if it is written so.** -/
theorem leaves_ofString_iff {text : String} :
    (ofString text).Leaves ↔ text.toList.head? = some '/' ∨ ".." ∈ textSegments text := by
  have up : Utf8.encode ".." = [dot, dot] := rfl
  rw [Leaves, head?_ofString_iff, segments_ofString, ← up, List.mem_map]
  simp only [Utf8.encode_inj, exists_eq_right]

theorem isName_of_mem_textNames {text s : String} (stays : ".." ∉ textSegments text)
    (h : s ∈ textNames text) : Path.IsName (Utf8.encode s) := by
  have mem : Utf8.encode s ∈ (ofString text).meaningful :=
    meaningful_ofString text ▸ List.mem_map_of_mem h
  obtain ⟨isSegment, notEmpty, notDot⟩ := mem_meaningful_iff.1 mem
  refine ⟨notEmpty, notDot, fun up => stays ?_, slash_notMem_of_mem_splitAtSlashes isSegment⟩
  have up : Utf8.encode s = Utf8.encode ".." := up
  exact Utf8.encode_inj.1 up ▸ (List.mem_filter.1 h).1

/-! ### Names behind a path -/

theorem components_foldl_child {names : List Bytes} (h : ∀ s ∈ names, Path.IsName s)
    (p : Path) : (names.foldl child p).components = p.components ++ names.map .normal := by
  have steps : ∀ c ∈ names.map Component.normal, c.IsStep := by
    intro c hc
    obtain ⟨s, hs, rfl⟩ := List.mem_map.1 hc
    exact h s hs
  have pushed := components_foldl_push steps p
  rwa [List.foldl_map] at pushed

/-- What stands between a path and a name that is put behind it. -/
def separator (p : Path) : Bytes :=
  if p.bytes = [] ∨ p.bytes.getLast? = some slash then [] else [slash]

theorem bytes_child (p : Path) (name : Bytes) :
    (p.child name).bytes = p.bytes ++ p.separator ++ name := by
  rw [child, separator]
  split
  · rw [List.append_nil]
  · rw [List.append_assoc, List.singleton_append]

/-- Behind a name there stands a slash. -/
theorem child_child {p : Path} {name : Bytes} (h : Path.IsName name) (rest : Bytes) :
    (p.child name).child rest = p.child (name ++ slash :: rest) := by
  have ends : (p.child name).bytes.getLast? ≠ some slash := by
    rw [bytes_child, List.getLast?_append_of_ne_nil _ h.1]
    exact fun e => h.2.2.2 (List.mem_of_getLast? e)
  have octets : (p.child name).bytes ≠ [] := by
    rw [bytes_child]
    exact List.append_ne_nil_of_right_ne_nil _ h.1
  have between : (p.child name).separator = [slash] := if_neg (not_or.2 ⟨octets, ends⟩)
  refine congrArg mk (?_ : ((p.child name).child rest).bytes = (p.child _).bytes)
  rw [bytes_child, between, bytes_child, bytes_child, List.append_assoc, List.append_assoc,
    List.append_assoc, List.append_assoc, List.singleton_append]

/-- **Names put behind a path one after another** are put there joined by slashes. -/
theorem foldl_child {names : List Bytes} (h : ∀ s ∈ names, Path.IsName s) (hne : names ≠ [])
    (p : Path) : names.foldl child p = p.child ([slash].intercalate names) := by
  induction names generalizing p with
  | nil => exact absurd rfl hne
  | cons name rest ih =>
    obtain ⟨hname, hrest⟩ := List.forall_mem_cons.1 h
    cases rest with
    | nil => rw [List.intercalate_singleton, List.foldl_cons, List.foldl_nil]
    | cons next rest =>
      rw [List.foldl_cons, ih hrest (List.cons_ne_nil _ _), child_child hname,
        List.intercalate_cons_cons, List.append_assoc, List.singleton_append]

end Path

namespace Asset

open ComponentHost.Path (textSegments textNames)

/-! ### Descents -/

/-- A descent through what segments mean puts them behind the path, if none of them is `..`. -/
theorem descend_map_meaning {segments : List Bytes} (h : [Path.dot, Path.dot] ∉ segments)
    (p : Path) :
    descend p (segments.map Path.Component.meaning) = some (segments.foldl Path.child p) := by
  induction segments generalizing p with
  | nil => rfl
  | cons s rest ih =>
    obtain ⟨notUp, hrest⟩ := List.ne_and_not_mem_of_not_mem_cons h
    have named : Path.Component.meaning s = .normal s := if_neg notUp.symm
    rw [List.map_cons, named, descend, ih hrest, List.foldl_cons]

/-- **A path that does not leave is put behind the directory**, segment by segment. -/
theorem resolveWithin_of_not_leaves {text : String} (h : ¬ (Path.ofString text).Leaves)
    (root : Path) :
    resolveWithin root text = some ((Path.ofString text).meaningful.foldl Path.child root) := by
  obtain ⟨notRooted, notUp⟩ := not_or.1 h
  have stays : [Path.dot, Path.dot] ∉ (Path.ofString text).meaningful := fun up =>
    notUp (Path.mem_meaningful_iff.1 up).1
  obtain ⟨lead, hlead, hcomponents⟩ := (Path.ofString text).components_eq_lead_append
  rw [resolveWithin, hcomponents]
  rcases hlead with rfl | rfl | rfl
  · exact descend_map_meaning stays root
  · refine absurd (Path.root_mem_components_iff.1 ?_) notRooted
    rw [hcomponents]
    exact List.mem_cons_self ..
  · exact descend_map_meaning stays root

/-- What could leave is refused, and all else is names behind the directory. -/
theorem resolveWithin_eq (root : Path) (text : String) :
    resolveWithin root text =
      if text.toList.head? = some '/' ∨ ".." ∈ textSegments text then none
      else some (((textNames text).map Utf8.encode).foldl Path.child root) := by
  split
  · rename_i leaves
    exact resolveWithin_eq_none_iff.2 (Path.leaves_ofString_iff.2 leaves)
  · rename_i stays
    rw [resolveWithin_of_not_leaves (mt Path.leaves_ofString_iff.1 stays),
      Path.meaningful_ofString]

/-- **A path can be resolved in two steps**, cut at any of its slashes but one at its front. -/
theorem resolveWithin_append {root file : Path} {front rest : String} (hfront : front ≠ "")
    (h : resolveWithin root front = some file) (hrest : rest.toList.head? ≠ some '/') :
    resolveWithin root (front ++ "/" ++ rest) = resolveWithin file rest := by
  have sameFront : (front ++ "/" ++ rest).toList.head? = front.toList.head? := by
    have letters : front.toList ≠ [] := mt String.toList_eq_nil_iff.1 hfront
    rw [String.toList_append, String.toList_append, List.append_assoc,
      List.head?_append_of_ne_nil _ letters]
  rw [resolveWithin_eq] at h
  split at h
  · cases h
  rename_i stays
  obtain ⟨notRooted, notUp⟩ := not_or.1 stays
  obtain rfl := Option.some.inj h
  have sameRefusal : ((front ++ "/" ++ rest).toList.head? = some '/' ∨
      ".." ∈ textSegments (front ++ "/" ++ rest)) ↔
      rest.toList.head? = some '/' ∨ ".." ∈ textSegments rest := by
    rw [sameFront, Path.textSegments_append_slash, List.mem_append]
    constructor
    · rintro (rooted | up | later)
      · exact absurd rooted notRooted
      · exact absurd up notUp
      · exact .inr later
    · rintro (rooted | later)
      · exact absurd rooted hrest
      · exact .inr (.inr later)
  rw [resolveWithin_eq, resolveWithin_eq, if_congr sameRefusal rfl rfl,
    Path.textNames_append_slash, List.map_append, List.foldl_append]

/-- **Just the paths that stay below are resolved, and resolving only descends.**  Let a text be
resolved below a directory of any spelling.

* It is refused exactly if it begins with a slash or one of the texts between its slashes is
  `..`.
* Otherwise those of them that are neither empty nor `.` are put behind the directory, in order
  and unchanged: all of them joined by slashes, after one slash if the directory is not empty
  and does not end in one.  So these are the components that follow those of the directory,
  which is what is left if there are none.
* A text with a slash in it, other than at its front, can be resolved in two steps. -/
theorem resolveWithin_only_descends (root : Path) (text : String) :
    (resolveWithin root text = none ↔
      text.toList.head? = some '/' ∨ ".." ∈ textSegments text) ∧
    ∀ file, resolveWithin root text = some file →
      let names := (textNames text).map Utf8.encode
      file = names.foldl Path.child root ∧
      (names = [] → file = root) ∧
      (names ≠ [] → file.bytes = root.bytes ++
        (if root.bytes = [] ∨ root.bytes.getLast? = some Path.slash then [] else [Path.slash]) ++
          [Path.slash].intercalate names) ∧
      file.components = root.components ++ names.map .normal ∧
      root.components <+: file.components ∧
      (text ≠ "" → ∀ rest : String, rest.toList.head? ≠ some '/' →
        resolveWithin root (text ++ "/" ++ rest) = resolveWithin file rest) := by
  refine ⟨resolveWithin_eq_none_iff.trans Path.leaves_ofString_iff, fun file h => ?_⟩
  have resolved := h
  rw [resolveWithin_eq] at h
  split at h
  · cases h
  rename_i stays
  intro names
  obtain rfl : names.foldl Path.child root = file := Option.some.inj h
  have isName : ∀ s ∈ names, Path.IsName s := by
    intro s hs
    obtain ⟨t, ht, rfl⟩ := List.mem_map.1 hs
    exact Path.isName_of_mem_textNames (not_or.1 stays).2 ht
  have components := Path.components_foldl_child isName root
  refine ⟨rfl, fun none => ?_, fun some => ?_, components, ?_, fun hfront rest hrest => ?_⟩
  · rw [none]
    rfl
  · rw [Path.foldl_child isName some, Path.bytes_child]
    rfl
  · rw [components]
    exact List.prefix_append ..
  · exact resolveWithin_append hfront resolved hrest

/-- A directory that ends in a slash and is not UTF-8; a text with names that look like others,
and a text taken from there. -/
theorem resolveWithin_only_descends_of_lookalikes :
    let root : Path := ⟨[0x2F, 0xFF, 0x2F]⟩
    let file : Path := ⟨[0x2F, 0xFF, 0x2F] ++ Utf8.encode "..a/b\\/..."⟩
    resolveWithin root "./..a//b\\/./.../" = some file ∧
      file.components = root.components ++
        [.normal (Utf8.encode "..a"), .normal (Utf8.encode "b\\"), .normal (Utf8.encode "...")] ∧
      root.components <+: file.components ∧
      resolveWithin root ("./..a//b\\/./.../" ++ "/" ++ "./c") =
        some ⟨file.bytes ++ Utf8.encode "/c"⟩ ∧
      resolveWithin root "..a/../c" = none := by
  intro root file
  have resolved : resolveWithin root "./..a//b\\/./.../" = some file := by decide
  obtain ⟨-, -, -, components, below, further⟩ :=
    (resolveWithin_only_descends root "./..a//b\\/./.../").2 file resolved
  refine ⟨resolved, components.trans (by decide), below, ?_, ?_⟩
  · exact (further (by decide) "./c" (by decide)).trans (by decide)
  · exact (resolveWithin_only_descends root "..a/../c").1.2 (.inr (by decide))

end Asset
end ComponentHost
