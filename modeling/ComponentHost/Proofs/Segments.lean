/-
# Segments that mean something

Of the segments of a path, those that are empty or `.` mean nothing; each other one is a step:
`..` goes up, any other text is a name (`Component.meaning`).  A path means the steps of its
segments that mean something, after at most one component that is no step, the root or a
leading `.` (`components_eq_lead_append`).

| View of a path | Read off its meaningful segments |
|----------------|----------------------------------|
| `steps` | what they mean (`steps_eq_map_meaning`) |
| `fileName?` | the last of them, unless it is `..` (`fileName?_eq_getLast?`) |
| the place below the root | the names that a stack of them is left with |

The segments themselves are what splitting the octets at slashes leaves
(`segments_eq_splitOn`).
-/

import ComponentHost.Proofs.Descent

namespace ComponentHost
namespace Path

/-! ### Splitting -/

/-- The segments are what stands between the slashes. -/
theorem segments_eq_splitOn (p : Path) : p.segments = p.bytes.splitOn slash :=
  splitAtSlashes_eq_splitOn p.bytes

/-- What has no slash belongs to the segment behind it. -/
theorem splitOn_append_of_notMem {front : Bytes} (h : slash ∉ front) (rest : Bytes) :
    (front ++ rest).splitOn slash = (rest.splitOn slash).modifyHead (front ++ ·) := by
  obtain ⟨s, ss, hss⟩ := List.exists_cons_of_ne_nil (List.splitOn_ne_nil slash rest)
  rw [hss]
  induction front with
  | nil => exact hss
  | cons b front ih =>
    have notSlash : ¬ (b == slash) = true := fun e => h (beq_iff_eq.1 e ▸ List.mem_cons_self ..)
    rw [List.cons_append, List.splitOn_cons_eq_if_modifyHead, if_neg notSlash,
      ih fun mem => h (List.mem_cons_of_mem _ mem)]
    rfl

/-! ### What segments mean -/

/-- The segments that mean something, in their order. -/
def meaningful (p : Path) : List Bytes :=
  (p.bytes.splitOn slash).filter fun s => s ≠ [] ∧ s ≠ [dot]

/-- What a segment means that means something. -/
def Component.meaning (s : Bytes) : Component := if s = [dot, dot] then .parent else .normal s

theorem mem_meaningful_iff {p : Path} {s : Bytes} :
    s ∈ p.meaningful ↔ s ∈ p.segments ∧ s ≠ [] ∧ s ≠ [dot] := by
  rw [meaningful, List.mem_filter, segments_eq_splitOn, decide_eq_true_iff]

theorem Component.ofSegment?_eq_meaning {s : Bytes} (h : s ≠ [] ∧ s ≠ [dot]) :
    ofSegment? s = some (meaning s) := by
  rw [ofSegment?, if_neg (not_or.2 h), meaning]
  split <;> rfl

theorem filterMap_ofSegment? (segments : List Bytes) :
    segments.filterMap Component.ofSegment? =
      (segments.filter fun s => s ≠ [] ∧ s ≠ [dot]).map Component.meaning := by
  induction segments with
  | nil => rfl
  | cons s rest ih =>
    by_cases nothing : s = [] ∨ s = [dot]
    · have none : Component.ofSegment? s = none := by rw [Component.ofSegment?, if_pos nothing]
      have dropped : ¬ (s ≠ [] ∧ s ≠ [dot]) := fun kept => nothing.elim kept.1 kept.2
      rw [List.filterMap_cons_none none, List.filter_cons_of_neg (by simpa using dropped), ih]
    · have kept : s ≠ [] ∧ s ≠ [dot] := not_or.1 nothing
      have meant := Component.ofSegment?_eq_meaning kept
      rw [List.filterMap_cons_some meant, List.filter_cons_of_pos (by simpa using kept),
        List.map_cons, ih]

/-- **A path means what its segments mean**, after the root or a leading `.` if it has one. -/
theorem components_eq_lead_append (p : Path) :
    ∃ lead, (lead = [] ∨ lead = [.root] ∨ lead = [.current]) ∧
      p.components = lead ++ p.meaningful.map Component.meaning := by
  obtain ⟨first, rest, hsegments⟩ := List.exists_cons_of_ne_nil (splitAtSlashes_ne_nil p.bytes)
  have hsegments : p.segments = first :: rest := hsegments
  have meant : p.meaningful.map Component.meaning =
      (first :: rest).filterMap Component.ofSegment? := by
    rw [meaningful, ← segments_eq_splitOn, hsegments, filterMap_ofSegment?]
  rw [components_of_segments hsegments, meant]
  by_cases empty : first = []
  · rw [empty]
    cases rest.isEmpty with
    | true => exact ⟨[], .inl rfl, rfl⟩
    | false => exact ⟨[.root], .inr (.inl rfl), rfl⟩
  by_cases current : first = [dot]
  · rw [current]
    exact ⟨[.current], .inr (.inr rfl), rfl⟩
  · have named := Component.ofSegment?_eq_meaning ⟨empty, current⟩
    refine ⟨[], .inl rfl, ?_⟩
    rw [Component.ofFirst?, if_neg empty, if_neg current, List.filterMap_cons_some named, named]
    rfl

/-- What a meaningful segment means is a step. -/
theorem isStep_meaning {p : Path} {s : Bytes} (h : s ∈ p.meaningful) :
    (Component.meaning s).IsStep := by
  obtain ⟨isSegment, means⟩ := mem_meaningful_iff.1 h
  have noSlash : slash ∉ s := slash_notMem_of_mem_splitAtSlashes isSegment
  exact Component.isStep_of_ofSegment? noSlash (Component.ofSegment?_eq_meaning means)

/-- **The file name is the last meaningful segment**, unless that is `..`. -/
theorem fileName?_eq_getLast? (p : Path) :
    p.fileName? = p.meaningful.getLast?.filter fun s => s ≠ [dot, dot] := by
  obtain ⟨lead, hlead, h⟩ := p.components_eq_lead_append
  rw [fileName?, h, List.getLast?_append, List.getLast?_map]
  cases p.meaningful.getLast? with
  | none => rcases hlead with rfl | rfl | rfl <;> rfl
  | some s =>
    by_cases up : s = [dot, dot]
    · rw [up]
      rfl
    · have named : Component.meaning s = .normal s := if_neg up
      simp [named, Option.filter, up]

/-! ### Going on behind a path -/

theorem meaningful_append_slash (front rest : Bytes) :
    (mk (front ++ slash :: rest)).meaningful = (mk front).meaningful ++ (mk rest).meaningful := by
  rw [meaningful, List.splitOn_append_cons_self, List.filter_append]
  rfl

/-- **What is put behind a path adds its meaningful segments**, also where it begins with a
slash. -/
theorem meaningful_child (p : Path) (rest : Bytes) :
    (p.child rest).meaningful = p.meaningful ++ (mk rest).meaningful := by
  have nothing : (mk []).meaningful = [] := rfl
  obtain ⟨bytes⟩ := p
  rw [child]
  by_cases empty : bytes = []
  · rw [if_pos (.inl empty), empty, nothing, List.nil_append, List.nil_append]
  by_cases ends : bytes.getLast? = some slash
  · obtain ⟨front, rfl⟩ := List.getLast?_eq_some_iff.1 ends
    rw [if_pos (.inr ends), List.append_assoc, List.singleton_append, meaningful_append_slash,
      meaningful_append_slash, nothing, List.append_nil]
  · rw [if_neg (not_or.2 ⟨empty, ends⟩), meaningful_append_slash]

end Path
end ComponentHost
