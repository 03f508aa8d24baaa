/-
# Absolute paths and components

The absolute form of a path is read off its components, so spellings of the same
components have the same one (`absolute_eq_of_sameAs`).  The empty path is the only
one without components, and no other spelling stands for it.
-/

import ComponentHost.Declaration

namespace ComponentHost
namespace Path

theorem splitAtSlashes_ne_nil (bs : Bytes) : splitAtSlashes bs ≠ [] := by
  cases bs with
  | nil => exact List.cons_ne_nil _ _
  | cons b bs =>
    rw [splitAtSlashes]
    split
    · exact List.cons_ne_nil _ _
    · split <;> exact List.cons_ne_nil _ _

/-- A segment with octets means something as the first one. -/
theorem ofFirst?_cons_ne_none (b : UInt8) (s : Bytes) (isLast : Bool) :
    Component.ofFirst? (b :: s) isLast ≠ none := by
  rw [Component.ofFirst?, if_neg (List.cons_ne_nil _ _)]
  split
  · exact Option.some_ne_none _
  · rename_i notDot
    rw [Component.ofSegment?, if_neg (by simpa using notDot)]
    split <;> exact Option.some_ne_none _

/-- Only the empty path has no components. -/
theorem components_eq_nil_iff {p : Path} : p.components = [] ↔ p.bytes = [] := by
  obtain ⟨bytes⟩ := p
  constructor
  · intro h
    cases bytes with
    | nil => rfl
    | cons b bs =>
      exfalso
      rw [components, segments, splitAtSlashes] at h
      split at h
      · rename_i heq
        split at heq
        · cases heq
        · split at heq <;> cases heq
      · rename_i first rest heq
        have none : Component.ofFirst? first rest.isEmpty = none := by
          simpa using (List.append_eq_nil_iff.1 h).1
        split at heq
        · -- A slash at the front is the root, for there is a segment after it.
          cases heq
          have : (splitAtSlashes bs).isEmpty = false := by
            simpa using splitAtSlashes_ne_nil bs
          simp [Component.ofFirst?, this] at none
        · split at heq <;> cases heq <;> exact ofFirst?_cons_ne_none _ _ _ none
  · rintro rfl
    rfl

/-- **Respelling a path keeps its absolute form.** -/
theorem absolute_eq_of_sameAs [Platform] {p q : Path} (h : SameAs p q) :
    p.absolute = q.absolute := by
  have same : p.components = q.components := h
  by_cases none : q.components = []
  · have hp : p.bytes = [] := components_eq_nil_iff.1 (same.trans none)
    have hq : q.bytes = [] := components_eq_nil_iff.1 none
    rw [absolute, absolute, if_pos hp, if_pos hq]
    exact congrArg Path.mk (hp.trans hq.symm)
  · have hp : p.bytes ≠ [] := fun e => none (same ▸ components_eq_nil_iff.2 e)
    have hq : q.bytes ≠ [] := fun e => none (components_eq_nil_iff.2 e)
    rw [absolute, absolute, if_neg hp, if_neg hq, same]

end Path
end ComponentHost
