/-
# Respelled declarations do the same

A directory can be spelled in many ways: slashes may be repeated, added at the end, or stand
around a `.` (`sameAs_repeated_slash`, `sameAs_inner_dot`, `sameAs_trailing_slash`).
Declarations that differ in the spelling only are equal, and whatever is done with a
declaration goes through something that equal ones agree on:

| What is done | Goes through |
|--------------|--------------|
| registering | its absolute directory, and equality itself |
| serving its files | its absolute directory |
| creating an instance | its name, its address and the text of its directory |

So equal declarations can stand for each other (`congruence_of_sameAs`).  That the directory is
put together from texts, some of which do tell spellings apart, leaves no trace in it
(`directory?_eq_map_collapsed`).  Only what shows the declared path does: the declaration that
a registry gives back, and log lines.
-/

import ComponentHost.Http.Router
import ComponentHost.Instance.Create
import ComponentHost.Proofs.AnchoredPath
import ComponentHost.Proofs.Confinement

namespace ComponentHost

namespace Path

/-! ### Spellings of the same path -/

/-- A repeated slash means nothing. -/
theorem sameAs_repeated_slash (front rest : Bytes) :
    SameAs ⟨front ++ slash :: slash :: rest⟩ ⟨front ++ slash :: rest⟩ := by
  rw [SameAs, components_append_slash, components_append_slash front rest]
  simp [splitAtSlashes, Component.ofSegment?]

/-- A `.` between slashes means nothing. -/
theorem sameAs_inner_dot (front rest : Bytes) :
    SameAs ⟨front ++ slash :: dot :: slash :: rest⟩ ⟨front ++ slash :: rest⟩ := by
  have apart : splitAtSlashes (dot :: slash :: rest) = [dot] :: splitAtSlashes rest :=
    splitAtSlashes_append_slash [dot] rest
  rw [SameAs, components_append_slash, components_append_slash front rest, apart]
  simp [Component.ofSegment?]

/-- A slash at the end means nothing, and neither does a `.` behind it. -/
theorem sameAs_trailing_slash {front : Bytes} (h : front ≠ []) :
    SameAs ⟨front ++ [slash]⟩ ⟨front⟩ ∧ SameAs ⟨front ++ [slash, dot]⟩ ⟨front⟩ := by
  have trailing := components_append_singleton_slash h
  refine ⟨trailing, ?_⟩
  rw [SameAs, components_append_slash, trailing]
  simp [splitAtSlashes, Component.ofSegment?, dot, slash]

end Path

namespace Source

/-- Equal sources are spellings of the same path, or the same address. -/
theorem cases_of_sameAs {s t : Source} (h : s.SameAs t) :
    (∃ p q, s = .path p ∧ t = .path q ∧ p.SameAs q) ∨ ∃ address, s = .url address ∧ t = s := by
  cases s with
  | path p =>
    cases t with
    | path q => exact .inl ⟨p, q, rfl, rfl, h⟩
    | url _ => exact absurd h id
  | url address =>
    cases t with
    | path _ => exact absurd h id
    | url other =>
      obtain rfl : address = other := h
      exact .inr ⟨address, rfl, rfl⟩

/-- Equal sources are equal to the same sources. -/
theorem sameAs_congr_right {s t : Source} (h : s.SameAs t) (u : Source) :
    u.SameAs s ↔ u.SameAs t := by
  rcases cases_of_sameAs h with ⟨p, q, rfl, rfl, same⟩ | ⟨_, -, rfl⟩
  · cases u with
    | path o =>
      change o.components = p.components ↔ o.components = q.components
      rw [show p.components = q.components from same]
    | url _ => exact Iff.rfl
  · exact Iff.rfl

/-- The text of a source does not tell how it is spelled. -/
theorem sourceFields_eq_of_sameAs [Platform] {s t : Source} (h : s.SameAs t) :
    Identity.sourceFields s = Identity.sourceFields t := by
  rcases cases_of_sameAs h with ⟨p, q, rfl, rfl, same⟩ | ⟨_, -, rfl⟩
  · rw [Identity.sourceFields, Identity.sourceFields, Path.absolute_eq_of_sameAs same]
  · rfl

end Source

namespace Declaration

variable {a b : Declaration}

/-! ### What equal declarations agree on -/

/-- Equal declarations are equal to the same declarations. -/
theorem sameAs_congr_right (h : a.SameAs b) (c : Declaration) : c.SameAs a ↔ c.SameAs b := by
  rw [SameAs, SameAs, h.1, Source.sameAs_congr_right h.2]

theorem url?_eq_of_sameAs (h : a.SameAs b) : a.url? = b.url? := by
  rw [url?, url?]
  rcases Source.cases_of_sameAs h.2 with ⟨p, q, hp, hq, -⟩ | ⟨_, -, e⟩
  · rw [hp, hq]
  · rw [e]

section

variable [Platform]

/-- **Equal declarations have the same directory**, octet by octet. -/
theorem directory?_eq_of_sameAs (h : a.SameAs b) : a.directory? = b.directory? := by
  rw [directory?, directory?, path?, path?]
  rcases Source.cases_of_sameAs h.2 with ⟨p, q, hp, hq, same⟩ | ⟨_, -, e⟩
  · rw [hp, hq]
    exact congrArg some (Path.absolute_eq_of_sameAs same)
  · rw [e]

/-- The directory is what the two stages put together from the declared path. -/
theorem directory?_eq_map_collapsed (c : Declaration) :
    c.directory? = c.path?.map fun p => p.anchored.collapsed := by
  rw [directory?, funext Path.absolute_eq_collapsed]

/-- **Equal declarations have the same identity**, whatever it rests on. -/
theorem input_eq_of_sameAs (h : a.SameAs b) (kind : String) (basis : Identity.Basis) :
    Identity.input kind a basis = Identity.input kind b basis := by
  rw [Identity.input, Identity.input, Identity.fields, Identity.fields,
    Source.sourceFields_eq_of_sameAs h.2, h.1]

theorem query_eq_of_sameAs (h : a.SameAs b) (key : Option String) (args : MarshalledArguments) :
    a.query key args = b.query key args := by
  rw [query, query, input_eq_of_sameAs h, h.1]

/-- **Equal declarations have the same instances.** -/
theorem create_eq_of_sameAs {σ T : Type} (h : a.SameAs b) (host : Host σ T) (call : Call T)
    (state : σ) : a.create host call state = b.create host call state := by
  have builders : ∀ args, a.build host call args = b.build host call args := fun args => by
    funext s
    simp only [build, node, query_eq_of_sameAs h, url?_eq_of_sameAs h, h.1]
  simp only [create, builders, query_eq_of_sameAs h, h.1]

end

end Declaration

namespace Registry

variable [Platform] {a b : Declaration}

theorem missing?_eq_of_sameAs (h : a.SameAs b) (tree : FileTree) :
    missing? tree a = missing? tree b := by
  rw [missing?, missing?, Declaration.directory?_eq_of_sameAs h]

/-- **Registering either has the same result**, errors included. -/
theorem result_register_eq_of_sameAs (h : a.SameAs b) (tree : FileTree) (r : Registry) :
    (r.register tree a).result = (r.register tree b).result := by
  have outcome : ∀ previous, outcomeOver previous a = outcomeOver previous b := by
    intro previous
    cases previous with
    | none => rfl
    | some d => simp only [outcomeOver, Declaration.sameAs_congr_right h]
  rw [register, register, missing?_eq_of_sameAs h]
  split
  · rfl
  · simp only [outcome, h.1]

/-- A declaration that is registered over an equal one changes nothing but the spelling. -/
theorem register_over_sameAs (h : a.SameAs b) {tree : FileTree} {r : Registry}
    (held : r.get? a.name = some a) (there : missing? tree b = none) :
    (r.register tree b).result = .ok .unchanged ∧
      (r.register tree b).log = [⟨.info, "Registered component " ++ b.display⟩] := by
  have unchanged : outcomeOver (r.get? b.name) b = .unchanged := by
    rw [← h.1, held, outcomeOver, if_pos h]
  rw [register, there, unchanged]
  exact ⟨rfl, rfl⟩

end Registry

/-- Answering requests looks at the directories of a registry only. -/
theorem Http.respond_congr [Platform] {r r' : Registry}
    (same : ∀ name, r.directory? name = r'.directory? name) (tree : FileTree)
    (options : ServerOptions) (request : Request) :
    respond tree r options request = respond tree r' options request := by
  have served : ∀ text, serve tree r text = serve tree r' text := fun text => by
    rw [serve, serve, Asset.load_congr_registry (same _)]
  simp only [respond, answer, serveEscaped, served]

namespace Declaration

/-- **Equal declarations can stand for each other.**  Let two declarations be equal: their
names are, and their addresses letter by letter or their paths component by component.

* Their absolute directories are the same octets: that of one is what anchoring and collapsing
  put together from the path of the other.  The inputs of their identities are the same for
  any key or arguments, and an instance of one is an instance of the other, node, value and
  log included.
* Registering one has the same result as registering the other, in any registry and any file
  tree, so both fail in the same trees and with the same error.  Registering one over the
  other changes nothing and warns of nothing, if the directory is there.
* Of two registries that hold one and the other, and else the same, every look-up of a
  directory, every request for an asset and every request to a server is answered alike. -/
theorem congruence_of_sameAs [Platform] {a b : Declaration} (h : a.SameAs b) :
    (a.directory? = b.directory? ∧
      (a.directory? = b.path?.map fun p => p.anchored.collapsed) ∧
      (∀ kind basis, Identity.input kind a basis = Identity.input kind b basis) ∧
      ∀ (σ T : Type) (host : Host σ T) (call : Call T) (state : σ),
        a.create host call state = b.create host call state) ∧
    (∀ (tree : FileTree) (r : Registry),
      (r.register tree a).result = (r.register tree b).result ∧
      (r.get? a.name = some a → (∀ p, b.directory? = some p → tree.isDirectory p = true) →
        (r.register tree b).result = .ok .unchanged ∧
          (r.register tree b).log = [⟨.info, "Registered component " ++ b.display⟩])) ∧
    ∀ r r' : Registry, r.get? a.name = some a → r'.get? a.name = some b →
      (∀ name, name ≠ a.name → r.get? name = r'.get? name) →
        (∀ name, r.directory? name = r'.directory? name) ∧
        (∀ tree text, Asset.load tree r text = Asset.load tree r' text) ∧
        ∀ tree options request,
          Http.respond tree r options request = Http.respond tree r' options request := by
  have directories := directory?_eq_of_sameAs h
  refine ⟨⟨directories, directories.trans b.directory?_eq_map_collapsed, input_eq_of_sameAs h,
      fun σ T => create_eq_of_sameAs h⟩,
    fun tree r => ⟨Registry.result_register_eq_of_sameAs h tree r, fun held there => ?_⟩,
    fun r r' held held' others => ?_⟩
  · refine Registry.register_over_sameAs h held (Option.filter_eq_none_iff.2 fun p hp => ?_)
    simp [there p hp]
  · have same : ∀ name, r.directory? name = r'.directory? name := by
      intro name
      rw [Registry.directory?, Registry.directory?]
      by_cases here : name = a.name
      · rw [here, held, held']
        exact directories
      · rw [others name here]
    exact ⟨same, fun tree text => Asset.load_congr_registry (same _) tree, Http.respond_congr same⟩

attribute [local instance] Platform.atRoot

/-- A directory spelled with two slashes at the front, and with some at the end; it is shown
differently, but it is the same. -/
theorem congruence_of_sameAs_of_spare_slashes :
    let a := Declaration.ofPath "knob" (.ofString "//b/./c")
    let b := Declaration.ofPath "knob" (.ofString "/b/c//")
    let tree : FileTree :=
      { entries := [([Utf8.encode "b"], .directory),
        ([Utf8.encode "b", Utf8.encode "c"], .directory)] }
    let r : Registry := ⟨.insert .empty "knob" a⟩
    let r' : Registry := ⟨.insert .empty "knob" b⟩
    a.SameAs b ∧ a.display ≠ b.display ∧ a.directory? = b.directory? ∧
      Identity.input "k" a (.key "") = Identity.input "k" b (.key "") ∧
      (r.register tree b).result = .ok .unchanged ∧
      (r.register .empty a).result = (r.register .empty b).result ∧
      Asset.load tree r "knob/x" = Asset.load tree r' "knob/x" := by
  intro a b tree r r'
  have same : a.SameAs b := by decide
  obtain ⟨⟨directory, -, input, -⟩, registering, serving⟩ := congruence_of_sameAs same
  have there : ∀ p, b.directory? = some p → tree.isDirectory p = true := fun p hp => by
    obtain rfl : Path.ofString "/b/c" = p := Option.some.inj hp
    decide
  have others : ∀ name, name ≠ "knob" → r.get? name = r'.get? name := fun name other => by
    have held : r.get? name = none := by
      rw [Registry.get?, ByName.get?_insert, if_neg other]
      rfl
    rw [held, Registry.get?, ByName.get?_insert, if_neg other]
    rfl
  exact ⟨same, by decide, directory, input _ _, ((registering tree r).2 rfl there).1,
    (registering .empty r).1, (serving r r' rfl rfl others).2.1 _ _⟩

end Declaration
end ComponentHost
