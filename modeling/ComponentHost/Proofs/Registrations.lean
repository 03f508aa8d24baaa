/-
# A registry is what was registered last

Components are registered one after another while directories come and go.  Each attempt
is made in the file tree of its moment, and it does all or nothing (`attempt_eq`):

| Attempt | Answer | Registry | Logged |
|---------|--------|----------|--------|
| both sources or none | the source error | as before | nothing |
| the directory is missing | the directory error | as before | nothing |
| any other | the declaration | holds it under its name | a line, after a warning if it replaced another |

So one attempt changes what stands under one name at most (`get?_attempt`), and after a
run of attempts there stands under each name the last declaration that was put in place
there, spelled as it was given (`get?_after`).  `after_empty_is_log` says this of a
registry that began empty, together with all that can be read off it and with what the
next attempt does.
-/

import ComponentHost.Proofs.Bindings
import ComponentHost.Proofs.Utf8
import ComponentHost.Registry

namespace ComponentHost

namespace ByName

variable {α : Type}

theorem mem_names_iff {m : ByName α} {name : String} :
    name ∈ m.names ↔ ∃ a, m.get? name = some a := by
  rw [names, List.mem_map]
  constructor
  · rintro ⟨⟨n, a⟩, mem, rfl⟩
    exact ⟨a, mem_entries_iff.1 mem⟩
  · rintro ⟨a, bound⟩
    exact ⟨(name, a), mem_entries_iff.2 bound, rfl⟩

/-- The names of a map are in the order of their octets. -/
theorem names_increasing_octets (m : ByName α) :
    m.names.Pairwise fun n n' => Utf8.encode n < Utf8.encode n' :=
  m.names_increasing.imp fun less => Utf8.encode_lt_encode.2 less

end ByName

namespace Declaration

/-- A declaration is made of options exactly if one source is given and one is not. -/
theorem ofOptions_toOption_eq_none_iff {name : String} {path : Option Path}
    {url : Option String} :
    (ofOptions name path url).toOption = none ↔ path.isSome = url.isSome := by
  cases path <;> cases url <;> simp [ofOptions, Except.toOption]

end Declaration

namespace Registry

/-! ### The outcome -/

theorem outcomeOver_eq_inserted_iff {previous : Option Declaration} {c : Declaration} :
    outcomeOver previous c = .inserted ↔ previous = none := by
  cases previous with
  | none => simp [outcomeOver]
  | some d =>
    rw [outcomeOver]
    split <;> simp

theorem outcomeOver_eq_unchanged_iff {previous : Option Declaration} {c : Declaration} :
    outcomeOver previous c = .unchanged ↔ ∃ d, previous = some d ∧ d.SameAs c := by
  cases previous with
  | none => simp [outcomeOver]
  | some d =>
    rw [outcomeOver]
    split
    · rename_i same
      simp [same]
    · rename_i differs
      simp [differs]

theorem outcomeOver_eq_replaced_iff {previous : Option Declaration} {c d : Declaration} :
    outcomeOver previous c = .replaced d ↔ previous = some d ∧ ¬ d.SameAs c := by
  cases previous with
  | none => simp [outcomeOver]
  | some former =>
    rw [outcomeOver]
    split
    · rename_i same
      simp only [reduceCtorEq, Option.some.injEq, false_iff, not_and, not_not]
      rintro rfl
      exact same
    · rename_i differs
      simp only [Outcome.replaced.injEq, Option.some.injEq]
      exact ⟨fun e => ⟨e, e ▸ differs⟩, And.left⟩

/-! ### The last under a name -/

/-- The last of some declarations under a name. -/
def lastNamed (name : String) (declarations : List Declaration) : Option Declaration :=
  declarations.reverse.find? (·.name = name)

theorem lastNamed_append (name : String) (earlier later : List Declaration) :
    lastNamed name (earlier ++ later) = (lastNamed name later).or (lastNamed name earlier) := by
  rw [lastNamed, List.reverse_append, List.find?_append]
  rfl

/-! ### Attempts -/

/-- What is asked of a registry: to register a declaration, or to declare a component
named after its caller. -/
inductive Request where
  | register (c : Declaration)
  | declare (caller : Caller) (path : Option Path) (url : Option String)

/-- The declaration that a request is for, unless its source is chosen wrongly. -/
def Request.component? : Request → Option Declaration
  | .register c => some c
  | .declare caller path url => (Declaration.ofOptions caller.componentName path url).toOption

/-- A request, and the file tree at the moment when it is made. -/
structure Attempt where
  files : FileTree
  request : Request

/-- What an attempt is answered with, the registry after it and what it logged. -/
structure Attempted where
  answer : Except Error Declaration
  registry : Registry
  log : List LogLine

section

variable [Platform]

/-- Makes an attempt. -/
def attempt (r : Registry) (a : Attempt) : Attempted :=
  match a.request with
  | .register c =>
    let registration := r.register a.files c
    ⟨registration.result.map fun _ => c, registration.registry, registration.log⟩
  | .declare caller path url =>
    let (answer, registry, log) := r.declare a.files caller path url
    ⟨answer, registry, log⟩

/-- The registry after attempts. -/
def after (r : Registry) (attempts : List Attempt) : Registry :=
  attempts.foldl (fun r a => (r.attempt a).registry) r

/-- The declarations with which attempts were answered, in order: those that were put in
place. -/
def registered (r : Registry) : List Attempt → List Declaration
  | [] => []
  | a :: rest => (r.attempt a).answer.toOption.toList ++ (r.attempt a).registry.registered rest

/-! ### One attempt -/

/-- **An attempt does all or nothing.** -/
theorem attempt_eq (r : Registry) (a : Attempt) :
    r.attempt a =
      match a.request.component? with
      | none => ⟨.error .sourceChoice, r, []⟩
      | some c =>
        match missing? a.files c with
        | some directory => ⟨.error (.missingDirectory directory.toText), r, []⟩
        | none =>
          ⟨.ok c, ⟨r.declarations.insert c.name c⟩,
            announce c (outcomeOver (r.get? c.name) c)⟩ := by
  -- A declaration that could be made is registered like any other.
  have registering : ∀ c,
      (⟨(r.register a.files c).result.map fun _ => c, (r.register a.files c).registry,
        (r.register a.files c).log⟩ : Attempted) =
      match missing? a.files c with
      | some directory => ⟨.error (.missingDirectory directory.toText), r, []⟩
      | none =>
        ⟨.ok c, ⟨r.declarations.insert c.name c⟩, announce c (outcomeOver (r.get? c.name) c)⟩ := by
    intro c
    rw [register]
    cases missing? a.files c <;> rfl
  obtain ⟨files, request⟩ := a
  cases request with
  | register c => exact registering c
  | declare caller path url =>
    rw [attempt, Request.component?]
    simp only [declare]
    cases path with
    | none =>
      cases url with
      | none => rfl
      | some address => exact registering ⟨caller.componentName, .url address⟩
    | some p =>
      cases url with
      | none => exact registering ⟨caller.componentName, .path p⟩
      | some _ => rfl

theorem missing?_eq_none_iff {files : FileTree} {c : Declaration} :
    missing? files c = none ↔ ¬ ∃ p, c.source = .path p ∧ files.isDirectory p.absolute = false := by
  obtain ⟨name, source⟩ := c
  rw [missing?, Option.filter_eq_none_iff]
  cases source with
  | path p => simp [Declaration.directory?, Declaration.path?]
  | url address => simp [Declaration.directory?, Declaration.path?]

/-- An attempt succeeds with the declaration it is for, if its directory is there. -/
theorem answer_eq_ok_iff {r : Registry} {a : Attempt} {c : Declaration} :
    (r.attempt a).answer = .ok c ↔ a.request.component? = some c ∧ missing? a.files c = none := by
  rw [attempt_eq]
  cases hc : a.request.component? with
  | none => simp
  | some d =>
    cases hd : missing? a.files d with
    | none =>
      simp only [hd, Except.ok.injEq, Option.some.injEq]
      exact ⟨fun e => ⟨e, e ▸ hd⟩, And.left⟩
    | some directory =>
      simp only [hd, Option.some.injEq, reduceCtorEq, false_iff, not_and]
      rintro rfl
      simp [hd]

/-- What an attempt does when it succeeds. -/
theorem attempt_of_ok {r : Registry} {a : Attempt} {c : Declaration}
    (h : (r.attempt a).answer = .ok c) :
    r.attempt a = ⟨.ok c, ⟨r.declarations.insert c.name c⟩,
      announce c (outcomeOver (r.get? c.name) c)⟩ := by
  obtain ⟨hc, hd⟩ := answer_eq_ok_iff.1 h
  rw [attempt_eq, hc]
  simp only [hd]

/-- **An attempt that fails leaves no trace.** -/
theorem attempt_of_error {r : Registry} {a : Attempt} {e : Error}
    (h : (r.attempt a).answer = .error e) : r.attempt a = ⟨.error e, r, []⟩ := by
  rw [attempt_eq] at h ⊢
  cases hc : a.request.component? with
  | none =>
    rw [hc] at h
    rw [← h]
  | some c =>
    rw [hc] at h
    cases hd : missing? a.files c with
    | none => simp [hd] at h
    | some directory =>
      simp only [hd] at h ⊢
      rw [← h]

/-- **What makes an attempt fail**: a wrong choice of sources, or a directory that is not
there. -/
theorem answer_isError_iff {r : Registry} {a : Attempt} :
    (∃ e, (r.attempt a).answer = .error e) ↔
      a.request.component? = none ∨ ∃ c p, a.request.component? = some c ∧ c.source = .path p ∧
        a.files.isDirectory p.absolute = false := by
  have fails : (∃ e, (r.attempt a).answer = .error e) ↔
      ¬ ∃ c, (r.attempt a).answer = .ok c := by
    cases (r.attempt a).answer <;> simp
  rw [fails]
  simp only [answer_eq_ok_iff, missing?_eq_none_iff]
  cases a.request.component? with
  | none => simp
  | some c => simp

/-- **An attempt changes one name at most.** -/
theorem get?_attempt (r : Registry) (a : Attempt) (name : String) :
    (r.attempt a).registry.get? name =
      (lastNamed name (r.attempt a).answer.toOption.toList).or (r.get? name) := by
  cases h : (r.attempt a).answer with
  | error e =>
    rw [attempt_of_error h]
    rfl
  | ok c =>
    rw [attempt_of_ok h]
    have put := ByName.get?_insert r.declarations c.name name c
    simp only [get?, put, lastNamed, Except.toOption]
    by_cases same : name = c.name
    · simp [same]
    · simp [same, Ne.symm same]

/-! ### Runs -/

/-- **What a run keeps.**  Under a name stands the last declaration that was put in place
there, and what stood there before where there is none. -/
theorem get?_after (r : Registry) (attempts : List Attempt) (name : String) :
    (r.after attempts).get? name =
      (lastNamed name (r.registered attempts)).or (r.get? name) := by
  induction attempts generalizing r with
  | nil => rfl
  | cons a rest ih =>
    have step : r.after (a :: rest) = (r.attempt a).registry.after rest := rfl
    rw [step, ih, get?_attempt, registered, lastNamed_append, Option.or_assoc]

theorem get?_after_empty (attempts : List Attempt) (name : String) :
    (empty.after attempts).get? name = lastNamed name (empty.registered attempts) := by
  have nothing : empty.get? name = none := rfl
  rw [get?_after, nothing, Option.or_none]

/-- **A registry is the log of its registrations, the last one under each name.**  Let
attempts of any kind be made on a registry that began empty, each in a file tree of its
own.

* Under a name stands the last declaration that was put in place there, as it was spelled
  then; its directory is that of a local one.  The names that are listed are those under
  which something stands, in the order of their octets.
* The next attempt fails exactly if it gives both sources or none, or a directory that is
  not there, and then nothing is changed or logged.
* Otherwise its declaration is put in place; the outcome tells whether nothing, an equal
  declaration or another one stood there before, and only the last is warned of. -/
theorem after_empty_is_log (attempts : List Attempt) :
    let r := empty.after attempts
    (∀ name,
      r.get? name = lastNamed name (empty.registered attempts) ∧
      r.directory? name =
        match lastNamed name (empty.registered attempts) with
        | some ⟨_, .path p⟩ => some p.absolute
        | some ⟨_, .url _⟩ | none => none) ∧
    (r.names.Pairwise fun n n' => Utf8.encode n < Utf8.encode n') ∧
    (∀ name, name ∈ r.names ↔ ∃ c, r.get? name = some c) ∧
    r.size = r.names.length ∧ (r.isEmpty = true ↔ r.names = []) ∧
    ∀ next : Attempt,
      ((∃ e, (r.attempt next).answer = .error e) ↔
        (∃ caller path url, next.request = .declare caller path url ∧ path.isSome = url.isSome) ∨
        ∃ c p, next.request.component? = some c ∧ c.source = .path p ∧
          next.files.isDirectory p.absolute = false) ∧
      ((∃ e, (r.attempt next).answer = .error e) →
        (r.attempt next).registry = r ∧ (r.attempt next).log = []) ∧
      ∀ c, (r.attempt next).answer = .ok c →
        next.request.component? = some c ∧
        (r.attempt next).registry = (r.register next.files c).registry ∧
        ∃ outcome, (r.register next.files c).result = .ok outcome ∧
          (outcome = .inserted ↔ r.get? c.name = none) ∧
          (outcome = .unchanged ↔ ∃ d, r.get? c.name = some d ∧ d.SameAs c) ∧
          (∀ d, outcome = .replaced d ↔ r.get? c.name = some d ∧ ¬ d.SameAs c) ∧
          (r.attempt next).log =
            (match outcome with
              | .replaced d =>
                [⟨.warn, c.display ++ " overriding previously-registered " ++ d.display⟩]
              | _ => []) ++ [⟨.info, "Registered component " ++ c.display⟩] := by
  intro r
  refine ⟨fun name => ⟨get?_after_empty attempts name, ?_⟩, r.declarations.names_increasing_octets,
    fun name => ByName.mem_names_iff, (List.length_map _).symm, ?_, fun next => ⟨?_, ?_, ?_⟩⟩
  · rw [directory?, get?_after_empty]
    rcases lastNamed name (empty.registered attempts) with _ | ⟨_, _ | _⟩ <;> rfl
  · rw [isEmpty, List.isEmpty_iff, names, ByName.names, List.map_eq_nil_iff]
  · rw [answer_isError_iff]
    have sources : next.request.component? = none ↔
        ∃ caller path url, next.request = .declare caller path url ∧ path.isSome = url.isSome := by
      cases next.request with
      | register c => simp [Request.component?]
      | declare caller path url =>
        rw [Request.component?, Declaration.ofOptions_toOption_eq_none_iff]
        simp
    rw [sources]
  · rintro ⟨e, failed⟩
    rw [attempt_of_error failed]
    exact ⟨rfl, rfl⟩
  · intro c answered
    obtain ⟨asked, there⟩ := answer_eq_ok_iff.1 answered
    rw [attempt_of_ok answered, register, there]
    refine ⟨asked, rfl, outcomeOver (r.get? c.name) c, rfl, outcomeOver_eq_inserted_iff,
      outcomeOver_eq_unchanged_iff, fun d => outcomeOver_eq_replaced_iff, ?_⟩
    cases outcomeOver (r.get? c.name) c <;> rfl

end

attribute [local instance] Platform.atRoot

/-- A knob is registered twice, the second time with its directory respelled, which changes
nothing but the spelling; its directory vanishes, so it cannot be registered again; and a
remote knob overrides it with a warning. -/
theorem after_empty_is_log_of_respelling :
    let files : FileTree :=
      { entries := [([Utf8.encode "a"], .directory),
        ([Utf8.encode "a", Utf8.encode "b"], .directory)] }
    let knob := Declaration.ofPath "knob" (.ofString "a/b")
    let respelled := Declaration.ofPath "knob" (.ofString "a//./b/")
    let r := empty.after [⟨files, .register knob⟩, ⟨files, .register respelled⟩]
    r.get? "knob" = some respelled ∧ knob.SameAs respelled ∧ respelled ≠ knob ∧
      r.directory? "knob" = some (.ofString "/a/b") ∧
      (∃ e, (r.attempt ⟨.empty, .register knob⟩).answer = .error e) ∧
      (r.attempt ⟨.empty, .register knob⟩).registry = r ∧
      (r.attempt ⟨.empty, .declare ⟨none, "knob.rs"⟩ none (some "http://localhost")⟩).log =
        [⟨.warn, "'knob': http://localhost overriding previously-registered 'knob': a//./b/"⟩,
          ⟨.info, "Registered component 'knob': http://localhost"⟩] := by
  intro files knob respelled r
  obtain ⟨stands, -, -, -, -, next⟩ :=
    after_empty_is_log [⟨files, .register knob⟩, ⟨files, .register respelled⟩]
  have here : r.get? "knob" = some respelled := (stands "knob").1
  obtain ⟨fails, untouched, -⟩ := next ⟨.empty, .register knob⟩
  have failed : ∃ e, (r.attempt ⟨.empty, .register knob⟩).answer = .error e :=
    fails.2 (.inr ⟨knob, _, rfl, rfl, rfl⟩)
  refine ⟨here, by decide, by decide, (stands "knob").2, failed, (untouched failed).1, ?_⟩
  obtain ⟨-, -, succeeds⟩ :=
    next ⟨.empty, .declare ⟨none, "knob.rs"⟩ none (some "http://localhost")⟩
  obtain ⟨-, -, outcome, -, -, -, replaced, logged⟩ :=
    succeeds (.ofUrl "knob" "http://localhost") rfl
  have overridden : outcome = .replaced respelled := (replaced respelled).2 ⟨here, by decide⟩
  rw [overridden] at logged
  exact logged

end Registry
end ComponentHost
