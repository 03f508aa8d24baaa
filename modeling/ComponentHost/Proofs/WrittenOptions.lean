/-
# Command lines that write options down

Any options, in any order, can be written as arguments: an option without a value alone, a
value behind `=` or as an argument of its own, if it does not look like an option.  Reading
such a command line gives the options one after another, as they were meant
(`readArguments_written`).

| Written | Argument | Restriction |
|---------|----------|-------------|
| `raised` | `--flag` | takes no value |
| `joined` | `--flag=value` | takes a value, which may be any text |
| `apart` | `--flag`, `value` | takes a value, which begins with no dash or is one alone |

Those that register components stand apart from the others.  A value `name=value` adds a pair
and touches nothing else, and the others do the same whatever the pairs are
(`give_withPairs`).  So the pairs of each of the two options are collected in their order,
however they stand among the rest (`foldlM_give`).
-/

import ComponentHost.CommandLine.Options
import Mathlib.Data.List.Forall2

namespace ComponentHost
namespace CommandLine

/-! ### Pairs -/

/-- A text is a name, a `=` and a value.  The name holds no `=`, and neither is empty. -/
structure IsPair (text : String) (pair : String × String) : Prop where
  joined : text = pair.1 ++ "=" ++ pair.2
  named : pair.1 ≠ ""
  valued : pair.2 ≠ ""
  plain : '=' ∉ pair.1.toList

/-- What stands before the first `=` of a text, and what stands behind it. -/
theorem cut_of_plain {name : String} (plain : '=' ∉ name.toList) (value : String) :
    (name ++ "=" ++ value).toList.takeWhile (· ≠ '=') = name.toList ∧
      (name ++ "=" ++ value).toList.dropWhile (· ≠ '=') = '=' :: value.toList := by
  have letters : (name ++ "=" ++ value).toList = name.toList ++ '=' :: value.toList := by simp
  have passed : ∀ c ∈ name.toList, decide (c ≠ '=') = true := fun c hc => by
    simpa using fun e : c = '=' => plain (e ▸ hc)
  rw [letters, List.takeWhile_append_of_pos passed, List.dropWhile_append_of_pos passed]
  simp

/-- **A text is split exactly as the pair that it is.** -/
theorem splitPair?_eq_some_iff {text : String} {pair : String × String} :
    splitPair? text = some pair ↔ IsPair text pair := by
  obtain ⟨name, value⟩ := pair
  constructor
  · intro h
    rw [splitPair?] at h
    have stop := List.head?_dropWhile_not (· ≠ '=') text.toList
    have cut := List.takeWhile_append_dropWhile (p := (· ≠ '=')) (l := text.toList)
    have front : '=' ∉ text.toList.takeWhile (· ≠ '=') := fun mem => by
      simpa using List.all_eq_true.1 List.all_takeWhile _ mem
    generalize text.toList.takeWhile (· ≠ '=') = before at h cut front
    generalize text.toList.dropWhile (· ≠ '=') = behind at h stop cut
    split at h
    · cases h
    rename_i filled
    obtain ⟨rfl, rfl⟩ := Prod.mk.inj (Option.some.inj h)
    obtain ⟨named, valued⟩ := not_or.1 filled
    rcases behind with _ | ⟨c, behind⟩
    · exact absurd rfl valued
    obtain rfl : c = '=' := by simpa using stop
    refine ⟨String.ext ?_, ?_, ?_, ?_⟩
    · rw [← cut]
      simp
    · simpa using named
    · simpa using valued
    · simpa using front
  · rintro ⟨rfl, named, valued, plain⟩
    obtain ⟨before, behind⟩ := cut_of_plain plain value
    rw [splitPair?, before, behind, if_neg]
    · simp
    · simpa using ⟨named, valued⟩

/-- Texts are pairs in one way only. -/
theorem filterMap_splitPair? {values : List String} {pairs : List (String × String)}
    (h : values.Forall₂ IsPair pairs) : values.filterMap splitPair? = pairs := by
  induction h with
  | nil => rfl
  | cons first _ ih => rw [List.filterMap_cons_some (splitPair?_eq_some_iff.2 first), ih]

/-- Texts that are pairs are split into these. -/
theorem forall₂_splitPair? {values : List String}
    (h : ∀ value ∈ values, ∃ pair, IsPair value pair) :
    values.Forall₂ IsPair (values.filterMap splitPair?) := by
  induction values with
  | nil => exact .nil
  | cons value rest ih =>
    obtain ⟨pair, first⟩ := h value (List.mem_cons_self ..)
    rw [List.filterMap_cons_some (splitPair?_eq_some_iff.2 first)]
    exact .cons first (ih fun value mem => h value (List.mem_cons_of_mem _ mem))

/-! ### Settings -/

/-- An option as it is meant, and how it is written. -/
inductive Setting where
  | raised (flag : Flag) (bare : flag.valueName? = none)
  | joined (flag : Flag) (value : String) (takes : flag.valueName?.isSome)
  | apart (flag : Flag) (value : String) (takes : flag.valueName?.isSome)
      (plain : Shape.of value = .plain)

namespace Setting

/-- The option that is set. -/
def flag : Setting → Flag
  | .raised flag _ | .joined flag _ _ | .apart flag _ _ _ => flag

/-- The value it is set to. -/
def value? : Setting → Option String
  | .raised .. => none
  | .joined _ value _ | .apart _ value _ _ => some value

/-- The arguments that write it. -/
def arguments : Setting → List String
  | .raised flag _ => ["--" ++ flag.long]
  | .joined flag value _ => ["--" ++ flag.long ++ "=" ++ value]
  | .apart flag value _ _ => ["--" ++ flag.long, value]

end Setting

/-- The command line that writes settings in their order. -/
def written (settings : List Setting) : List String := settings.flatMap Setting.arguments

/-- Gives an option as it is meant. -/
def Given.give (given : Given) (s : Setting) : Except Stop Given :=
  match s.value? with
  | .none => given.raise s.flag
  | some value => given.set s.flag value

/-! ### Reading what is written -/

theorem Flag.ofLong?_long (flag : Flag) : Flag.ofLong? flag.long = some flag := by
  cases flag <;> decide

theorem Flag.shape_long (flag : Flag) : Shape.of ("--" ++ flag.long) = .long flag.long none := by
  cases flag <;> decide

/-- An option and a value behind `=` are told apart, whatever the value is. -/
theorem Flag.shape_joined (flag : Flag) (value : String) :
    Shape.of ("--" ++ flag.long ++ "=" ++ value) = .long flag.long (some value) := by
  have plain : '=' ∉ flag.long.toList := by cases flag <;> decide
  obtain ⟨before, behind⟩ := cut_of_plain plain value
  have letters : ("--" ++ flag.long ++ "=" ++ value).toList =
      '-' :: '-' :: (flag.long ++ "=" ++ value).toList := by simp
  obtain ⟨c, cs, first⟩ : ∃ c cs, (flag.long ++ "=" ++ value).toList = c :: cs :=
    List.exists_cons_of_ne_nil (by cases flag <;> simp [Flag.long])
  rw [first] at letters before behind
  rw [Shape.of, letters]
  simp only [before, behind, String.ofList_toList]

section

variable {given : Given} {pending : Pending} {argument : String} {rest : List String}

theorem readArguments_long {name : String} {value : Option String}
    (h : Shape.of argument = .long name value) :
    readArguments given pending (argument :: rest) =
      readLong given pending name value >>= fun next => readArguments next.1 next.2 rest := by
  rw [readArguments.eq_def]
  simp only [h]

theorem readArguments_awaited {flag : Flag} (h : Shape.of argument = .plain) :
    readArguments given (.awaiting flag) (argument :: rest) =
      readArguments given (.holding flag argument) rest := by
  rw [readArguments.eq_def]
  simp only [h]

end

/-- Reading what writes a setting, with whatever follows: the option in hand is settled, and
the setting is given or comes to hand. -/
theorem readArguments_arguments (given : Given) (pending : Pending) (s : Setting)
    (rest : List String) :
    readArguments given pending (s.arguments ++ rest) =
      given.settle pending >>= fun given =>
        match s with
        | .raised flag _ => given.raise flag >>= fun given => readArguments given .nothing rest
        | .joined flag value _ =>
          given.set flag value >>= fun given => readArguments given .nothing rest
        | .apart flag value _ _ => readArguments given (.holding flag value) rest := by
  cases s with
  | raised flag bare =>
    change readArguments given pending (("--" ++ flag.long) :: rest) = _
    rw [readArguments_long flag.shape_long]
    simp only [readLong, flag.ofLong?_long, bare, bind_assoc, pure_bind]
  | joined flag value takes =>
    obtain ⟨valueName, takes⟩ := Option.isSome_iff_exists.1 takes
    change readArguments given pending (("--" ++ flag.long ++ "=" ++ value) :: rest) = _
    rw [readArguments_long (flag.shape_joined value)]
    simp only [readLong, flag.ofLong?_long, takes, bind_assoc, pure_bind]
  | apart flag value takes plain =>
    obtain ⟨valueName, takes⟩ := Option.isSome_iff_exists.1 takes
    change readArguments given pending (("--" ++ flag.long) :: value :: rest) = _
    rw [readArguments_long flag.shape_long]
    simp only [readLong, flag.ofLong?_long, takes, bind_assoc, pure_bind,
      readArguments_awaited plain]

/-- **Reading a command line gives what was written, in order.**  An option in hand is settled
before the first of it. -/
theorem readArguments_written (given : Given) (pending : Pending) (settings : List Setting) :
    readArguments given pending (written settings) =
      given.settle pending >>= fun given => settings.foldlM Given.give given := by
  -- A value of its own stays in hand until the next option, so the option in hand is arbitrary.
  induction settings generalizing given pending with
  | nil =>
    change given.settle pending = given.settle pending >>= pure
    rw [bind_pure]
  | cons s rest ih =>
    rw [written, List.flatMap_cons, readArguments_arguments]
    refine congrArg _ (funext fun given => ?_)
    rw [List.foldlM_cons]
    cases s with
    | raised flag bare => exact congrArg _ (funext fun given => ih given .nothing)
    | joined flag value takes => exact congrArg _ (funext fun given => ih given .nothing)
    | apart flag value takes plain => exact ih given (.holding flag value)

/-! ### Pairs among other options -/

/-- Whether an option registers components. -/
def Flag.registers : Flag → Bool
  | .component | .remoteComponent => true
  | _ => false

/-- A setting that should register a component and whose value is no pair. -/
def Setting.Rejected (s : Setting) : Prop :=
  s.flag.registers ∧ ∀ value, s.value? = some value → ∀ pair, ¬ IsPair value pair

/-- The settings that register nothing. -/
def others (settings : List Setting) : List Setting := settings.filter (!·.flag.registers)

theorem registers_of_mem_others {settings : List Setting} {s : Setting}
    (h : s ∈ others settings) : s.flag.registers = false := by
  simpa using (List.mem_filter.1 h).2

/-- The values that settings give an option, in order. -/
def valuesOf (flag : Flag) (settings : List Setting) : List String :=
  settings.filterMap fun s => if s.flag = flag then s.value? else none

/-- The pairs that settings give an option, in order. -/
def pairsOf (flag : Flag) (settings : List Setting) : List (String × String) :=
  (valuesOf flag settings).filterMap splitPair?

/-- Given options with these pairs in place of their own. -/
def Given.withPairs (given : Given) (locals remotes : List (String × String)) : Given :=
  { given with components := locals, remoteComponents := remotes }

@[simp] theorem Given.withPairs_self (given : Given) :
    given.withPairs given.components given.remoteComponents = given := rfl

theorem pairsOf_cons (flag : Flag) (s : Setting) (rest : List Setting) :
    pairsOf flag (s :: rest) = pairsOf flag [s] ++ pairsOf flag rest := by
  rw [pairsOf, pairsOf, pairsOf, ← List.filterMap_append, valuesOf, valuesOf, valuesOf,
    ← List.filterMap_append]
  rfl

theorem Flag.valueName?_isSome_of_registers {flag : Flag} (h : flag.registers = true) :
    flag.valueName?.isSome = true := by
  cases flag <;> first | rfl | cases h

theorem Setting.exists_value_of_registers {s : Setting} (h : s.flag.registers = true) :
    ∃ value, s.value? = some value := by
  cases s with
  | raised flag bare =>
    have takes : flag.valueName?.isSome = true := Flag.valueName?_isSome_of_registers h
    rw [bare] at takes
    cases takes
  | joined flag value takes => exact ⟨value, rfl⟩
  | apart flag value takes plain => exact ⟨value, rfl⟩

section

variable {given : Given} {s : Setting} {settings : List Setting}

/-- A setting is rejected exactly if its value is not split. -/
theorem Setting.rejected_iff {s : Setting} :
    s.Rejected ↔ s.flag.registers = true ∧ s.value?.bind splitPair? = none := by
  refine and_congr_right fun registers => ?_
  rw [Option.bind_eq_none_iff]
  refine forall₂_congr fun value _ => ?_
  rw [Option.eq_none_iff_forall_ne_some]
  exact forall_congr' fun pair => not_congr splitPair?_eq_some_iff.symm

instance : DecidablePred Setting.Rejected := fun _ => decidable_of_iff _ Setting.rejected_iff.symm

theorem Setting.exists_pair_of_not_rejected {value : String} (h : s.flag.registers = true)
    (accepted : ¬ s.Rejected) (hvalue : s.value? = some value) : ∃ pair, IsPair value pair := by
  by_contra none
  refine accepted ⟨h, fun value' hvalue' pair isPair => none ⟨pair, ?_⟩⟩
  exact Option.some.inj (hvalue'.symm.trans hvalue) ▸ isPair

/-- A setting that registers a component adds its pair. -/
theorem give_of_registers (h : s.flag.registers = true) (accepted : ¬ s.Rejected) :
    given.give s = .ok (given.withPairs (given.components ++ pairsOf .component [s])
      (given.remoteComponents ++ pairsOf .remoteComponent [s])) := by
  obtain ⟨value, hvalue⟩ := Setting.exists_value_of_registers h
  obtain ⟨pair, isPair⟩ := Setting.exists_pair_of_not_rejected h accepted hvalue
  have split := splitPair?_eq_some_iff.2 isPair
  cases hflag : s.flag <;> rw [hflag] at h <;> try cases h
  · simp [Given.give, Given.set, Given.withPairs, pairsOf, valuesOf, hflag, hvalue, split]
  · simp [Given.give, Given.set, Given.withPairs, pairsOf, valuesOf, hflag, hvalue, split]

/-- A setting whose value is rejected ends the reading, whatever was given before. -/
theorem exists_give_of_rejected (h : s.Rejected) :
    ∃ value, s.value? = some value ∧
      ∀ given : Given, given.give s = refuse (.invalidPair s.flag value) := by
  obtain ⟨registers, noSplit⟩ := Setting.rejected_iff.1 h
  obtain ⟨value, hvalue⟩ := Setting.exists_value_of_registers registers
  rw [hvalue, Option.bind_some] at noSplit
  refine ⟨value, hvalue, fun given => ?_⟩
  cases hflag : s.flag <;> rw [hflag] at registers <;> try cases registers
  · simp [Given.give, Given.set, hflag, hvalue, noSplit]
  · simp [Given.give, Given.set, hflag, hvalue, noSplit]

/-- A setting that registers nothing does the same whatever the pairs are. -/
theorem give_withPairs (h : s.flag.registers = false) (locals remotes : List (String × String)) :
    (given.withPairs locals remotes).give s =
      (·.withPairs locals remotes) <$> given.give s := by
  rw [Given.give, Given.give]
  generalize s.flag = flag at h ⊢
  cases s.value? with
  | none =>
    cases flag <;> simp only [Given.raise] <;> try rfl
    case debug =>
      change (if given.debug then _ else _) = _
      split <;> rfl
    case allowCrossOrigin =>
      change (if given.allowCrossOrigin then _ else _) = _
      split <;> rfl
  | some value =>
    cases flag <;> simp only [Given.set] <;> try rfl
    case port =>
      change (if given.port.isSome then _ else _) = _
      split
      · rfl
      · cases readPort value <;> rfl
    case host =>
      change (if given.host.isSome then _ else _) = _
      split <;> rfl
    all_goals cases h

/-- A setting that registers nothing leaves the pairs as they are. -/
theorem pairs_give {final : Given} (h : s.flag.registers = false)
    (hgive : given.give s = .ok final) :
    final.components = given.components ∧ final.remoteComponents = given.remoteComponents := by
  have kept : given.give s =
      (·.withPairs given.components given.remoteComponents) <$> given.give s :=
    give_withPairs h given.components given.remoteComponents
  rw [hgive] at kept
  have same : final = final.withPairs given.components given.remoteComponents :=
    Except.ok.inj kept
  rw [same]
  exact ⟨rfl, rfl⟩

theorem foldlM_withPairs (h : ∀ s ∈ settings, s.flag.registers = false)
    (locals remotes : List (String × String)) :
    settings.foldlM Given.give (given.withPairs locals remotes) =
      (·.withPairs locals remotes) <$> settings.foldlM Given.give given := by
  induction settings generalizing given with
  | nil => rfl
  | cons s rest ih =>
    obtain ⟨first, later⟩ := List.forall_mem_cons.1 h
    rw [List.foldlM_cons, List.foldlM_cons, give_withPairs first, map_bind, bind_map_left]
    exact congrArg _ (funext fun given => ih later)

/-- **Pairs are collected apart from all else.**  If no value is rejected, the options are
those that the other settings give alone, with the pairs of either kind in their order. -/
theorem foldlM_give (accepted : ∀ s ∈ settings, ¬ s.Rejected) :
    settings.foldlM Given.give given =
      (·.withPairs (given.components ++ pairsOf .component settings)
          (given.remoteComponents ++ pairsOf .remoteComponent settings)) <$>
        (others settings).foldlM Given.give given := by
  induction settings generalizing given with
  | nil =>
    change Except.ok given =
      Except.ok (given.withPairs (given.components ++ []) (given.remoteComponents ++ []))
    rw [List.append_nil, List.append_nil, Given.withPairs_self]
  | cons s rest ih =>
    obtain ⟨first, later⟩ := List.forall_mem_cons.1 accepted
    rw [List.foldlM_cons, pairsOf_cons .component, pairsOf_cons .remoteComponent]
    cases registers : s.flag.registers with
    | true =>
      have same : others (s :: rest) = others rest := by simp [others, registers]
      rw [give_of_registers registers first, same, ← List.append_assoc, ← List.append_assoc]
      change rest.foldlM Given.give _ = _
      rw [ih later, foldlM_withPairs fun _ => registers_of_mem_others, Functor.map_map]
      rfl
    | false =>
      have more : others (s :: rest) = s :: others rest := by simp [others, registers]
      have none : ∀ flag : Flag, flag.registers = true → pairsOf flag [s] = [] := by
        intro flag hflag
        have other : s.flag ≠ flag := fun e => by rw [e, hflag] at registers; cases registers
        simp [pairsOf, valuesOf, other]
      rw [more, List.foldlM_cons, map_bind, none _ rfl, none _ rfl]
      cases given_s : given.give s with
      | error stop => rfl
      | ok next =>
        obtain ⟨components, remoteComponents⟩ := pairs_give registers given_s
        rw [← components, ← remoteComponents]
        exact ih later

/-- **The first value that is rejected ends the reading**, unless one of the other options
does so before. -/
theorem exists_foldlM_give_of_rejected {before after : List Setting} {final : Given}
    (accepted : ∀ t ∈ before, ¬ t.Rejected) (rejected : s.Rejected)
    (inOrder : (others (before ++ s :: after)).foldlM Given.give given = .ok final) :
    ∃ value, s.value? = some value ∧
      (before ++ s :: after).foldlM Given.give given = refuse (.invalidPair s.flag value) := by
  obtain ⟨value, hvalue, refused⟩ := exists_give_of_rejected rejected
  refine ⟨value, hvalue, ?_⟩
  rw [others, List.filter_append, List.foldlM_append] at inOrder
  rw [List.foldlM_append, foldlM_give accepted]
  cases read : (others before).foldlM Given.give given with
  | error stop =>
    rw [others] at read
    rw [read] at inOrder
    cases inOrder
  | ok given =>
    change (s :: after).foldlM Given.give (given.withPairs ..) = _
    rw [List.foldlM_cons, refused]
    rfl

/-- **With a rejected value, no command line can be followed.** -/
theorem exists_error_of_rejected (mem : s ∈ settings) (rejected : s.Rejected) (given : Given) :
    ∃ stop, settings.foldlM Given.give given = .error stop := by
  obtain ⟨value, -, refused⟩ := exists_give_of_rejected rejected
  obtain ⟨before, after, rfl⟩ := List.append_of_mem mem
  rw [List.foldlM_append]
  cases before.foldlM Given.give given with
  | error stop => exact ⟨stop, rfl⟩
  | ok given =>
    refine ⟨.usage (.invalidPair s.flag value), ?_⟩
    change (s :: after).foldlM Given.give given = _
    rw [List.foldlM_cons, refused]
    rfl

/-- What is not rejected are pairs, which are split as such. -/
theorem forall₂_pairsOf {flag : Flag} (registers : flag.registers = true)
    (accepted : ∀ s ∈ settings, ¬ s.Rejected) :
    (valuesOf flag settings).Forall₂ IsPair (pairsOf flag settings) := by
  refine forall₂_splitPair? fun value mem => ?_
  obtain ⟨s, hs, meant⟩ := List.mem_filterMap.1 mem
  split at meant
  · rename_i same
    exact Setting.exists_pair_of_not_rejected (same ▸ registers) (accepted s hs) meant
  · cases meant

end

end CommandLine
end ComponentHost
