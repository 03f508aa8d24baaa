/-
# Which components a server starts with

A command line names local components, each with a directory, and remote ones, each with an
address.  However these stand among each other, the local ones are registered first, in
their order, and then the remote ones in theirs.

| The command line | What comes of it |
|------------------|------------------|
| has a value that is no pair | an exit with code 2, before anything is registered |
| has a local component without its directory | an exit with code 1 at the first of them |
| any other, with a good address | a server with all of them |

Each registration takes the place of former ones of its name, so under a name that was given
both kinds of value there is a remote component, even if its local value stands behind it on
the command line (`run_written`).
-/

import ComponentHost.CommandLine.StartUp
import ComponentHost.Proofs.Registrations
import ComponentHost.Proofs.WrittenOptions

namespace ComponentHost

namespace Registry

/-! ### The last value for a name -/

/-- The last value that pairs give a name. -/
def latest (name : String) (pairs : List (String × String)) : Option String :=
  pairs.reverse.lookup name

theorem exists_latest_iff {name : String} {pairs : List (String × String)} :
    (∃ value, latest name pairs = some value) ↔ ∃ value, (name, value) ∈ pairs := by
  rw [← Option.isSome_iff_exists, latest, List.lookup_isSome_iff]
  simp

/-- The last of the declarations of pairs under a name is that of the last value. -/
theorem lastNamed_map (name : String) (pairs : List (String × String))
    (declare : String → String → Declaration) (named : ∀ n value, (declare n value).name = n) :
    lastNamed name (pairs.map fun e => declare e.1 e.2) =
      (latest name pairs).map (declare name) := by
  rw [lastNamed, latest, ← List.map_reverse]
  generalize pairs.reverse = pairs
  induction pairs with
  | nil => rfl
  | cons e rest ih =>
    obtain ⟨n, value⟩ := e
    rw [List.map_cons, List.find?_cons, List.lookup_cons]
    by_cases same : n = name
    · simp [named, same]
    · have other : (name == n) = false := by simpa using Ne.symm same
      simp [named, same, other, ih]

/-! ### Registering in a row -/

variable [Platform] {files : FileTree} {c : Declaration} {declarations : List Declaration}

/-- What attempts log, in order. -/
def logged (r : Registry) : List Attempt → List LogLine
  | [] => []
  | a :: rest => (r.attempt a).log ++ (r.attempt a).registry.logged rest

/-- The attempts to register declarations while the files stay as they are. -/
def attempts (files : FileTree) (declarations : List Declaration) : List Attempt :=
  declarations.map fun c => ⟨files, .register c⟩

theorem answer_register (r : Registry) (present : missing? files c = none) :
    (r.attempt ⟨files, .register c⟩).answer = .ok c :=
  answer_eq_ok_iff.2 ⟨rfl, present⟩

/-- Declarations whose directories are there are all put in place. -/
theorem registered_attempts (r : Registry)
    (present : ∀ c ∈ declarations, missing? files c = none) :
    r.registered (attempts files declarations) = declarations := by
  induction declarations generalizing r with
  | nil => rfl
  | cons c rest ih =>
    obtain ⟨first, later⟩ := List.forall_mem_cons.1 present
    rw [attempts, List.map_cons, registered, answer_register r first]
    exact congrArg (c :: ·) (ih _ later)

end Registry

namespace CommandLine

open Registry (attempts logged)

section

variable [Platform] {files : FileTree} {locals remotes : List (String × String)}

/-- The declarations of pairs: local ones, then remote ones. -/
def declarationsOf (locals remotes : List (String × String)) : List Declaration :=
  locals.map (fun e => .ofPath e.1 (.ofString e.2)) ++ remotes.map fun e => .ofUrl e.1 e.2

/-- The registry after the declarations of pairs were registered in their order. -/
def registryOf (files : FileTree) (locals remotes : List (String × String)) : Registry :=
  .after .empty (attempts files (declarationsOf locals remotes))

/-- What is logged while the declarations of pairs are registered in their order. -/
def registrationLog (files : FileTree) (locals remotes : List (String × String)) : List LogLine :=
  Registry.empty.logged (attempts files (declarationsOf locals remotes))

/-- The directory of a pair is there. -/
def HasDirectory (files : FileTree) (pair : String × String) : Prop :=
  files.isDirectory (Path.ofString pair.2).absolute = true

instance (files : FileTree) : DecidablePred (HasDirectory files) := fun _ =>
  inferInstanceAs (Decidable (_ = true))

/-- The error that a component's directory is not there. -/
def noDirectory (pair : String × String) : StartError :=
  .registration pair.1 (.missingDirectory (Path.ofString pair.2).absolute.toText)

/-- What is logged before all else. -/
def starting : LogLine := ⟨.info, "Starting " ++ Settings.appName ++ " server"⟩

theorem missing?_ofPath (files : FileTree) (pair : String × String) :
    Registry.missing? files (.ofPath pair.1 (.ofString pair.2)) =
      if HasDirectory files pair then none else some (Path.ofString pair.2).absolute := by
  rw [Registry.missing?]
  change (some (Path.ofString pair.2).absolute).filter _ = _
  by_cases there : files.isDirectory (Path.ofString pair.2).absolute = true
  · simp [HasDirectory, there]
  · simp [HasDirectory, there]

/-- Only the directories of local components can be missing. -/
theorem missing?_declarationsOf_iff (remotes : List (String × String)) :
    (∀ c ∈ declarationsOf locals remotes, Registry.missing? files c = none) ↔
      ∀ e ∈ locals, HasDirectory files e := by
  rw [declarationsOf, List.forall_mem_append, List.forall_mem_map, List.forall_mem_map]
  constructor
  · rintro ⟨present, -⟩ e mem
    by_contra gone
    have there := present e mem
    rw [missing?_ofPath, if_neg gone] at there
    cases there
  · intro there
    exact ⟨fun e mem => (missing?_ofPath files e).trans (if_pos (there e mem)), fun _ _ => rfl⟩

/-! ### Registering all -/

theorem registerAll_cons_of_present {c : Declaration} (r : Registry)
    (present : Registry.missing? files c = none) (rest : List Declaration) :
    registerAll files r (c :: rest) =
      ⟨(registerAll files (r.attempt ⟨files, .register c⟩).registry rest).value,
        (r.attempt ⟨files, .register c⟩).log ++
          (registerAll files (r.attempt ⟨files, .register c⟩).registry rest).log⟩ := by
  rw [registerAll, Registry.attempt_of_ok (Registry.answer_register r present)]
  simp only [Registry.register, present]

/-- **Declarations whose directories are there are all registered**, in order. -/
theorem registerAll_of_present {declarations : List Declaration} (r : Registry)
    (present : ∀ c ∈ declarations, Registry.missing? files c = none) :
    registerAll files r declarations =
      ⟨.ok (r.after (attempts files declarations)), r.logged (attempts files declarations)⟩ := by
  induction declarations generalizing r with
  | nil => rfl
  | cons c rest ih =>
    obtain ⟨first, later⟩ := List.forall_mem_cons.1 present
    rw [registerAll_cons_of_present r first, ih _ later]
    rfl

/-- **The first declaration without its directory ends the registrations.**  What was
registered before is all that was logged. -/
theorem registerAll_of_missing {before : List Declaration} {c : Declaration}
    {directory : Path} (r : Registry) (after : List Declaration)
    (present : ∀ d ∈ before, Registry.missing? files d = none)
    (gone : Registry.missing? files c = some directory) :
    registerAll files r (before ++ c :: after) =
      ⟨.error (.registration c.name (.missingDirectory directory.toText)),
        r.logged (attempts files before)⟩ := by
  induction before generalizing r with
  | nil =>
    rw [List.nil_append, registerAll]
    simp only [Registry.register, gone]
    rfl
  | cons d rest ih =>
    obtain ⟨first, later⟩ := List.forall_mem_cons.1 present
    rw [List.cons_append, registerAll_cons_of_present r first, ih _ later]
    rfl

/-- Registrations that all succeed have no directory missing. -/
theorem present_of_registerAll {declarations : List Declaration} {r r' : Registry}
    (h : (registerAll files r declarations).value = .ok r') :
    ∀ c ∈ declarations, Registry.missing? files c = none := by
  induction declarations generalizing r with
  | nil => exact fun _ mem => absurd mem List.not_mem_nil
  | cons c rest ih =>
    cases present : Registry.missing? files c with
    | none =>
      rw [registerAll_cons_of_present r present] at h
      exact List.forall_mem_cons.2 ⟨present, ih h⟩
    | some directory =>
      have failed : registerAll files r (c :: rest) = _ :=
        registerAll_of_missing r rest (fun _ mem => absurd mem List.not_mem_nil) present
      rw [failed] at h
      cases h

/-! ### Starting -/

theorem start_of_missing {options : Options} {e : StartError} {log : List LogLine}
    (h : registerAll files .empty options.declarations = ⟨.error e, log⟩) :
    start files options = ⟨.error e, starting :: log⟩ := by
  rw [start, h]
  change (⟨_, starting :: (log ++ [])⟩ : Logged _) = _
  rw [List.append_nil]
  rfl

theorem start_of_registered {options : Options} {r : Registry} {log : List LogLine}
    (h : registerAll files .empty options.declarations = ⟨.ok r, log⟩) :
    start files options =
      ⟨if isSocketAddress options.address then .ok r else .error .invalidAddress,
        starting :: log ++ [serving r]⟩ := by
  rw [start, h]
  split <;> rfl

theorem start_of_present {options : Options}
    (present : ∀ c ∈ options.declarations, Registry.missing? files c = none)
    (address : isSocketAddress options.address = true) :
    start files options =
      ⟨.ok (.after .empty (attempts files options.declarations)),
        starting :: Registry.empty.logged (attempts files options.declarations) ++
          [serving (.after .empty (attempts files options.declarations))]⟩ := by
  rw [start_of_registered (registerAll_of_present .empty present), if_pos address]

/-- A start succeeds only if no directory is missing, and if the address is one. -/
theorem start_isOk_iff {options : Options} :
    (∃ r, (start files options).value = .ok r) ↔
      (∀ c ∈ options.declarations, Registry.missing? files c = none) ∧
        isSocketAddress options.address = true := by
  constructor
  · rintro ⟨r, started⟩
    cases all : registerAll files .empty options.declarations with | mk value log =>
    cases value with
    | error e =>
      rw [start_of_missing all] at started
      cases started
    | ok r' =>
      refine ⟨present_of_registerAll (congrArg Logged.value all), ?_⟩
      rw [start_of_registered all] at started
      by_contra noAddress
      rw [if_neg noAddress] at started
      cases started
  · rintro ⟨present, address⟩
    exact ⟨_, congrArg Logged.value (start_of_present present address)⟩

theorem run_of_stop {arguments : List String} {stop : Stop}
    (h : Options.parse arguments = .error stop) :
    ∃ code output errors, run files arguments = ⟨.exited code output errors, []⟩ := by
  rw [run, h]
  cases stop with
  | help => exact ⟨_, _, _, rfl⟩
  | usage e => exact ⟨_, _, _, rfl⟩

/-- What comes of a command line that is understood. -/
theorem run_of_options {arguments : List String} {options : Options}
    (h : Options.parse arguments = .ok options) :
    run files arguments =
      ⟨match (start files options).value with
        | .ok r => .started ⟨r, options⟩
        | .error e => .exited 1 "" ("Error: " ++ e.message), (start files options).log⟩ := by
  rw [run, h]
  change (⟨_, (start files options).log ++ _⟩ : Logged Launch) = _
  cases (start files options).value with
  | ok r => exact congrArg (Logged.mk _) (List.append_nil _)
  | error e => exact congrArg (Logged.mk _) (List.append_nil _)

/-- A registry with a component for each name that was given: the last remote one if there is
one, and else the last local one. -/
structure ServesLatest (locals remotes : List (String × String)) (r : Registry) : Prop where
  names : ∀ name, name ∈ r.names ↔ ∃ value, (name, value) ∈ locals ∨ (name, value) ∈ remotes
  latest : ∀ name, r.get? name =
    ((Registry.latest name remotes).map (Declaration.ofUrl name)).or
      ((Registry.latest name locals).map fun directory => .ofPath name (.ofString directory))
  /-- Nothing is served locally under a name that was given an address. -/
  remote : ∀ name url, (name, url) ∈ remotes → r.directory? name = none ∧
    ∀ files text, (AssetRequest.parse text).componentName = name →
      (Asset.load files r text).value = .error (.assetNotFound text "not found")

/-- **Registering all leaves the latest of each name**, remote before local. -/
theorem servesLatest_after (present : ∀ e ∈ locals, HasDirectory files e) :
    ServesLatest locals remotes (registryOf files locals remotes) := by
  have latest : ∀ name, (registryOf files locals remotes).get? name =
      ((Registry.latest name remotes).map (Declaration.ofUrl name)).or
        ((Registry.latest name locals).map fun d => .ofPath name (.ofString d)) := by
    intro name
    have all := Registry.registered_attempts .empty ((missing?_declarationsOf_iff remotes).2 present)
    rw [registryOf, Registry.get?_after_empty, all, declarationsOf, Registry.lastNamed_append,
      Registry.lastNamed_map name remotes Declaration.ofUrl fun _ _ => rfl,
      Registry.lastNamed_map name locals (fun n d => .ofPath n (.ofString d)) fun _ _ => rfl]
  refine ⟨fun name => ?_, latest, fun name url mem => ?_⟩
  · rw [Registry.names, ByName.mem_names_iff, exists_or, ← Registry.exists_latest_iff,
      ← Registry.exists_latest_iff]
    change (∃ c, Registry.get? _ name = some c) ↔ _
    rw [latest]
    cases Registry.latest name remotes <;> cases Registry.latest name locals <;> simp
  · obtain ⟨last, hlast⟩ := Registry.exists_latest_iff.2 ⟨url, mem⟩
    have noDirectory : (registryOf files locals remotes).directory? name = none := by
      rw [Registry.directory?, latest, hlast]
      rfl
    refine ⟨noDirectory, fun files text hname => ?_⟩
    rw [Asset.load, Asset.find, hname, noDirectory]
    rfl

/-- What comes of a command line that names local and remote components by pairs, and whose
other options are given. -/
structure StartsWith (files : FileTree) (given : Given) (locals remotes : List (String × String))
    (launch : Logged Launch) : Prop where
  /-- The first local component without its directory ends the start: those before it were
  registered, and nothing behind it. -/
  missing : ∀ before pair after, locals = before ++ pair :: after →
    (∀ e ∈ before, HasDirectory files e) → ¬ HasDirectory files pair →
    launch = ⟨.exited 1 "" ("Error: " ++ (noDirectory pair).message),
      starting :: registrationLog files before []⟩
  /-- It starts if all directories of local components are there and its address is one. -/
  started_iff : (∃ server, launch.value = .started server) ↔
    (∀ e ∈ locals, HasDirectory files e) ∧ isSocketAddress given.options.address = true
  /-- A server that starts has registered the local components in their order, then the remote
  ones in theirs. -/
  inOrder : ∀ server, launch.value = .started server →
    server = ⟨registryOf files locals remotes, (given.withPairs locals remotes).options⟩ ∧
    launch.log = starting :: registrationLog files locals remotes ++ [serving server.registry]
  latest : ∀ server, launch.value = .started server → ServesLatest locals remotes server.registry

theorem startsWith_of_parse {arguments : List String} {given : Given}
    (parsed : Options.parse arguments = .ok (given.withPairs locals remotes).options) :
    StartsWith files given locals remotes (run files arguments) := by
  have declared : (given.withPairs locals remotes).options.declarations =
      declarationsOf locals remotes := rfl
  have started_iff : (∃ server, (run files arguments).value = .started server) ↔
      (∀ e ∈ locals, HasDirectory files e) ∧ isSocketAddress given.options.address = true := by
    rw [run_of_options parsed, ← missing?_declarationsOf_iff remotes, ← declared]
    change _ ↔ _ ∧ isSocketAddress (given.withPairs locals remotes).options.address = true
    rw [← start_isOk_iff]
    cases (start files (given.withPairs locals remotes).options).value <;> simp
  have inOrder : ∀ server, (run files arguments).value = .started server →
      server = ⟨registryOf files locals remotes, (given.withPairs locals remotes).options⟩ ∧
      (run files arguments).log =
        starting :: registrationLog files locals remotes ++ [serving server.registry] := by
    intro server started
    obtain ⟨present, address⟩ := started_iff.1 ⟨server, started⟩
    have result : start files (given.withPairs locals remotes).options = _ :=
      start_of_present (declared ▸ (missing?_declarationsOf_iff remotes).2 present) address
    rw [declared] at result
    rw [run_of_options parsed, result] at started ⊢
    obtain rfl := Launch.started.inj started
    exact ⟨rfl, rfl⟩
  refine ⟨?_, started_iff, inOrder, fun server started => ?_⟩
  · rintro before pair after rfl there gone
    have first := registerAll_of_missing .empty (declarationsOf after remotes)
      ((missing?_declarationsOf_iff []).2 there) ((missing?_ofPath files pair).trans (if_neg gone))
    have cut : declarationsOf before [] ++ .ofPath pair.1 (.ofString pair.2) ::
        declarationsOf after remotes = declarationsOf (before ++ pair :: after) remotes := by
      simp [declarationsOf]
    rw [cut, ← declared] at first
    rw [run_of_options parsed, start_of_missing first]
    rfl
  · rw [(inOrder server started).1]
    exact servesLatest_after (started_iff.1 ⟨server, started⟩).1

/-- **Which components a server starts with.**  Let any settings be written down as a command
line, in any order.

* If one of them should register a component and its value is no pair, nothing is registered
  and no server starts.
* Let the other settings by themselves be in order.  Then the first value that is no pair is
  reported, with exit code 2.
* If there is none, the values are pairs, and the local components are registered in their
  order, then the remote ones in theirs.  The first local component whose directory is not
  there is reported, with exit code 1.  A server that starts has a component under each name
  that was given: the last remote one, or the last local one if there is no remote one. -/
theorem run_written (files : FileTree) (settings : List Setting) :
    (∀ s ∈ settings, s.Rejected → ∃ code output errors,
      run files (written settings) = ⟨.exited code output errors, []⟩) ∧
    ∀ given, (others settings).foldlM Given.give .none = .ok given →
      (∀ before s after, settings = before ++ s :: after → (∀ t ∈ before, ¬ t.Rejected) →
        s.Rejected → ∃ value, s.value? = some value ∧
          run files (written settings) =
            ⟨.exited 2 "" (Terminal.plain (UsageError.invalidPair s.flag value).text), []⟩) ∧
      ((∀ s ∈ settings, ¬ s.Rejected) → ∃ locals remotes,
        (valuesOf .component settings).Forall₂ IsPair locals ∧
        (valuesOf .remoteComponent settings).Forall₂ IsPair remotes ∧
        StartsWith files given locals remotes (run files (written settings))) := by
  have parsed : Options.parse (written settings) =
      (settings.foldlM Given.give .none).map Given.options := by
    rw [Options.parse, readArguments_written]
    rfl
  refine ⟨fun s mem rejected => ?_, fun given inOrder => ⟨?_, fun accepted => ?_⟩⟩
  · obtain ⟨stop, stopped⟩ := exists_error_of_rejected mem rejected .none
    rw [stopped] at parsed
    exact run_of_stop parsed
  · rintro before s after rfl accepted rejected
    obtain ⟨value, hvalue, refused⟩ := exists_foldlM_give_of_rejected accepted rejected inOrder
    rw [refused] at parsed
    refine ⟨value, hvalue, ?_⟩
    rw [run, parsed]
    rfl
  · rw [foldlM_give accepted, inOrder] at parsed
    exact ⟨pairsOf .component settings, pairsOf .remoteComponent settings,
      forall₂_pairsOf rfl accepted, forall₂_pairsOf rfl accepted,
      startsWith_of_parse parsed⟩

end

/-- A file tree with one directory, `/a`. -/
def oneDirectory : FileTree := { entries := [([Utf8.encode "a"], .directory)] }

/-- A knob that is declared remote and then local, and a local slider. -/
def knobAndSlider : List Setting :=
  [.apart .remoteComponent "knob=http://h/?x=y" rfl (by decide), .raised .debug rfl,
    .joined .component "knob=/a" rfl, .apart .component "slider=/a" rfl (by decide)]

attribute [local instance] Platform.atRoot

/-- The remote knob overrides the local one behind it.  With a directory that is missing, or
with a value that has no name, there is no server. -/
theorem run_written_of_both_kinds :
    (∃ server, (run oneDirectory (written knobAndSlider)).value = .started server ∧
      server.registry.get? "knob" = some (.ofUrl "knob" "http://h/?x=y") ∧
      server.registry.get? "slider" = some (.ofPath "slider" (.ofString "/a")) ∧
      server.registry.directory? "knob" = none) ∧
    (run .empty (written knobAndSlider)).value =
      .exited 1 "" ("Error: failed to register component 'knob'\n\nCaused by:\n" ++
        "    Configuration error: No such component directory: '/a'") ∧
    run oneDirectory (written (knobAndSlider ++ [.joined .component "=/a" rfl])) =
      ⟨.exited 2 "" (Terminal.plain (UsageError.invalidPair .component "=/a").text), []⟩ := by
  have accepted : ∀ s ∈ knobAndSlider, ¬ s.Rejected := by decide
  have collected : ∀ files, ∃ given, given.options.address = "127.0.0.1:0" ∧
      StartsWith files given [("knob", "/a"), ("slider", "/a")] [("knob", "http://h/?x=y")]
        (run files (written knobAndSlider)) := by
    intro files
    obtain ⟨locals, remotes, hlocals, hremotes, starts⟩ :=
      ((run_written files knobAndSlider).2 ⟨none, none, true, false, [], []⟩ rfl).2 accepted
    obtain rfl : [("knob", "/a"), ("slider", "/a")] = locals := filterMap_splitPair? hlocals
    obtain rfl : [("knob", "http://h/?x=y")] = remotes := filterMap_splitPair? hremotes
    exact ⟨_, rfl, starts⟩
  refine ⟨?_, ?_, ?_⟩
  · obtain ⟨given, haddress, starts⟩ := collected oneDirectory
    obtain ⟨server, started⟩ := starts.started_iff.2
      ⟨by decide, haddress ▸ by decide +kernel⟩
    have serves := starts.latest server started
    exact ⟨server, started, serves.latest "knob", serves.latest "slider",
      (serves.remote "knob" _ (List.mem_singleton_self _)).1⟩
  · obtain ⟨given, -, starts⟩ := collected .empty
    have gone := starts.missing [] ("knob", "/a") [("slider", "/a")] rfl
      (fun _ mem => absurd mem List.not_mem_nil) (by decide)
    rw [gone]
    exact congrArg (Launch.exited 1 "") (by decide +kernel)
  · obtain ⟨value, hvalue, refused⟩ :=
      ((run_written oneDirectory (knobAndSlider ++ [.joined .component "=/a" rfl])).2
        ⟨none, none, true, false, [], []⟩ rfl).1 knobAndSlider (.joined .component "=/a" rfl) []
        rfl accepted (by decide)
    obtain rfl := Option.some.inj hvalue
    exact refused

end CommandLine
end ComponentHost
