/-
# What keeps a request from being served

A request is served if and only if nothing is in its way.  Six obstacles can be, and
several of them at once: a path may leave a component that is not even registered, and a
link may lead out of a bundle whose directory is gone.

| Rank | Obstacle | Reason given |
|------|----------|--------------|
| 0 | no local component has the name | `not found` |
| 1 | the path could leave the bundle | `read error: path escapes the component directory` |
| 2 | the bundle's directory cannot be located | `read error: ` and the fault |
| 3 | the file cannot be located | `read error: ` and the fault |
| 4 | the file's location is not below the bundle's | `read error: path escapes the component directory` |
| 5 | what is there cannot be read | `read error: ` and the fault |

Each obstacle is a statement about the request by itself, whichever of the others apply
(`Obstacle.Applies`).  The one of least rank gives the reason (`load_decided`), and it is
determined by the request (`Obstacle.eq_of_first`).  Links on the way are no obstacle, as
long as they end at a file below the bundle that may be read.

Permissions are met at three ranks.  A directory on the way that may not be searched keeps
the bundle or the file from being located, and a file that is located may still not be
read.
-/

import ComponentHost.Proofs.CachePolicy
import Mathlib.Tactic.MkIffOfInductiveProp

namespace ComponentHost

/-- The directory that serves a request, and the path below it that the request asks for. -/
def AssetRequest.Addresses [Platform] (r : Registry) (request : AssetRequest)
    (root path : Path) : Prop :=
  r.directory? request.componentName = some root ∧
    Asset.resolveWithin root request.documentPath = some path

/-- A request addresses one path at most. -/
theorem AssetRequest.Addresses.unique [Platform] {r : Registry} {request : AssetRequest}
    {root root' path path' : Path} (h : request.Addresses r root path)
    (h' : request.Addresses r root' path') : root' = root ∧ path' = path := by
  obtain ⟨hroot, hpath⟩ := h
  obtain ⟨hroot', hpath'⟩ := h'
  rw [hroot] at hroot'
  obtain rfl := Option.some.inj hroot'
  rw [hpath] at hpath'
  exact ⟨rfl, (Option.some.inj hpath').symm⟩

/-- No local component is registered under a name exactly if nothing is, or an address. -/
theorem Registry.directory?_eq_none_iff [Platform] {r : Registry} {name : String} :
    r.directory? name = none ↔ ∀ c, r.get? name = some c → ∃ url, c.source = .url url := by
  rw [directory?, Option.bind_eq_none_iff]
  refine forall₂_congr fun c _ => ?_
  obtain ⟨declared, p | url⟩ := c
  · refine iff_of_false (Option.some_ne_none p.absolute) ?_
    rintro ⟨url, h⟩
    cases h
  · exact iff_of_true rfl ⟨url, rfl⟩

/-- Why what stands at a location cannot be read. -/
@[mk_iff]
inductive FileTree.Unreadable (tree : FileTree) (location : Location) : FileTree.Fault → Prop
  /-- The right to read it is denied, whatever it is. -/
  | denied (h : ¬ tree.Permits .read location) : Unreadable tree location .permissionDenied
  /-- It is a directory. -/
  | directory (permitted : tree.Permits .read location)
    (h : tree.entryAt location = some .directory) : Unreadable tree location .isDirectory

/-- **Reading at a canonical location fails in two ways**, for no link stands there. -/
theorem FileTree.read_eq_error_iff {tree : FileTree} {location : Location} {fault : Fault}
    (h : tree.Canonical location) :
    tree.read location = .error fault ↔ tree.Unreadable location fault := by
  obtain ⟨e, he, nolink⟩ := h.entry
  rw [read, he, unreadable_iff, he]
  by_cases permitted : tree.Permits .read location
  · cases e with
    | directory => simp [permitted, eq_comm]
    | file body => simp [permitted]
    | symlink target => exact absurd rfl (nolink target)
  · cases e with
    | directory => simp [permitted, eq_comm]
    | file body => simp [permitted, eq_comm]
    | symlink target => exact absurd rfl (nolink target)

namespace Asset

section

variable [Platform] {tree : FileTree} {r : Registry} {request : AssetRequest}

/-! ### What is served -/

/-- The asset that a request is to be served: the file below the bundle's location to which
the request's path leads, links followed, if it may be read, with nothing of it changed. -/
def Servable (tree : FileTree) (r : Registry) (request : AssetRequest) (asset : Asset) : Prop :=
  ∃ root bundle location, request.Addresses r root asset.path ∧
    tree.canonicalize root = .ok bundle ∧ tree.canonicalize asset.path = .ok location ∧
    bundle <+: location ∧ tree.entryAt location = some (.file asset.body) ∧
    tree.Permits .read location ∧
    asset.contentType = MediaType.ofPath asset.path ∧
    asset.cacheControl = ComponentHost.cacheControl request.relativePath

/-- **What is found is what is to be served.** -/
theorem find_eq_ok_iff {asset : Asset} :
    find tree r request = .ok asset ↔ Servable tree r request asset := by
  constructor
  · intro h
    obtain ⟨root, hroot, hpath, hread⟩ := eq_of_find_eq_ok h
    obtain ⟨bundle, location, hbundle, hlocation, below, hfile, permitted⟩ :=
      readWithin_eq_ok_iff.1 hread
    exact ⟨root, bundle, location, ⟨hroot, hpath⟩, hbundle, hlocation, below, hfile, permitted,
      fields_of_find_eq_ok h⟩
  · rintro ⟨root, bundle, location, ⟨hroot, hpath⟩, hbundle, hlocation, below, hfile, permitted,
      htype, hcache⟩
    have hread := readWithin_eq_ok_iff.2
      ⟨bundle, location, hbundle, hlocation, below, hfile, permitted⟩
    simp only [find, hroot, hpath, hread, ← htype, ← hcache]

/-! ### Obstacles -/

/-- What can keep a request from being served. -/
inductive Obstacle where
  | unknownComponent
  | leavingPath
  | missingBundle (fault : FileTree.Fault)
  | missingFile (fault : FileTree.Fault)
  | outsideBundle
  | unreadableFile (fault : FileTree.Fault)
  deriving DecidableEq, Repr

namespace Obstacle

/-- The order in which obstacles count. -/
def rank : Obstacle → Nat
  | .unknownComponent => 0
  | .leavingPath => 1
  | .missingBundle _ => 2
  | .missingFile _ => 3
  | .outsideBundle => 4
  | .unreadableFile _ => 5

/-- The reason that is given when an obstacle counts. -/
def reason : Obstacle → String
  | .unknownComponent => "not found"
  | .leavingPath | .outsideBundle => "read error: path escapes the component directory"
  | .missingBundle fault | .missingFile fault | .unreadableFile fault =>
    "read error: " ++ fault.message

/-- Whether an obstacle is in the way of a request, be it the only one or not. -/
def Applies (tree : FileTree) (r : Registry) (request : AssetRequest) : Obstacle → Prop
  | .unknownComponent =>
    ∀ c, r.get? request.componentName = some c → ∃ url, c.source = .url url
  | .leavingPath => (Path.ofString request.documentPath).Leaves
  | .missingBundle fault =>
    ∃ root, r.directory? request.componentName = some root ∧ tree.canonicalize root = .error fault
  | .missingFile fault =>
    ∃ root path, request.Addresses r root path ∧ tree.canonicalize path = .error fault
  | .outsideBundle =>
    ∃ root path bundle location, request.Addresses r root path ∧
      tree.canonicalize root = .ok bundle ∧ tree.canonicalize path = .ok location ∧
      ¬ bundle <+: location
  | .unreadableFile fault =>
    ∃ root path location, request.Addresses r root path ∧
      tree.canonicalize path = .ok location ∧ tree.read location = .error fault

/-- An obstacle that is in the way, and before all others that are. -/
def First (tree : FileTree) (r : Registry) (request : AssetRequest) (o : Obstacle) : Prop :=
  o.Applies tree r request ∧ ∀ o', Applies tree r request o' → o.rank ≤ o'.rank

/-- Of one rank, only one obstacle can be in the way. -/
theorem eq_of_rank_eq {o o' : Obstacle} (h : o.Applies tree r request)
    (h' : o'.Applies tree r request) (same : o.rank = o'.rank) : o = o' := by
  cases o <;> cases o' <;> try cases same
  case unknownComponent => rfl
  case leavingPath => rfl
  case outsideBundle => rfl
  case missingBundle fault fault' =>
    obtain ⟨root, hroot, hfault⟩ := h
    obtain ⟨root', hroot', hfault'⟩ := h'
    obtain rfl := Option.some.inj (hroot.symm.trans hroot')
    rw [Except.error.inj (hfault.symm.trans hfault')]
  case missingFile fault fault' =>
    obtain ⟨root, path, addressed, hfault⟩ := h
    obtain ⟨root', path', addressed', hfault'⟩ := h'
    obtain ⟨rfl, rfl⟩ := addressed.unique addressed'
    rw [Except.error.inj (hfault.symm.trans hfault')]
  case unreadableFile fault fault' =>
    obtain ⟨root, path, location, addressed, hlocation, hfault⟩ := h
    obtain ⟨root', path', location', addressed', hlocation', hfault'⟩ := h'
    obtain ⟨rfl, rfl⟩ := addressed.unique addressed'
    obtain rfl := Except.ok.inj (hlocation.symm.trans hlocation')
    rw [Except.error.inj (hfault.symm.trans hfault')]

/-- **At most one obstacle counts.** -/
theorem eq_of_first {o o' : Obstacle} (h : o.First tree r request) (h' : o'.First tree r request) :
    o = o' :=
  eq_of_rank_eq h.1 h'.1 (Nat.le_antisymm (h.2 o' h'.1) (h'.2 o h.1))

/-- What a path leads to is unreadable in the same two ways. -/
theorem unreadableFile_applies_iff {fault : FileTree.Fault} :
    (unreadableFile fault).Applies tree r request ↔
      ∃ root path location, request.Addresses r root path ∧
        tree.canonicalize path = .ok location ∧ tree.Unreadable location fault := by
  refine exists₃_congr fun root path location => and_congr_right fun _ =>
    and_congr_right fun hlocation => ?_
  exact FileTree.read_eq_error_iff (FileTree.canonical_of_lookUp hlocation)

/-! ### Ranks that are clear -/

/-- No obstacle below a rank is in the way of a request.  The lemmas that begin with
`clear_` are named for the obstacle that each takes away after those before it. -/
def Clear (tree : FileTree) (r : Registry) (request : AssetRequest) (k : Nat) : Prop :=
  ∀ o, Applies tree r request o → k ≤ o.rank

/-- **One more rank is clear** if no obstacle of it is in the way. -/
theorem Clear.succ {k : Nat} (h : Clear tree r request k)
    (none : ∀ o, Applies tree r request o → o.rank ≠ k) : Clear tree r request (k + 1) :=
  fun o ho => Nat.lt_of_le_of_ne (h o ho) (none o ho).symm

variable {root path : Path} {bundle location : Location}

theorem clear_start (tree : FileTree) (r : Registry) (request : AssetRequest) :
    Clear tree r request 0 := fun o _ => Nat.zero_le o.rank

theorem clear_unknownComponent (hroot : r.directory? request.componentName = some root) :
    Clear tree r request 1 := by
  refine (clear_start tree r request).succ fun o ho same => ?_
  cases o <;> cases same
  rw [Applies, ← Registry.directory?_eq_none_iff, hroot] at ho
  cases ho

theorem clear_leavingPath (addressed : request.Addresses r root path) : Clear tree r request 2 := by
  refine (clear_unknownComponent addressed.1).succ fun o ho same => ?_
  cases o <;> cases same
  rw [Applies, ← resolveWithin_eq_none_iff, addressed.2] at ho
  cases ho

theorem clear_missingBundle (addressed : request.Addresses r root path)
    (hbundle : tree.canonicalize root = .ok bundle) : Clear tree r request 3 := by
  refine (clear_leavingPath addressed).succ fun o ho same => ?_
  cases o <;> cases same
  obtain ⟨root', hroot', hfault⟩ := ho
  obtain rfl := Option.some.inj (addressed.1.symm.trans hroot')
  rw [hbundle] at hfault
  cases hfault

theorem clear_missingFile (addressed : request.Addresses r root path)
    (hbundle : tree.canonicalize root = .ok bundle)
    (hlocation : tree.canonicalize path = .ok location) : Clear tree r request 4 := by
  refine (clear_missingBundle addressed hbundle).succ fun o ho same => ?_
  cases o <;> cases same
  obtain ⟨root', path', addressed', hfault⟩ := ho
  obtain ⟨rfl, rfl⟩ := addressed.unique addressed'
  rw [hlocation] at hfault
  cases hfault

theorem clear_outsideBundle (addressed : request.Addresses r root path)
    (hbundle : tree.canonicalize root = .ok bundle)
    (hlocation : tree.canonicalize path = .ok location) (below : bundle <+: location) :
    Clear tree r request 5 := by
  refine (clear_missingFile addressed hbundle hlocation).succ fun o ho same => ?_
  cases o <;> cases same
  obtain ⟨root', path', bundle', location', addressed', hbundle', hlocation', outside⟩ := ho
  obtain ⟨rfl, rfl⟩ := addressed.unique addressed'
  obtain rfl := Except.ok.inj (hbundle.symm.trans hbundle')
  obtain rfl := Except.ok.inj (hlocation.symm.trans hlocation')
  exact outside below

theorem clear_unreadableFile (addressed : request.Addresses r root path)
    (hbundle : tree.canonicalize root = .ok bundle)
    (hlocation : tree.canonicalize path = .ok location) (below : bundle <+: location)
    {body : Bytes} (hfile : tree.entryAt location = some (.file body))
    (permitted : tree.Permits .read location) : Clear tree r request 6 := by
  refine (clear_outsideBundle addressed hbundle hlocation below).succ fun o ho same => ?_
  cases o <;> cases same
  obtain ⟨root', path', location', addressed', hlocation', hread⟩ := ho
  obtain ⟨rfl, rfl⟩ := addressed.unique addressed'
  obtain rfl := Except.ok.inj (hlocation.symm.trans hlocation')
  rw [FileTree.read_eq_ok_iff.2 ⟨hfile, permitted⟩] at hread
  cases hread

end Obstacle

/-! ### The first obstacle -/

/-- Nothing is in the way of what is served. -/
theorem not_applies_of_servable {asset : Asset} (h : Servable tree r request asset)
    (o : Obstacle) : ¬ o.Applies tree r request := by
  obtain ⟨root, bundle, location, addressed, hbundle, hlocation, below, hfile, permitted, -⟩ := h
  intro ho
  have clear :=
    Obstacle.clear_unreadableFile addressed hbundle hlocation below hfile permitted o ho
  cases o <;> simp [Obstacle.rank] at clear

/-- A read is refused by the first obstacle in the way of the file. -/
theorem exists_first_of_readWithin {root path : Path} {cause : ReadError}
    (addressed : request.Addresses r root path) (h : readWithin tree root path = .error cause) :
    ∃ o : Obstacle, o.First tree r request ∧ o.reason = "read error: " ++ cause.message := by
  rw [readWithin] at h
  split at h
  · rename_i fault hfault
    obtain rfl := Except.error.inj h
    exact ⟨.missingBundle fault,
      ⟨⟨root, addressed.1, hfault⟩, Obstacle.clear_leavingPath addressed⟩, rfl⟩
  rename_i bundle hbundle
  split at h
  · rename_i fault hfault
    obtain rfl := Except.error.inj h
    exact ⟨.missingFile fault,
      ⟨⟨root, path, addressed, hfault⟩, Obstacle.clear_missingBundle addressed hbundle⟩, rfl⟩
  rename_i location hlocation
  split at h
  · rename_i below
    split at h
    · rename_i fault hfault
      obtain rfl := Except.error.inj h
      have below : bundle <+: location := List.isPrefixOf_iff_prefix.1 below
      exact ⟨.unreadableFile fault, ⟨⟨root, path, location, addressed, hlocation, hfault⟩,
        Obstacle.clear_outsideBundle addressed hbundle hlocation below⟩, rfl⟩
    · cases h
  · rename_i outside
    obtain rfl := Except.error.inj h
    exact ⟨.outsideBundle, ⟨⟨root, path, bundle, location, addressed, hbundle, hlocation,
      mt List.isPrefixOf_iff_prefix.2 outside⟩,
      Obstacle.clear_missingFile addressed hbundle hlocation⟩, rfl⟩

/-- **A refusal gives the reason of the first obstacle.** -/
theorem exists_first_of_find {refusal : Refusal} (h : find tree r request = .error refusal) :
    ∃ o : Obstacle, o.First tree r request ∧ o.reason = refusal.reason := by
  rw [find] at h
  split at h
  · rename_i unknown
    obtain rfl := Except.error.inj h
    exact ⟨.unknownComponent,
      ⟨Registry.directory?_eq_none_iff.1 unknown, Obstacle.clear_start tree r request⟩, rfl⟩
  rename_i root hroot
  split at h
  · rename_i leaving
    obtain rfl := Except.error.inj h
    exact ⟨.leavingPath,
      ⟨resolveWithin_eq_none_iff.1 leaving, Obstacle.clear_unknownComponent hroot⟩, rfl⟩
  rename_i path hpath
  split at h
  · rename_i cause hcause
    obtain rfl := Except.error.inj h
    exact exists_first_of_readWithin ⟨hroot, hpath⟩ hcause
  · cases h

/-- **When a request is served, and which error it gets else.**  It is served exactly the
asset that is to be served, if there is one: links on the way do not matter.  Otherwise the
error repeats the text of the request and gives the reason of the first obstacle, in the
order of the ranks, and there is no other error.  What was located fails to be read in two
cases: if the right to read it is denied, and else if it is a directory. -/
theorem load_decided (tree : FileTree) (r : Registry) (text : String) :
    (∀ asset, (load tree r text).value = .ok asset ↔ Servable tree r (.parse text) asset) ∧
    (∀ e, (load tree r text).value = .error e ↔
      ∃ o : Obstacle, o.First tree r (.parse text) ∧ e = .assetNotFound text o.reason) ∧
    ∀ fault, (Obstacle.unreadableFile fault).Applies tree r (.parse text) ↔
      ∃ root path location, (AssetRequest.parse text).Addresses r root path ∧
        tree.canonicalize path = .ok location ∧ tree.Unreadable location fault := by
  have served : ∀ asset, (load tree r text).value = .ok asset ↔
      Servable tree r (.parse text) asset := fun asset =>
    load_value_eq_ok_iff.trans find_eq_ok_iff
  refine ⟨served, fun e => ?_, fun _ => Obstacle.unreadableFile_applies_iff⟩
  cases hfind : find tree r (.parse text) with
  | ok asset =>
    have free := not_applies_of_servable (find_eq_ok_iff.1 hfind)
    rw [load_value_eq_ok_iff.2 hfind]
    exact iff_of_false nofun fun ⟨o, first, _⟩ => free o first.1
  | error refusal =>
    obtain ⟨o, first, hreason⟩ := exists_first_of_find hfind
    have refused : (load tree r text).value = .error (.assetNotFound text o.reason) := by
      rw [load, hfind, hreason]
      rfl
    rw [refused]
    constructor
    · intro h
      exact ⟨o, first, (Except.error.inj h).symm⟩
    · rintro ⟨o', first', rfl⟩
      rw [Obstacle.eq_of_first first first']

end

/-- Where the document of `linkedTree` stands. -/
def documentPlace : Location :=
  [Utf8.encode "srv", Utf8.encode "bundle", Utf8.encode "index.html"]

attribute [local instance] Platform.atRoot

/-- Through two links a document of the bundle is served.  A path that leaves an unregistered
component meets two obstacles, and the first is the component; a link that leads out of a
bundle which is gone is refused for the bundle; and a bundle is no file of its own.  Without
the right to read the document, or to search the bundle, the request is refused for that. -/
theorem load_decided_over_links :
    Servable linkedTree linkedRegistry (.parse "slider/round.html")
      ⟨.ofString "/srv/bundle/round.html", Utf8.encode "hello", "text/html", "no-cache"⟩ ∧
    (Obstacle.leavingPath.Applies linkedTree linkedRegistry (.parse "nobody/../index.html") ∧
      ∃ o : Obstacle, o.First linkedTree linkedRegistry (.parse "nobody/../index.html") ∧
        o.reason = "not found") ∧
    (∃ o : Obstacle, o.First .empty linkedRegistry (.parse "slider/leak") ∧
      o.reason = "read error: No such file or directory (os error 2)") ∧
    (∃ o : Obstacle, o.First linkedTree linkedRegistry (.parse "slider/leak") ∧
      o.reason = "read error: path escapes the component directory") ∧
    (Obstacle.unreadableFile .isDirectory).Applies linkedTree linkedRegistry
      (.parse "slider/.") ∧
    ((Obstacle.unreadableFile .permissionDenied).Applies
        (linkedTree.setRight documentPlace .read false) linkedRegistry
        (.parse "slider/round.html") ∧
      ∃ o : Obstacle, o.First (linkedTree.setRight documentPlace .read false) linkedRegistry
        (.parse "slider/round.html") ∧
        o.reason = "read error: Permission denied (os error 13)") ∧
    ∃ o : Obstacle, o.First (linkedTree.setRight documentPlace.dropLast .search false)
      linkedRegistry (.parse "slider/round.html") ∧
      o.reason = "read error: Permission denied (os error 13)" := by
  have reasonOf : ∀ {tree text reason},
      (load tree linkedRegistry text).value = .error (.assetNotFound text reason) →
      ∃ o : Obstacle, o.First tree linkedRegistry (.parse text) ∧ o.reason = reason := by
    intro tree text reason h
    obtain ⟨o, first, e⟩ := ((load_decided ..).2.1 _).1 h
    exact ⟨o, first, (Error.assetNotFound.inj e).2.symm⟩
  have leaves : (Path.ofString "../index.html").Leaves := by decide
  refine ⟨((load_decided ..).1 _).1 rfl, ⟨leaves, reasonOf rfl⟩, reasonOf rfl, reasonOf rfl, ?_,
    ⟨?_, reasonOf rfl⟩, reasonOf rfl⟩
  · exact ((load_decided ..).2.2 _).2 ⟨.ofString "/srv/bundle", .ofString "/srv/bundle",
      documentPlace.dropLast, ⟨rfl, rfl⟩, rfl, .directory (by decide) rfl⟩
  · exact ((load_decided ..).2.2 _).2 ⟨.ofString "/srv/bundle",
      .ofString "/srv/bundle/round.html", documentPlace, ⟨rfl, rfl⟩, rfl,
      .denied (by decide)⟩

end Asset
end ComponentHost
