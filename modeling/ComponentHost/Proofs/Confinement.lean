/-
# What a request can reach

A request is answered from one bundle: the one that the first segment of its text
names.  `Asset.load` gives a file only if the file's canonical location is below the
canonical location of that bundle, name by name, so `/srv/bundle-evil` is not below
`/srv/bundle`; and what it gives is what stands there, octet by octet
(`readWithin_eq_ok_iff`).

The same holds between two runs.  Where a request leads is read off the shape of the
tree, so a run can see no file outside the bundle: whatever those files hold, and
whether they may be read, the answer and the log are the same (`readWithin_congr`).
`load_confined` states both.
-/

import ComponentHost.Asset.Load
import ComponentHost.Proofs.Location

namespace ComponentHost

/-! ### The first segment -/

namespace AssetRequest

/-- The first segment of a request's text is a name: no slash is in it, and the text
is the name alone or goes on with a slash. -/
def Names (text name : String) : Prop :=
  '/' ∉ name.toList ∧ (text = name ∨ ∃ rest, text = name ++ "/" ++ rest)

theorem toList_componentName (text : String) :
    (parse text).componentName.toList = text.toList.takeWhile (· ≠ '/') := by
  rw [parse, String.toList_ofList]

theorem names_componentName (text : String) : Names text (parse text).componentName := by
  rw [Names, toList_componentName]
  refine ⟨fun h => ?_, ?_⟩
  · have := List.all_eq_true.1 List.all_takeWhile _ h
    simp at this
  · have stop := List.head?_dropWhile_not (· ≠ '/') text.toList
    have cut : (parse text).componentName.toList ++ text.toList.dropWhile (· ≠ '/') =
        text.toList := by
      rw [toList_componentName, List.takeWhile_append_dropWhile]
    generalize text.toList.dropWhile (· ≠ '/') = tail at stop cut
    rcases tail with _ | ⟨c, rest⟩
    · left
      exact String.ext (by rw [← cut, List.append_nil])
    · right
      obtain rfl : c = '/' := by simpa using stop
      exact ⟨String.ofList rest, String.ext (by rw [← cut]; simp)⟩

/-- Nothing of a name without slashes is cut off. -/
theorem ne_slash_of_notMem {name : String} (h : '/' ∉ name.toList) :
    ∀ c ∈ name.toList, decide (c ≠ '/') = true := fun c hc => by
  simpa using fun e : c = '/' => h (e ▸ hc)

/-- **A request is cut behind a name without slashes.** -/
theorem parse_append {name : String} (h : '/' ∉ name.toList) (relativePath : String) :
    parse (name ++ "/" ++ relativePath) = ⟨name, relativePath⟩ := by
  have letters : (name ++ "/" ++ relativePath).toList =
      name.toList ++ '/' :: relativePath.toList := by simp
  rw [parse, letters, List.takeWhile_append_of_pos (ne_slash_of_notMem h),
    List.dropWhile_append_of_pos (ne_slash_of_notMem h)]
  simp

/-- A request without slashes is a name. -/
theorem parse_of_notMem {name : String} (h : '/' ∉ name.toList) : parse name = ⟨name, ""⟩ := by
  rw [parse, ← List.append_nil name.toList, List.takeWhile_append_of_pos (ne_slash_of_notMem h),
    List.dropWhile_append_of_pos (ne_slash_of_notMem h)]
  simp

theorem componentName_of_names {text name : String} (h : Names text name) :
    (parse text).componentName = name := by
  rcases h.2 with rfl | ⟨rest, rfl⟩
  · rw [parse_of_notMem h.1]
  · rw [parse_append h.1]

end AssetRequest

/-! ### Bundles -/

/-- The directory that serves a name is that of a local declaration under it. -/
theorem Registry.directory?_eq_some_iff [Platform] {r : Registry} {name : String} {root : Path} :
    r.directory? name = some root ↔
      ∃ c p, r.get? name = some c ∧ c.source = .path p ∧ p.absolute = root := by
  rw [directory?, Option.bind_eq_some_iff]
  constructor
  · rintro ⟨⟨declared, p | url⟩, hc, hroot⟩
    · exact ⟨_, p, hc, rfl, Option.some.inj hroot⟩
    · cases hroot
  · rintro ⟨⟨declared, source⟩, p, hc, rfl, rfl⟩
    exact ⟨_, hc, rfl⟩

namespace FileTree

variable {tree other : FileTree}

theorem read_eq_ok_iff {location : Location} {body : Bytes} :
    tree.read location = .ok body ↔
      tree.entryAt location = some (.file body) ∧ tree.Permits .read location := by
  rw [read]
  by_cases permitted : tree.Permits .read location <;>
    rcases tree.entryAt location with _ | (_ | _ | _) <;> simp [permitted]

/-- Two trees whose files below a location hold the same, and of which the same may be read
there. -/
structure SameFilesBelow (tree other : FileTree) (bundle : Location) : Prop where
  files : ∀ location body, bundle <+: location →
    (tree.entryAt location = some (.file body) ↔ other.entryAt location = some (.file body))
  readable : ∀ location, bundle <+: location →
    (tree.Permits .read location ↔ other.Permits .read location)

/-- With the shape, the files below a location decide what stands there. -/
theorem entryAt_congr {bundle location : Location} (shape : tree.SameShape other)
    (same : tree.SameFilesBelow other bundle) (below : bundle <+: location) :
    tree.entryAt location = other.entryAt location := by
  have kinds := shape.kinds location
  have bodies := fun body => same.files location body below
  generalize tree.entryAt location = e at kinds bodies ⊢
  generalize other.entryAt location = e' at kinds bodies ⊢
  rcases e with _ | (_ | _ | _) <;> rcases e' with _ | (_ | _ | _) <;> simp_all [Entry.kind]

/-- And with the rights, what can be read. -/
theorem read_congr {bundle location : Location} (shape : tree.SameShape other)
    (same : tree.SameFilesBelow other bundle) (below : bundle <+: location) :
    tree.read location = other.read location := by
  simp only [read, entryAt_congr shape same below, same.readable location below]

end FileTree

namespace Asset

variable {tree other : FileTree}

/-- **What is read stands below the bundle.** -/
theorem readWithin_eq_ok_iff {root path : Path} {body : Bytes} :
    readWithin tree root path = .ok body ↔
      ∃ bundle location, tree.canonicalize root = .ok bundle ∧
        tree.canonicalize path = .ok location ∧ bundle <+: location ∧
          tree.entryAt location = some (.file body) ∧ tree.Permits .read location := by
  rw [readWithin]
  constructor
  · intro h
    split at h
    · cases h
    rename_i bundle hbundle
    split at h
    · cases h
    rename_i location hlocation
    split at h
    · rename_i below
      split at h
      · cases h
      · rename_i found hread
        cases h
        exact ⟨bundle, location, hbundle, hlocation, List.isPrefixOf_iff_prefix.1 below,
          FileTree.read_eq_ok_iff.1 hread⟩
    · cases h
  · rintro ⟨bundle, location, hbundle, hlocation, below, hread⟩
    rw [hbundle, hlocation]
    simp only [List.isPrefixOf_iff_prefix.2 below, if_true, FileTree.read_eq_ok_iff.2 hread]

/-- **Reading sees no file outside the bundle.** -/
theorem readWithin_congr {root : Path} (shape : tree.SameShape other)
    (files : ∀ bundle, tree.canonicalize root = .ok bundle → tree.SameFilesBelow other bundle)
    (path : Path) : readWithin tree root path = readWithin other root path := by
  have same : ∀ p, tree.canonicalize p = other.canonicalize p := FileTree.lookUp_congr shape
  rw [readWithin, readWithin, ← same, ← same]
  split
  · rfl
  rename_i bundle hbundle
  split
  · rfl
  split
  · rename_i below
    rw [FileTree.read_congr shape (files bundle hbundle) (List.isPrefixOf_iff_prefix.1 below)]
  · rfl

section

variable [Platform]

/-- An asset is found where the request's path, taken from the bundle's directory,
can be read. -/
theorem eq_of_find_eq_ok {r : Registry} {request : AssetRequest} {asset : Asset}
    (h : find tree r request = .ok asset) :
    ∃ root, r.directory? request.componentName = some root ∧
      resolveWithin root request.documentPath = some asset.path ∧
        readWithin tree root asset.path = .ok asset.body := by
  rw [find] at h
  split at h
  · cases h
  rename_i root hroot
  split at h
  · cases h
  rename_i path hpath
  split at h
  · cases h
  · rename_i body hbody
    cases h
    exact ⟨root, hroot, hpath, hbody⟩

theorem find_congr {r : Registry} {request : AssetRequest} (shape : tree.SameShape other)
    (files : ∀ root bundle, r.directory? request.componentName = some root →
      tree.canonicalize root = .ok bundle → tree.SameFilesBelow other bundle) :
    find tree r request = find other r request := by
  rw [find, find]
  split
  · rfl
  rename_i root hroot
  split
  · rfl
  rw [readWithin_congr shape fun bundle => files root bundle hroot]

theorem load_value_eq_ok_iff {r : Registry} {text : String} {asset : Asset} :
    (load tree r text).value = .ok asset ↔ find tree r (.parse text) = .ok asset := by
  rw [load]
  cases find tree r (.parse text) with
  | ok found =>
    constructor
    · rintro ⟨⟩
      rfl
    · rintro ⟨⟩
      rfl
  | error refusal =>
    constructor
    · rintro ⟨⟩
    · rintro ⟨⟩

/-- **A request looks at one directory only**, that of the component which it names. -/
theorem load_congr_registry {r r' : Registry} {text : String}
    (same : r.directory? (AssetRequest.parse text).componentName =
      r'.directory? (AssetRequest.parse text).componentName) (tree : FileTree) :
    load tree r text = load tree r' text := by
  rw [load, load, find, find, same]

/-- **A request is confined to its bundle.**  What it is answered with is the file at
the canonical location of the asset's path, and that location is below the canonical
location of the directory of the component which the request's first segment names.
And whatever files outside of it hold, and whether they may be read, the answer and the
log are the same. -/
theorem load_confined (tree : FileTree) (r : Registry) (text : String) :
    (∀ asset, (load tree r text).value = .ok asset →
      ∃ name c p bundle location, AssetRequest.Names text name ∧
        r.get? name = some c ∧ c.source = .path p ∧
        tree.canonicalize p.absolute = .ok bundle ∧ tree.Canonical bundle ∧
        tree.canonicalize asset.path = .ok location ∧ tree.Canonical location ∧
        bundle <+: location ∧ tree.entryAt location = some (.file asset.body)) ∧
    (∀ other : FileTree, tree.SameShape other →
      (∀ name c p bundle, AssetRequest.Names text name → r.get? name = some c →
        c.source = .path p → tree.canonicalize p.absolute = .ok bundle →
          tree.SameFilesBelow other bundle) →
      load tree r text = load other r text) := by
  constructor
  · intro asset h
    obtain ⟨root, hroot, -, hread⟩ := eq_of_find_eq_ok (load_value_eq_ok_iff.1 h)
    obtain ⟨c, p, hc, hp, rfl⟩ := Registry.directory?_eq_some_iff.1 hroot
    obtain ⟨bundle, location, hbundle, hlocation, below, hfile, -⟩ :=
      readWithin_eq_ok_iff.1 hread
    exact ⟨_, c, p, bundle, location, AssetRequest.names_componentName text, hc, hp, hbundle,
      FileTree.canonical_of_lookUp hbundle, hlocation, FileTree.canonical_of_lookUp hlocation,
      below, hfile⟩
  · intro other shape files
    have same : find tree r (.parse text) = find other r (.parse text) := by
      refine find_congr shape fun root bundle hroot hbundle => ?_
      obtain ⟨c, p, hc, hp, rfl⟩ := Registry.directory?_eq_some_iff.1 hroot
      exact files _ c p bundle (AssetRequest.names_componentName text) hc hp hbundle
    rw [load, load, same]

end

/-- A bundle `/srv/bundle` with one document, a link that leaves it and comes back, and
a link to a file beside it whose name goes on where the bundle's ends. -/
def linkedTree : FileTree :=
  let srv := Utf8.encode "srv"
  let bundle := Utf8.encode "bundle"
  { entries := [([srv], .directory), ([srv, bundle], .directory),
    ([srv, Utf8.encode "alias"], .symlink (.ofString "bundle")),
    ([srv, Utf8.encode "bundle-evil"], .file (Utf8.encode "secret")),
    ([srv, bundle, Utf8.encode "index.html"], .file (Utf8.encode "hello")),
    ([srv, bundle, Utf8.encode "round.html"], .symlink (.ofString "../alias/index.html")),
    ([srv, bundle, Utf8.encode "leak"], .symlink (.ofString "/srv/bundle-evil"))] }

/-- The bundle of `linkedTree`, registered under a roundabout path. -/
def linkedRegistry : Registry :=
  ⟨.insert .empty "slider" (.ofPath "slider" (.ofString "srv/./bundle/"))⟩

/-- Where the file beside the bundle stands. -/
def besideBundle : Location := [Utf8.encode "srv", Utf8.encode "bundle-evil"]

attribute [local instance] Platform.atRoot

theorem load_confined_over_links :
    (∃ asset name c p bundle location,
      (load linkedTree linkedRegistry "slider/./round.html").value = .ok asset ∧
        AssetRequest.Names "slider/./round.html" name ∧ linkedRegistry.get? name = some c ∧
        c.source = .path p ∧ linkedTree.canonicalize p.absolute = .ok bundle ∧
        linkedTree.Canonical bundle ∧ linkedTree.canonicalize asset.path = .ok location ∧
        linkedTree.Canonical location ∧ bundle <+: location ∧
        linkedTree.entryAt location = some (.file asset.body)) ∧
    ∀ secret, load linkedTree linkedRegistry "slider/leak" =
      load (linkedTree.put besideBundle (.file secret)) linkedRegistry "slider/leak" := by
  constructor
  · have served : (load linkedTree linkedRegistry "slider/./round.html").value =
        .ok ⟨.ofString "/srv/bundle/round.html", Utf8.encode "hello", "text/html", "no-cache"⟩ :=
      rfl
    obtain ⟨name, c, p, bundle, location, h⟩ := (load_confined ..).1 _ served
    exact ⟨_, name, c, p, bundle, location, served, h⟩
  · intro secret
    refine (load_confined ..).2 _ (FileTree.sameShape_put_file (by decide) rfl secret) ?_
    rintro name c p bundle hname hc hp hbundle
    obtain rfl : "slider" = name := AssetRequest.componentName_of_names hname
    obtain rfl : Declaration.ofPath "slider" (.ofString "srv/./bundle/") = c :=
      Option.some.inj hc
    obtain rfl : Path.ofString "srv/./bundle/" = p := Source.path.inj hp
    obtain rfl : [Utf8.encode "srv", Utf8.encode "bundle"] = bundle := Except.ok.inj hbundle
    refine ⟨fun location body below => ?_, fun _ _ => Iff.rfl⟩
    have apart : location ≠ besideBundle := by
      rintro rfl
      exact absurd below (by decide)
    rw [FileTree.entryAt_put (by decide), if_neg apart]

end Asset
end ComponentHost
