/-
# Which answers may be kept

Documents may change at any time, so they must be asked for again; any other file may be
kept.  What an asset is served as follows from the file: its octets and its media type are
the same for all spellings of a request that lead to its path.  The cache policy is read
off the spelling.  The two agree as long as the spelling ends with a name, for a descent
ends at that name (`Asset.fileName?_of_descend`).  A slash or a `.` behind the name leads to
the same file, but hides how the name ends.

So a document is asked for again exactly if the request for it does not trail
(`load_cacheControl`), and `slider/index.html/` is a document that may be kept.
-/

import ComponentHost.Proofs.Confinement
import ComponentHost.Proofs.Descent
import ComponentHost.Proofs.Utf8

namespace ComponentHost

/-- A path whose file name ends as those of documents do. -/
def Path.IsDocument (p : Path) : Prop :=
  ∃ name, p.fileName? = some name ∧ Utf8.encode ".html" <:+ name

/-- A request whose path within the bundle ends in a slash or in `.`. -/
def AssetRequest.Trails (request : AssetRequest) : Prop :=
  (Path.ofString request.documentPath).Trails

instance : DecidablePred AssetRequest.Trails := fun request =>
  inferInstanceAs (Decidable (Path.ofString request.documentPath).Trails)

theorem AssetRequest.documentPath_of_index {request : AssetRequest}
    (h : request.relativePath = "") : request.documentPath = Settings.defaultDocument := by
  rw [documentPath, isIndex, if_pos (decide_eq_true h)]

theorem AssetRequest.documentPath_of_named {request : AssetRequest}
    (h : request.relativePath ≠ "") : request.documentPath = request.relativePath := by
  rw [documentPath, isIndex, decide_eq_false h, if_neg Bool.false_ne_true]

/-- The cache policy tells whether the path within the bundle ends as documents do. -/
theorem cacheControl_eq_mutable_iff (request : AssetRequest) :
    cacheControl request.relativePath = Settings.mutableCacheControl ↔
      Utf8.encode ".html" <:+ (Path.ofString request.documentPath).bytes := by
  have ascii : ∀ c ∈ ".html".toList, c.toNat < 0x80 := by simp
  change _ ↔ Utf8.encode ".html" <:+ Utf8.encode request.documentPath
  rw [Utf8.encode_suffix_iff ascii, cacheControl]
  by_cases index : request.relativePath = ""
  · rw [if_pos (.inl index), AssetRequest.documentPath_of_index index]
    exact iff_of_true rfl (by decide)
  · rw [AssetRequest.documentPath_of_named index]
    by_cases ends : ".html".toList.isSuffixOf request.relativePath.toList
    · rw [if_pos (.inr ends)]
      exact iff_of_true rfl (List.isSuffixOf_iff_suffix.1 ends)
    · rw [if_neg (not_or.2 ⟨index, ends⟩)]
      exact iff_of_false (by decide) (mt List.isSuffixOf_iff_suffix.2 ends)

/-- There are two cache policies. -/
theorem cacheControl_eq_immutable_iff (relativePath : String) :
    cacheControl relativePath = Settings.immutableCacheControl ↔
      cacheControl relativePath ≠ Settings.mutableCacheControl := by
  have differ : Settings.immutableCacheControl ≠ Settings.mutableCacheControl := by decide
  rw [cacheControl]
  split
  · exact iff_of_false differ.symm (not_not.2 rfl)
  · exact iff_of_true rfl differ

/-- Two policies are the same if both ask again or neither does. -/
theorem cacheControl_eq_iff (relativePath other : String) :
    cacheControl relativePath = cacheControl other ↔
      (cacheControl relativePath = Settings.mutableCacheControl ↔
        cacheControl other = Settings.mutableCacheControl) := by
  have kept := cacheControl_eq_immutable_iff relativePath
  have kept' := cacheControl_eq_immutable_iff other
  constructor
  · intro same
    rw [same]
  · intro same
    by_cases again : cacheControl other = Settings.mutableCacheControl
    · rw [again, same.2 again]
    · rw [kept'.2 again, kept.2 (mt same.1 again)]

namespace Asset

variable {tree : FileTree} {r : Registry}

/-- **A relative path ends as documents do exactly if it leads to a document and does not
trail.** -/
theorem suffix_iff_isDocument_of_descend {root path p : Path}
    (h : descend root p.components = some path) :
    Utf8.encode ".html" <:+ p.bytes ↔ path.IsDocument ∧ ¬ p.Trails := by
  rw [Path.suffix_bytes_iff (by decide)]
  constructor
  · intro ends
    have named : ¬ p.Trails := by
      rintro (last | last)
      · rw [last] at ends
        exact absurd ends (by decide)
      · rw [last] at ends
        exact absurd ends (by decide)
    exact ⟨⟨_, fileName?_of_descend h named, ends⟩, named⟩
  · rintro ⟨⟨name, hname, ends⟩, named⟩
    rw [fileName?_of_descend h named] at hname
    exact Option.some.inj hname ▸ ends

section

variable [Platform]

/-- What a request is answered with besides where it leads. -/
theorem fields_of_find_eq_ok {request : AssetRequest} {asset : Asset}
    (h : find tree r request = .ok asset) :
    asset.contentType = MediaType.ofPath asset.path ∧
      asset.cacheControl = ComponentHost.cacheControl request.relativePath := by
  rw [find] at h
  split at h
  · cases h
  split at h
  · cases h
  split at h
  · cases h
  · cases h
    exact ⟨rfl, rfl⟩

/-- A document is asked for again exactly if its request does not trail. -/
theorem cacheControl_eq_mutable_iff_of_find {request : AssetRequest} {asset : Asset}
    (h : find tree r request = .ok asset) :
    asset.cacheControl = Settings.mutableCacheControl ↔
      asset.path.IsDocument ∧ ¬ request.Trails := by
  obtain ⟨root, -, hpath, -⟩ := eq_of_find_eq_ok h
  rw [(fields_of_find_eq_ok h).2, cacheControl_eq_mutable_iff]
  exact suffix_iff_isDocument_of_descend hpath

/-- Requests of one component that lead to the same path get the same file. -/
theorem sameFile_of_find {request again : AssetRequest} {asset found : Asset}
    (h : find tree r request = .ok asset) (h' : find tree r again = .ok found)
    (component : again.componentName = request.componentName) (path : found.path = asset.path) :
    found.body = asset.body ∧ found.contentType = asset.contentType := by
  obtain ⟨root, hroot, -, hread⟩ := eq_of_find_eq_ok h
  obtain ⟨root', hroot', -, hread'⟩ := eq_of_find_eq_ok h'
  rw [component, hroot] at hroot'
  obtain rfl : root = root' := Option.some.inj hroot'
  rw [path, hread] at hread'
  refine ⟨(Except.ok.inj hread').symm, ?_⟩
  rw [(fields_of_find_eq_ok h).1, (fields_of_find_eq_ok h').1, path]

/-- **When the cache policy follows the file.**  Of an asset that a request is answered
with, the policy is `no-cache` if the asset is a document and the request does not trail,
and `public` otherwise.  Any other request of the same component that leads to the same path
gets the same octets and media type; it gets the same policy too, unless the asset is a
document and just one of the two requests trails. -/
theorem load_cacheControl {text : String} {asset : Asset}
    (h : (load tree r text).value = .ok asset) :
    (asset.cacheControl = "no-cache" ↔
      asset.path.IsDocument ∧ ¬ (AssetRequest.parse text).Trails) ∧
    (asset.cacheControl = "public" ↔
      ¬ (asset.path.IsDocument ∧ ¬ (AssetRequest.parse text).Trails)) ∧
    ∀ again found, (load tree r again).value = .ok found →
      (AssetRequest.parse again).componentName = (AssetRequest.parse text).componentName →
      found.path = asset.path →
      found.body = asset.body ∧ found.contentType = asset.contentType ∧
        (found.cacheControl = asset.cacheControl ↔
          (asset.path.IsDocument →
            ((AssetRequest.parse again).Trails ↔ (AssetRequest.parse text).Trails))) := by
  have hfind := load_value_eq_ok_iff.1 h
  have asked := cacheControl_eq_mutable_iff_of_find hfind
  obtain ⟨-, policy⟩ := fields_of_find_eq_ok hfind
  refine ⟨asked, ?_, fun again found hagain component path => ?_⟩
  · change _ = Settings.immutableCacheControl ↔ _
    rw [← asked, policy, cacheControl_eq_immutable_iff]
  · have hfound := load_value_eq_ok_iff.1 hagain
    have asked' := cacheControl_eq_mutable_iff_of_find hfound
    obtain ⟨-, policy'⟩ := fields_of_find_eq_ok hfound
    obtain ⟨body, contentType⟩ := sameFile_of_find hfind hfound component path
    refine ⟨body, contentType, ?_⟩
    rw [path, policy'] at asked'
    rw [policy] at asked
    rw [policy, policy', cacheControl_eq_iff, asked, asked', and_congr_right_iff]
    exact imp_congr_right fun _ => not_iff_not

end

attribute [local instance] Platform.atRoot

/-- A document that is a link is asked for again under its name, but not under a spelling
that trails. -/
theorem load_cacheControl_of_linked_document :
    ∃ asset found, (load linkedTree linkedRegistry "slider/round.html").value = .ok asset ∧
      (load linkedTree linkedRegistry "slider/./round.html/.").value = .ok found ∧
      asset.cacheControl = "no-cache" ∧ found.body = asset.body ∧
      found.contentType = asset.contentType ∧ found.cacheControl ≠ asset.cacheControl := by
  have named : (load linkedTree linkedRegistry "slider/round.html").value =
      .ok ⟨.ofString "/srv/bundle/round.html", Utf8.encode "hello", "text/html", "no-cache"⟩ :=
    rfl
  have trailing : (load linkedTree linkedRegistry "slider/./round.html/.").value =
      .ok ⟨.ofString "/srv/bundle/round.html", Utf8.encode "hello", "text/html", "public"⟩ :=
    rfl
  have document : (Path.ofString "/srv/bundle/round.html").IsDocument :=
    ⟨Utf8.encode "round.html", rfl, by decide⟩
  obtain ⟨asked, -, agree⟩ := load_cacheControl named
  obtain ⟨body, contentType, same⟩ := agree _ _ trailing (by decide) rfl
  refine ⟨_, _, named, trailing, asked.2 ⟨document, by decide⟩, body, contentType, fun e => ?_⟩
  exact absurd (same.1 e document) (by decide)

/-- **A slash behind the name of a document lets it be kept.**  It is the same path, the
same file and the same media type, but one answer must be asked for again and the other
need not. -/
theorem load_cacheControl_of_trailing_slash :
    ∃ asset found, (load linkedTree linkedRegistry "slider/index.html").value = .ok asset ∧
      (load linkedTree linkedRegistry "slider/index.html/").value = .ok found ∧
      found.path = asset.path ∧ found.path.IsDocument ∧ found.contentType = "text/html" ∧
      asset.cacheControl = "no-cache" ∧ found.cacheControl = "public" :=
  ⟨⟨.ofString "/srv/bundle/index.html", Utf8.encode "hello", "text/html", "no-cache"⟩,
    ⟨.ofString "/srv/bundle/index.html", Utf8.encode "hello", "text/html", "public"⟩,
    rfl, rfl, rfl, ⟨Utf8.encode "index.html", rfl, by decide⟩, rfl, rfl, rfl⟩

end Asset
end ComponentHost
