/-
# The default document

A component can be asked for its default document in three ways (`AssetRequest.defaultTexts`):

| Text | Relative path | Document asked for |
|------|---------------|--------------------|
| `slider`, `slider/` | none | the default one, in place of a path |
| `slider/index.html` | `index.html` | the relative path itself |

What a request is answered with depends on its component and on the document that it asks for.
The cache policy is read off the relative path, but none has the policy that the default document
has (`cacheControl_congr`).  So all requests of a component for one document are answered alike
(`Asset.find_congr_request`), and so are the three: they get the same asset, or the same reason
why there is none (`Asset.load_defaultTexts`).  That the path leaves the bundle is never the
reason, though its file may lie outside.
-/

import ComponentHost.Proofs.Obstacles
import ComponentHost.Proofs.RequestText

namespace ComponentHost

/-! ### Requests for one document -/

/-- The cache policy follows from the document that a request asks for. -/
theorem cacheControl_congr {request again : AssetRequest}
    (document : again.documentPath = request.documentPath) :
    cacheControl again.relativePath = cacheControl request.relativePath := by
  rw [cacheControl_eq_iff, cacheControl_eq_mutable_iff, cacheControl_eq_mutable_iff, document]

namespace AssetRequest

/-- The texts that ask a component for its default document. -/
def defaultTexts (name : String) : List String := [name, name ++ "/", name ++ "/index.html"]

theorem documentPath_of_name (name : String) :
    documentPath ⟨name, ""⟩ = Settings.defaultDocument := documentPath_of_index rfl

theorem documentPath_eq_default_iff {request : AssetRequest} :
    request.documentPath = Settings.defaultDocument ↔
      request.relativePath = "" ∨ request.relativePath = Settings.defaultDocument := by
  by_cases index : request.relativePath = ""
  · exact iff_of_true (documentPath_of_index index) (.inl index)
  · rw [documentPath_of_named index, or_iff_right index]

/-- **Three texts ask a component for its default document**, and no others. -/
theorem mem_defaultTexts_iff {text name : String} (h : '/' ∉ name.toList) :
    text ∈ defaultTexts name ↔
      (parse text).componentName = name ∧
        (parse text).documentPath = Settings.defaultDocument := by
  have explicit : name ++ "/index.html" = name ++ "/" ++ Settings.defaultDocument := by
    rw [String.append_assoc]
    rfl
  rw [documentPath_eq_default_iff, defaultTexts, explicit]
  constructor
  · intro mem
    simp only [List.mem_cons, List.not_mem_nil, or_false] at mem
    rcases mem with rfl | rfl | rfl
    · rw [parse_of_notMem h]
      exact ⟨rfl, .inl rfl⟩
    · rw [parse_append_slash h, parse_of_notMem h]
      exact ⟨rfl, .inl rfl⟩
    · rw [parse_append h]
      exact ⟨rfl, .inr rfl⟩
  · rintro ⟨component, document⟩
    have spelled := spells_parse text
    generalize parse text = request at component document spelled
    cases spelled with
    | alone =>
      obtain rfl : text = name := component
      exact List.mem_cons_self ..
    | @cut front _ relativePath =>
      obtain rfl : front = name := component
      rcases document with rfl | rfl
      · simp
      · simp

end AssetRequest

namespace Asset

variable {tree : FileTree} {r : Registry}

/-- **All requests of a component for one document are answered alike.** -/
theorem find_congr_request [Platform] {request again : AssetRequest}
    (component : again.componentName = request.componentName)
    (document : again.documentPath = request.documentPath) :
    find tree r again = find tree r request := by
  rw [find, find, component, document, cacheControl_congr document]

theorem value_load [Platform] (tree : FileTree) (r : Registry) (text : String) :
    (load tree r text).value = (find tree r (.parse text)).mapError fun refusal =>
      .assetNotFound text refusal.reason := rfl

/-- A text that asks for the default document is answered as the name is, short of the text that
an error repeats. -/
theorem load_of_mem_defaultTexts [Platform] {text name : String} (h : '/' ∉ name.toList)
    (mem : text ∈ AssetRequest.defaultTexts name) :
    (load tree r text).value = (find tree r ⟨name, ""⟩).mapError fun refusal =>
      .assetNotFound text refusal.reason := by
  obtain ⟨component, document⟩ := (AssetRequest.mem_defaultTexts_iff h).1 mem
  rw [← AssetRequest.documentPath_of_name name] at document
  rw [value_load, find_congr_request component document]

/-! ### The default document of a bundle -/

theorem isName_defaultDocument : Path.IsName (Utf8.encode Settings.defaultDocument) := by
  decide

theorem resolveWithin_defaultDocument (root : Path) :
    resolveWithin root Settings.defaultDocument =
      some (root.child (Utf8.encode Settings.defaultDocument)) := rfl

/-- The default document has the media type of documents, wherever its bundle is. -/
theorem ofPath_child_defaultDocument [Platform] (root : Path) :
    MediaType.ofPath (root.child (Utf8.encode Settings.defaultDocument)) = "text/html" := by
  have fileName : (root.child (Utf8.encode Settings.defaultDocument)).fileName? =
      some (Utf8.encode Settings.defaultDocument) := by
    rw [Path.fileName?, Path.components_child isName_defaultDocument, List.getLast?_concat]
  have extension : (root.child (Utf8.encode Settings.defaultDocument)).extension?.bind
      Utf8.decode? = some "html" := by
    rw [Path.extension?, fileName]
    decide
  rw [MediaType.ofPath, extension]
  exact MediaType.ofExtension_of_lookup? (by decide) (by decide) (by decide +kernel)

/-- The default document's path stays in its bundle, so it is no obstacle. -/
theorem not_leavingPath_of_default [Platform] {name : String} :
    ¬ Obstacle.leavingPath.Applies tree r ⟨name, ""⟩ := by
  have stays : ¬ (Path.ofString Settings.defaultDocument).Leaves := by decide
  rw [Obstacle.Applies, AssetRequest.documentPath_of_name]
  exact stays

/-- What is served as the default document is the file of that name in the bundle's directory. -/
theorem Servable.of_default [Platform] {name : String} {asset : Asset}
    (h : Servable tree r ⟨name, ""⟩ asset) :
    (∃ root, r.directory? name = some root ∧
      asset.path = root.child (Utf8.encode Settings.defaultDocument)) ∧
    asset.contentType = "text/html" ∧ asset.cacheControl = Settings.mutableCacheControl := by
  obtain ⟨root, bundle, location, ⟨hroot, hpath⟩, -, -, -, -, -, contentType, policy⟩ := h
  rw [AssetRequest.documentPath_of_name, resolveWithin_defaultDocument] at hpath
  have hpath := (Option.some.inj hpath).symm
  refine ⟨⟨root, hroot, hpath⟩, ?_, ?_⟩
  · rw [contentType, hpath, ofPath_child_defaultDocument]
  · rw [policy, ComponentHost.cacheControl, if_pos (.inl rfl)]

/-- **The three ways to ask for a default document agree.**  Let a text be a name without slashes,
alone, with a slash behind it or with the document's own name behind that.  Then either all three
get the same asset, or they get the same error, short of the path in it, which is the text of each
request.

* In the first case the asset is the one that is to be served: the file `index.html` of the
  component's directory, with the media type of documents and the policy to ask again.
* In the second case the reason is the first obstacle in its way, whichever it is: there is no
  local component of the name, the bundle or the document cannot be located, the document is a
  link that leads out of the bundle, or it may not be read or is a directory.  It is never the
  path itself. -/
theorem load_defaultTexts [Platform] (tree : FileTree) (r : Registry) {name : String}
    (h : '/' ∉ name.toList) :
    (∃ asset, (∀ text ∈ AssetRequest.defaultTexts name, (load tree r text).value = .ok asset) ∧
      Servable tree r ⟨name, ""⟩ asset ∧
      (∃ root, r.directory? name = some root ∧
        asset.path = root.child (Utf8.encode "index.html")) ∧
      asset.contentType = "text/html" ∧ asset.cacheControl = "no-cache") ∨
    ∃ o : Obstacle,
      (∀ text ∈ AssetRequest.defaultTexts name,
        (load tree r text).value = .error (.assetNotFound text o.reason)) ∧
      o.First tree r ⟨name, ""⟩ ∧ o ≠ .leavingPath := by
  cases found : find tree r ⟨name, ""⟩ with
  | ok asset =>
    have servable := find_eq_ok_iff.1 found
    refine .inl ⟨asset, fun text mem => ?_, servable, servable.of_default⟩
    rw [load_of_mem_defaultTexts h mem, found]
    rfl
  | error refusal =>
    obtain ⟨o, first, reason⟩ := exists_first_of_find found
    refine .inr ⟨o, fun text mem => ?_, first, ?_⟩
    · rw [load_of_mem_defaultTexts h mem, found, reason]
      rfl
    · rintro rfl
      exact not_leavingPath_of_default first.1

/-- The bundle of `linkedTree` with a default document that is a link to a file beside it. -/
def leakingTree : FileTree :=
  linkedTree.put documentPlace (.symlink (.ofString "../bundle-evil"))

attribute [local instance] Platform.atRoot

/-- The default document is served under each of its texts; as a link that leaves the bundle it
is refused under each, and so it is where the name is not registered. -/
theorem load_defaultTexts_over_links :
    '/' ∉ "slider".toList ∧
    (∃ asset, asset.path = .ofString "/srv/bundle/index.html" ∧
      asset.contentType = "text/html" ∧ asset.cacheControl = "no-cache" ∧
      ∀ text ∈ ["slider", "slider/", "slider/index.html"],
        (load linkedTree linkedRegistry text).value = .ok asset) ∧
    (∀ text ∈ ["slider", "slider/", "slider/index.html"],
      (load leakingTree linkedRegistry text).value =
        .error (.assetNotFound text "read error: path escapes the component directory")) ∧
    ∀ text ∈ ["nobody", "nobody/", "nobody/index.html"],
      (load linkedTree linkedRegistry text).value = .error (.assetNotFound text "not found") := by
  have noSlash : '/' ∉ "slider".toList := by decide
  refine ⟨noSlash, ?_, ?_, ?_⟩
  · rcases load_defaultTexts linkedTree linkedRegistry noSlash with
      ⟨asset, served, -, ⟨root, hroot, hpath⟩, contentType, policy⟩ | ⟨o, refused, -⟩
    · obtain rfl : Path.ofString "/srv/bundle" = root := Option.some.inj hroot
      exact ⟨asset, hpath, contentType, policy, served⟩
    · cases refused "slider" (by decide)
  · rcases load_defaultTexts leakingTree linkedRegistry noSlash with
      ⟨asset, served, -⟩ | ⟨o, refused, -⟩
    · cases served "slider" (by decide)
    · have reason : "read error: path escapes the component directory" = o.reason :=
        (Error.assetNotFound.inj (Except.error.inj (refused "slider" (by decide)))).2
      exact reason ▸ refused
  · rcases load_defaultTexts linkedTree linkedRegistry (by decide : '/' ∉ "nobody".toList) with
      ⟨asset, served, -⟩ | ⟨o, refused, -⟩
    · cases served "nobody" (by decide)
    · have reason : "not found" = o.reason :=
        (Error.assetNotFound.inj (Except.error.inj (refused "nobody" (by decide)))).2
      exact reason ▸ refused

end Asset
end ComponentHost
