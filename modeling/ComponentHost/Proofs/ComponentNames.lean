/-
# Which components a request can name

A request names a component by what stands before its first slash, and a registry takes a
component under any name.  So a component is reached exactly if its name has no slash.  Then
the request is cut where the name ends (`AssetRequest.parse_append`), and what is looked up is
the directory of that component and of no other, also where one name begins with another.

A name with slashes is cut at the first of them.  A request for such a component is a request
for the one that the part before that slash names, and asks it for what stands behind: `a/b/x`
is the file `b/x` of `a`, whether or not there is a component `a/b`.  `load_registered` says
this of the registry after any run of registrations.
-/

import ComponentHost.Proofs.Confinement
import ComponentHost.Proofs.Registrations

namespace ComponentHost

namespace AssetRequest

/-! ### Where a request is cut -/

/-- A name with slashes is cut at the first of them. -/
theorem exists_cut {name : String} (h : '/' ∈ name.toList) :
    ∃ front back, '/' ∉ front.toList ∧ name = front ++ "/" ++ back := by
  obtain ⟨noSlash, whole | ⟨back, cut⟩⟩ := names_componentName name
  · exact absurd (whole ▸ h) noSlash
  · exact ⟨_, back, noSlash, cut⟩

/-- **A component is reached exactly if its name has no slash.** -/
theorem parse_append_eq_iff {name relativePath : String} :
    parse (name ++ "/" ++ relativePath) = ⟨name, relativePath⟩ ↔ '/' ∉ name.toList := by
  constructor
  · intro reached
    have noSlash := (names_componentName (name ++ "/" ++ relativePath)).1
    rw [reached] at noSlash
    exact noSlash
  · exact fun h => parse_append h relativePath

end AssetRequest

namespace Registry

section

variable [Platform]

/-- What stands under a name in a registry that began empty was declared under that name. -/
theorem name_eq_of_get?_after_empty {attempts : List Attempt} {name : String} {c : Declaration}
    (h : (empty.after attempts).get? name = some c) : c.name = name := by
  rw [get?_after_empty, lastNamed] at h
  simpa using List.find?_some h

/-- **Local components without a slash in their name are reached, and no others.**  After any
run of registrations let a local component stand under a name, and let a request be that name,
a slash and a relative path.

* The request is taken apart into just these exactly if the name has no slash.
* If so, it is answered from the directory of that component, whatever else is registered.
* If not, it asks another component, the one named before the first slash, and the answer
  depends on the directory of that one only. -/
theorem load_registered {attempts : List Attempt} {name : String} {c : Declaration} {p : Path}
    (held : (empty.after attempts).get? name = some c) (isLocal : c.source = .path p)
    (relativePath : String) :
    let r := empty.after attempts
    let text := name ++ "/" ++ relativePath
    c.name = name ∧
    (AssetRequest.parse text = ⟨name, relativePath⟩ ↔ '/' ∉ name.toList) ∧
    ('/' ∉ name.toList →
      r.directory? (AssetRequest.parse text).componentName = some p.absolute ∧
      ∀ tree,
        (∀ asset, (Asset.load tree r text).value = .ok asset →
          Asset.resolveWithin p.absolute (AssetRequest.documentPath ⟨name, relativePath⟩) =
            some asset.path) ∧
        ∀ r' : Registry, r'.directory? name = some p.absolute →
          Asset.load tree r' text = Asset.load tree r text) ∧
    ('/' ∈ name.toList →
      ∃ other rest, '/' ∉ other.toList ∧ name = other ++ "/" ++ rest ∧ other ≠ name ∧
        AssetRequest.parse text = ⟨other, rest ++ "/" ++ relativePath⟩ ∧
        ∀ tree, ∀ r' : Registry, r'.directory? other = r.directory? other →
          Asset.load tree r' text = Asset.load tree r text) := by
  intro r text
  have directory : r.directory? name = some p.absolute :=
    directory?_eq_some_iff.2 ⟨c, p, held, isLocal, rfl⟩
  refine ⟨name_eq_of_get?_after_empty held, AssetRequest.parse_append_eq_iff,
    fun noSlash => ?_, fun slash => ?_⟩
  · have reached : AssetRequest.parse text = ⟨name, relativePath⟩ :=
      AssetRequest.parse_append noSlash relativePath
    refine ⟨by rw [reached, directory], fun tree => ⟨fun asset loaded => ?_, fun r' same => ?_⟩⟩
    · obtain ⟨root, hroot, resolved, -⟩ :=
        Asset.eq_of_find_eq_ok (Asset.load_value_eq_ok_iff.1 loaded)
      rw [reached, directory] at hroot
      rw [reached] at resolved
      rw [Option.some.inj hroot, resolved]
    · exact Asset.load_congr_registry (by rw [reached, same, directory]) tree
  · obtain ⟨other, rest, noSlash, cut⟩ := AssetRequest.exists_cut slash
    have reached : AssetRequest.parse text = ⟨other, rest ++ "/" ++ relativePath⟩ := by
      have regrouped : text = other ++ "/" ++ (rest ++ "/" ++ relativePath) := by
        simp only [text, cut, String.append_assoc]
      rw [regrouped, AssetRequest.parse_append noSlash]
    refine ⟨other, rest, noSlash, cut, fun e => noSlash (e ▸ slash), reached, fun tree r' same => ?_⟩
    exact Asset.load_congr_registry (by rw [reached, same]) tree

end

/-- Two bundles `/a` and `/ab`; a file of the first has a path that begins with a directory
`b`. -/
def twoBundles : FileTree :=
  let a := Utf8.encode "a"
  let b := Utf8.encode "b"
  let ab := Utf8.encode "ab"
  let x := Utf8.encode "x"
  { entries := [([a], .directory), ([a, b], .directory), ([a, b, x], .file [1]),
    ([ab], .directory), ([ab, x], .file [2])] }

/-- A registration of a component with one of the bundles. -/
def bundled (name directory : String) : Attempt :=
  ⟨twoBundles, .register (.ofPath name (.ofString directory))⟩

attribute [local instance] Platform.atRoot

/-- Of two names one begins with the other; each is reached, though an attempt between them
failed. -/
theorem load_registered_of_longer_name :
    let r := empty.after [bundled "a" "/a", bundled "ab" "/none", bundled "ab" "/ab"]
    r.get? "ab" = some (.ofPath "ab" (.ofString "/ab")) ∧
      r.directory? (AssetRequest.parse ("ab" ++ "/" ++ "x")).componentName =
        some (.ofString "/ab") ∧
      (Asset.load twoBundles r ("ab" ++ "/" ++ "x")).value =
        .ok ⟨.ofString "/ab/x", [2], "application/octet-stream", "public"⟩ ∧
      Asset.resolveWithin (.ofString "/ab") "x" = some (.ofString "/ab/x") := by
  intro r
  have held : r.get? "ab" = some (.ofPath "ab" (.ofString "/ab")) := rfl
  obtain ⟨-, -, reached, -⟩ := load_registered held rfl "x"
  obtain ⟨directory, answered⟩ := reached (by decide)
  have loaded : (Asset.load twoBundles r ("ab" ++ "/" ++ "x")).value =
      .ok ⟨.ofString "/ab/x", [2], "application/octet-stream", "public"⟩ := rfl
  exact ⟨held, directory, loaded, (answered twoBundles).1 _ loaded⟩

/-- **A component with a slash in its name is not reached.**  The file `x` of a component
`a/b` can be read, but a request for it is answered with the file `b/x` of a component `a`. -/
theorem load_registered_of_slash :
    let r := empty.after [bundled "a" "/a", bundled "a/b" "/ab"]
    r.get? "a/b" = some (.ofPath "a/b" (.ofString "/ab")) ∧
      Asset.readWithin twoBundles (.ofString "/ab") (.ofString "/ab/x") = .ok [2] ∧
      AssetRequest.parse ("a/b" ++ "/" ++ "x") ≠ ⟨"a/b", "x"⟩ ∧
      r.directory? (AssetRequest.parse ("a/b" ++ "/" ++ "x")).componentName =
        some (.ofString "/a") ∧
      (Asset.load twoBundles r ("a/b" ++ "/" ++ "x")).value =
        .ok ⟨.ofString "/a/b/x", [1], "application/octet-stream", "public"⟩ :=
  ⟨rfl, rfl, by decide, rfl, rfl⟩

end Registry
end ComponentHost
