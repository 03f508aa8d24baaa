/-
# How a request is taken apart

The text of a request is cut at its first slash.  What stands before is the component's name,
and what follows is the path within the bundle, as it was written: slashes at its front, doubled
or at its end included.  A text without slashes is the name alone.

| Text | Name | Relative path |
|------|------|---------------|
| `slider` | `slider` | |
| `slider/` | `slider` | |
| `slider//a//` | `slider` | `/a//` |
| `/a` | | `a` |

The other way round, `AssetRequest.Spells` says which texts a request has, and taking apart finds
the only request of a text (`parse_eq_iff`).  A request has just one text, unless its relative
path is empty: then the name can be written with a slash behind it or without, and the request
asks for the default document (`parse_eq_parse_iff`, `isIndex_iff`).

A text can also be read as the list of what stands between its slashes.  The name is the first of
the list, and the relative path is the others joined again, empty ones included
(`textSegments_eq_cons`).
-/

import ComponentHost.Proofs.Confinement
import ComponentHost.Proofs.RelativePath

namespace ComponentHost

namespace Path

theorem textSegments_of_notMem {text : String} (h : '/' ∉ text.toList) :
    textSegments text = [text] := by
  rw [textSegments, List.splitOn_eq_singleton h, List.map_singleton, String.ofList_toList]

/-- **Joining what stands between the slashes gives the text back.** -/
theorem intercalate_textSegments (text : String) : "/".intercalate (textSegments text) = text := by
  have letters : (textSegments text).map String.toList = text.toList.splitOn '/' := by
    rw [textSegments, List.map_map]
    exact List.map_id'' (fun _ => String.toList_ofList) _
  apply String.ext
  rw [String.toList_intercalate, letters]
  exact List.intercalate_splitOn '/'

end Path

namespace AssetRequest

/-! ### The texts of a request -/

/-- The texts of a request: its name and its relative path with a slash between them, and the
name alone if the relative path is empty. -/
inductive Spells : String → AssetRequest → Prop where
  | alone {name : String} (noSlash : '/' ∉ name.toList) : Spells name ⟨name, ""⟩
  | cut {name : String} (noSlash : '/' ∉ name.toList) (relativePath : String) :
    Spells (name ++ "/" ++ relativePath) ⟨name, relativePath⟩

theorem spells_parse (text : String) : Spells text (parse text) := by
  obtain ⟨noSlash, h⟩ := names_componentName text
  -- The name still mentions the text; apart from it, the text can be put in terms of the name.
  generalize (parse text).componentName = name at noSlash h
  rcases h with rfl | ⟨rest, rfl⟩
  · rw [parse_of_notMem noSlash]
    exact .alone noSlash
  · rw [parse_append noSlash]
    exact .cut noSlash rest

/-- **A text spells just what it is taken apart into.** -/
theorem parse_eq_iff {text : String} {request : AssetRequest} :
    parse text = request ↔ Spells text request := by
  constructor
  · rintro rfl
    exact spells_parse text
  · rintro (noSlash | ⟨noSlash, relativePath⟩)
    · exact parse_of_notMem noSlash
    · exact parse_append noSlash relativePath

/-- **Nothing of a text is lost.**  It is the name, or the name, a slash and the relative path. -/
theorem eq_componentName_or (text : String) :
    (text = (parse text).componentName ∧ (parse text).relativePath = "") ∨
      text = (parse text).componentName ++ "/" ++ (parse text).relativePath := by
  have spelled := spells_parse text
  generalize parse text = request at spelled ⊢
  cases spelled with
  | alone => exact .inl ⟨rfl, rfl⟩
  | cut => exact .inr rfl

/-- **The name is the first text between slashes**, and the relative path joins the others. -/
theorem textSegments_eq_cons (text : String) :
    ∃ rest, Path.textSegments text = (parse text).componentName :: rest ∧
      (parse text).relativePath = "/".intercalate rest := by
  have spelled := spells_parse text
  generalize parse text = request at spelled ⊢
  cases spelled with
  | alone noSlash => exact ⟨[], Path.textSegments_of_notMem noSlash, rfl⟩
  | cut noSlash relativePath =>
    refine ⟨Path.textSegments relativePath, ?_, (Path.intercalate_textSegments _).symm⟩
    rw [Path.textSegments_append_slash, Path.textSegments_of_notMem noSlash]
    rfl

/-! ### Requests with two texts -/

/-- A slash behind a name changes nothing. -/
theorem parse_append_slash {name : String} (h : '/' ∉ name.toList) :
    parse (name ++ "/") = parse name := by
  have cut := parse_append h ""
  rw [String.append_empty] at cut
  rw [cut, parse_of_notMem h]

/-- **Two texts are taken apart alike exactly if one is a name and the other has a slash behind
it.** -/
theorem parse_eq_parse_iff {text other : String} (differ : other ≠ text) :
    parse other = parse text ↔
      ('/' ∉ text.toList ∧ other = text ++ "/") ∨ ('/' ∉ other.toList ∧ text = other ++ "/") := by
  constructor
  · intro same
    have spelled := spells_parse text
    have spelled' := parse_eq_iff.1 same
    generalize parse text = request at spelled spelled'
    cases spelled with
    | alone noSlash =>
      cases spelled' with
      | alone => exact absurd rfl differ
      | cut => exact .inl ⟨noSlash, String.append_empty⟩
    | cut noSlash =>
      cases spelled' with
      | alone => exact .inr ⟨noSlash, String.append_empty⟩
      | cut => exact absurd rfl differ
  · rintro (⟨noSlash, rfl⟩ | ⟨noSlash, rfl⟩)
    · exact parse_append_slash noSlash
    · exact (parse_append_slash noSlash).symm

/-- **A request asks for the default document exactly if its text is a name**, with or without a
slash behind it. -/
theorem isIndex_iff {text : String} :
    (parse text).isIndex = true ↔
      ∃ name : String, '/' ∉ name.toList ∧ (text = name ∨ text = name ++ "/") := by
  rw [isIndex, decide_eq_true_iff]
  constructor
  · intro empty
    have spelled := spells_parse text
    generalize parse text = request at empty spelled
    cases spelled with
    | alone noSlash => exact ⟨text, noSlash, .inl rfl⟩
    | @cut name noSlash relativePath =>
      obtain rfl : relativePath = "" := empty
      exact ⟨name, noSlash, .inr String.append_empty⟩
  · rintro ⟨name, noSlash, rfl | rfl⟩
    · rw [parse_of_notMem noSlash]
    · rw [parse_append_slash noSlash, parse_of_notMem noSlash]

/-- **Taking a request apart loses nothing.**

* The name has no slash.  The text is the name alone, and then the relative path is empty, or it
  is the name, a slash and the relative path.
* Of the texts between slashes the name is the first, and the relative path is the others, joined
  by slashes.
* Any name without slashes and any relative path are what their text is taken apart into.
* Two texts that differ are taken apart alike exactly if one is a name without slashes, and the
  other is that name and one slash.
* These texts, and no others, ask for the default document. -/
theorem parse_lossless (text : String) :
    let request := parse text
    '/' ∉ request.componentName.toList ∧
    ((text = request.componentName ∧ request.relativePath = "") ∨
      text = request.componentName ++ "/" ++ request.relativePath) ∧
    (∃ rest, Path.textSegments text = request.componentName :: rest ∧
      request.relativePath = "/".intercalate rest) ∧
    (∀ name relativePath : String, '/' ∉ name.toList →
      parse (name ++ "/" ++ relativePath) = ⟨name, relativePath⟩) ∧
    (∀ other : String, other ≠ text →
      (parse other = request ↔ ('/' ∉ text.toList ∧ other = text ++ "/") ∨
        ('/' ∉ other.toList ∧ text = other ++ "/"))) ∧
    (request.isIndex = true ↔
      ∃ name : String, '/' ∉ name.toList ∧ (text = name ∨ text = name ++ "/")) :=
  ⟨(names_componentName text).1, eq_componentName_or text, textSegments_eq_cons text,
    fun _ relativePath noSlash => parse_append noSlash relativePath,
    fun _ differ => parse_eq_parse_iff differ, isIndex_iff⟩

/-- A text with slashes in every place, put together again; a name that is asked for the default
document in two ways, and what a second slash changes. -/
theorem parse_lossless_of_slashes :
    parse ("slider" ++ "/" ++ "/a//") = ⟨"slider", "/a//"⟩ ∧
      (∃ rest, Path.textSegments "slider//a//" = "slider" :: rest ∧
        "/a//" = "/".intercalate rest) ∧
      '/' ∉ "slider".toList ∧ parse "slider/" = parse "slider" ∧
      (parse "slider/").isIndex = true ∧ parse "slider//" ≠ parse "slider" := by
  obtain ⟨-, -, segments, rebuilt, -, -⟩ := parse_lossless "slider//a//"
  obtain ⟨-, -, -, -, same, -⟩ := parse_lossless "slider"
  have noSlash : '/' ∉ "slider".toList := by decide
  refine ⟨rebuilt "slider" "/a//" noSlash, segments, noSlash,
    (same "slider/" (by decide)).2 (.inl ⟨noSlash, rfl⟩),
    (parse_lossless "slider/").2.2.2.2.2.2 ⟨"slider", noSlash, .inr rfl⟩, fun e => ?_⟩
  rcases (same "slider//" (by decide)).1 e with ⟨-, other⟩ | ⟨slash, -⟩
  · exact absurd other (by decide)
  · exact slash (by decide)

end AssetRequest
end ComponentHost
