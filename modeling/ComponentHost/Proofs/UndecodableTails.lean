/-
# Tails that are no text

The tail of an asset path stands for a text with its escapes undone, unless that is not UTF-8.
Then there is no text to look up, and the tail itself is reported, still escaped.  It is not
taken from the route but cut out of the whole path a second time:

| Cut | `/components//a` | `/components/a/` |
|-----|------------------|------------------|
| the route's, behind one slash | `/a` | `a/` |
| the report's, behind all slashes | `a` | `a/` |

So what is reported is the tail without the slashes at its front (`rawRequestPath_componentUrl`),
and it is complete just for tails that have none there.  A tail that stands for a text is
reported with them, in a response of the same kind.
-/

import ComponentHost.Proofs.AssetAddress

namespace ComponentHost
namespace Http

/-- A tail without the slashes at its front. -/
def withoutLeadingSlashes (tail : String) : String :=
  String.ofList (tail.toList.dropWhile (· = '/'))

theorem withoutLeadingSlashes_eq_self_iff {tail : String} :
    withoutLeadingSlashes tail = tail ↔ tail.toList.head? ≠ some '/' := by
  rw [withoutLeadingSlashes, ← String.toList_inj, String.toList_ofList]
  cases tail.toList with
  | nil => exact iff_of_true rfl nofun
  | cons c cs =>
    by_cases h : c = '/'
    · rw [List.dropWhile_cons_of_pos (by simpa using h), h]
      refine iff_of_false (fun e => ?_) (not_not_intro rfl)
      have shorter : (cs.dropWhile (· = '/')).length ≤ cs.length :=
        (List.dropWhile_suffix _).length_le
      have longer := congrArg List.length e
      rw [List.length_cons] at longer
      omega
    · rw [List.dropWhile_cons_of_neg (by simpa using h)]
      exact iff_of_true rfl (mt Option.some.inj h)

/-- **The second cut takes off all slashes** behind the prefix. -/
theorem rawRequestPath_componentUrl (tail : String) :
    rawRequestPath ("/" ++ componentUrl tail) = withoutLeadingSlashes tail := by
  have front : ('/' :: Settings.routePrefix.toList ++ '/' :: tail.toList).dropWhile (· = '/') =
      Settings.routePrefix.toList ++ '/' :: tail.toList := by
    simp [Settings.routePrefix]
  simp only [rawRequestPath, toList_address, front, stripFront?_append]
  rfl

/-! ### Reports -/

/-- What is reported of a text: its status, its body and its headers. -/
theorem shape_notFound_under (options : ServerOptions) (text : String) :
    let report := (notFound (.assetNotFound text "not found")).under options
    report.status = 404 ∧ report.body = Utf8.encode (text ++ " not found") ∧
      report.headers.entries = crossOriginHeaders options ++
        [("content-length", toString report.body.length),
          ("content-type", "text/plain; charset=utf-8")] := by
  intro report
  have message : text ++ " " ++ "not found" = text ++ " not found" := String.append_assoc ..
  obtain ⟨status, body⟩ := status_under options (notFound (.assetNotFound text "not found"))
  have length : report.body.length = _ := congrArg List.length body
  refine ⟨status, body.trans (congrArg Utf8.encode message), ?_⟩
  rw [length]
  exact entries_notFound options _

section

variable [Platform]

/-- `GET` on a tail that opens no query is answered by what the tail stands for. -/
theorem value_respond_components (tree : FileTree) (r : Registry) (options : ServerOptions)
    {tail query : String} (clean : ∀ c ∈ tail.toList, c ≠ '?' ∧ c ≠ '#')
    (hquery : query = "" ∨ ∃ q, query = "?" ++ q) :
    (respond tree r options ⟨"GET", "/components/" ++ tail ++ query⟩).value =
      (serveEscaped tree r ("/" ++ componentUrl tail) tail).value.under options := by
  rw [components_append, value_respond, answer_get_of_clean tree r clean hquery]

/-- A tail that is no text gets an error with what the second cut leaves of it. -/
theorem value_serveEscaped_of_undecodable (tree : FileTree) (r : Registry) {tail : String}
    (undecodable : unescape? tail = none) :
    (serveEscaped tree r ("/" ++ componentUrl tail) tail).value =
      notFound (.assetNotFound (withoutLeadingSlashes tail) "not found") := by
  rw [serveEscaped, undecodable, ← rawRequestPath_componentUrl]
  rfl

/-- A tail that asks an unknown component gets an error with its text. -/
theorem value_serveEscaped_of_unknown (tree : FileTree) {r : Registry} {written text : String}
    (decodable : unescape? written = some text)
    (unknown : r.directory? (AssetRequest.parse text).componentName = none) (path : String) :
    (serveEscaped tree r path written).value = notFound (.assetNotFound text "not found") := by
  have refused : (Asset.load tree r text).value = .error (.assetNotFound text "not found") := by
    rw [Asset.load, Asset.find, unknown]
    rfl
  rw [serveEscaped, decodable, value_serve, refused]

/-- **A tail that is no text is reported as it was sent, but without the slashes at its
front.**  `GET` on the address of such a tail gets 404 with the tail, still escaped, cut behind
all slashes at its front, and `not found`; so just the tails that begin with no slash are
reported whole.  A tail that stands for a text and asks an unknown component gets a response of
the same kind, with all its slashes. -/
theorem respond_get_undecodable (tree : FileTree) (r : Registry) (options : ServerOptions)
    {tail query : String} (clean : ∀ c ∈ tail.toList, c ≠ '?' ∧ c ≠ '#')
    (undecodable : unescape? tail = none) (hquery : query = "" ∨ ∃ q, query = "?" ++ q) :
    let get := fun tail => (respond tree r options ⟨"GET", "/components/" ++ tail ++ query⟩).value
    let report := fun text => (notFound (.assetNotFound text "not found")).under options
    (∀ text, (report text).status = 404 ∧ (report text).body = Utf8.encode (text ++ " not found") ∧
      (report text).headers.entries = crossOriginHeaders options ++
        [("content-length", toString (report text).body.length),
          ("content-type", "text/plain; charset=utf-8")]) ∧
    get tail = report (withoutLeadingSlashes tail) ∧
    ((get tail).body = Utf8.encode (tail ++ " not found") ↔ tail.toList.head? ≠ some '/') ∧
    ∀ written text, (∀ c ∈ written.toList, c ≠ '?' ∧ c ≠ '#') → unescape? written = some text →
      r.directory? (AssetRequest.parse text).componentName = none → get written = report text := by
  intro get report
  have reported : get tail = report (withoutLeadingSlashes tail) := by
    rw [show get tail = _ from value_respond_components tree r options clean hquery,
      value_serveEscaped_of_undecodable tree r undecodable]
  refine ⟨shape_notFound_under options, reported, ?_, ?_⟩
  · have body := (shape_notFound_under options (withoutLeadingSlashes tail)).2.1
    rw [reported, show (report _).body = _ from body, Utf8.encode_inj, String.append_left_inj,
      withoutLeadingSlashes_eq_self_iff]
  · intro written text clean decodable unknown
    rw [show get written = _ from value_respond_components tree r options clean hquery,
      value_serveEscaped_of_unknown tree decodable unknown]

end

attribute [local instance] Platform.atRoot

/-- A tail that repeats the prefix and has slashes, an escape that is undone elsewhere and one
that is no text, is reported whole. -/
theorem respond_get_undecodable_of_repeated_prefix :
    unescape? "components//%41/%FF/" = none ∧
      (respond .empty .empty ⟨false⟩
        ⟨"GET", "/components/" ++ "components//%41/%FF/" ++ "?/x"⟩).value.body =
          Utf8.encode ("components//%41/%FF/" ++ " not found") := by
  have undecodable : unescape? "components//%41/%FF/" = none := by decide +kernel
  obtain ⟨-, -, whole, -⟩ := respond_get_undecodable .empty .empty ⟨false⟩
    (by simp : ∀ c ∈ "components//%41/%FF/".toList, c ≠ '?' ∧ c ≠ '#') undecodable
    (.inr ⟨"/x", rfl⟩ : "?/x" = "" ∨ ∃ q, "?/x" = "?" ++ q)
  exact ⟨undecodable, whole.2 (by decide)⟩

/-- **A slash at the front is not reported**, though it was sent; it is, if the tail stands for
a text. -/
theorem respond_get_undecodable_of_leading_slash :
    let get := fun tail => (respond .empty .empty ⟨false⟩ ⟨"GET", "/components/" ++ tail⟩).value
    unescape? "/%FF" = none ∧ (get "/%FF").body = Utf8.encode "%FF not found" ∧
      (get "/%FF").body ≠ Utf8.encode ("/%FF" ++ " not found") ∧
      (get "/%41").body = Utf8.encode ("/A" ++ " not found") := by
  intro get
  have undecodable : unescape? "/%FF" = none := by decide +kernel
  exact ⟨undecodable, by decide +kernel, by decide +kernel, by decide +kernel⟩

end Http
end ComponentHost
