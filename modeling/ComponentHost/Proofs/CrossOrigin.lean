/-
# What cross-origin use adds

A host that allows cross-origin use puts one header on every response, after all else has been
decided.  That this adds a header and takes none away rests on what answers carry: whatever the
path, the method and the outcome, the names of their headers are among four
(`knownHeaders_answer`), and the header of cross-origin use is none of them.

| Header | On |
|--------|----|
| `content-length` | every answer |
| `content-type` | assets, refused assets, the health check |
| `cache-control` | assets |
| `allow` | methods that a path does not allow |

So two hosts that differ in the switch answer alike but for that header, and over a connection as
well (`respond_crossOrigin`).
-/

import ComponentHost.Proofs.Responses

namespace ComponentHost
namespace Http

/-! ### The headers of an answer -/

/-- The names of the headers that answers carry. -/
def answerHeaders : List String := ["allow", "cache-control", "content-length", "content-type"]

/-- The header that tells where a response may be used. -/
def originHeader : String := "access-control-allow-origin"

namespace Response

/-- A response whose headers are all among those that answers carry. -/
def KnownHeaders (response : Response) : Prop :=
  ∀ name, response.headers.get? name ≠ none → name ∈ answerHeaders

theorem mem_of_get?_foldl_insert {headers : List (String × String)} {m : ByName String}
    {name : String}
    (h : (headers.foldl (fun m e => m.insert e.1 e.2) m).get? name ≠ none) :
    name ∈ headers.map Prod.fst ∨ m.get? name ≠ none := by
  induction headers generalizing m with
  | nil => exact .inr h
  | cons e rest ih =>
    rcases ih h with later | before
    · exact .inl (List.mem_cons_of_mem _ later)
    · rw [ByName.get?_insert] at before
      by_cases here : name = e.1
      · exact .inl (here ▸ List.mem_cons_self ..)
      · rw [if_neg here] at before
        exact .inr before

/-- **A response carries the headers it was made with**, and the length of its body. -/
theorem knownHeaders_of {headers : List (String × String)}
    (known : ∀ name ∈ headers.map Prod.fst, name ∈ answerHeaders) (status : Nat) (body : Bytes) :
    (Response.of status headers body).KnownHeaders := by
  intro name h
  rw [Response.of, ByName.get?_insert] at h
  by_cases length : name = "content-length"
  · rw [length]
    decide
  · rw [if_neg length] at h
    rcases mem_of_get?_foldl_insert h with given | nothing
    · exact known name given
    · exact absurd rfl nothing

theorem KnownHeaders.lacks_origin {response : Response} (h : response.KnownHeaders) :
    response.headers.get? originHeader = none := by
  by_contra held
  exact absurd (h originHeader held) (by decide)

end Response

theorem IsAssetAnswer.knownHeaders {response : Response} (h : IsAssetAnswer response) :
    response.KnownHeaders := by
  rcases h with ⟨asset, rfl⟩ | ⟨e, rfl⟩
  · refine Response.knownHeaders_of ?_ _ _
    simp [contentType, answerHeaders]
  · refine Response.knownHeaders_of ?_ _ _
    simp [contentType, answerHeaders]

theorem knownHeaders_healthy : healthy.KnownHeaders := by
  refine Response.knownHeaders_of ?_ _ _
  simp [contentType, answerHeaders]

theorem knownHeaders_notAllowed (methods : String) : (notAllowed methods).KnownHeaders := by
  refine Response.knownHeaders_of ?_ _ _
  simp [answerHeaders]

theorem knownHeaders_bare (status : Nat) : (Response.bare status).KnownHeaders :=
  Response.knownHeaders_of (List.forall_mem_nil _) _ _

/-- **No answer carries any other header**, whatever was asked for and whatever came of it. -/
theorem knownHeaders_answer [Platform] (tree : FileTree) (r : Registry) (request : Request) :
    (answer tree r request).value.KnownHeaders := by
  obtain ⟨method, target⟩ := request
  by_cases health : targetPath target = "/health"
  · rw [answer_of_health tree r health]
    cases Method.ofString method with
    | get => exact knownHeaders_healthy
    | head => exact knownHeaders_healthy
    | options => exact knownHeaders_notAllowed _
    | other => exact knownHeaders_notAllowed _
  by_cases asset : AssetPath (targetPath target)
  · obtain ⟨get, isAnswer, answered⟩ := answer_of_assetPath tree r asset
    rw [answered]
    cases Method.ofString method with
    | get => exact isAnswer.knownHeaders
    | head => exact isAnswer.knownHeaders
    | options => exact knownHeaders_bare _
    | other => exact knownHeaders_notAllowed _
  · rw [answer_of_unknown tree r health asset]
    exact knownHeaders_bare _

/-! ### One header more -/

/-- A response that is another one with one header more, of a name that the other one lacks. -/
structure Response.AddsHeader (name value : String) (plain extended : Response) : Prop where
  status : extended.status = plain.status
  body : extended.body = plain.body
  /-- The other one has no header of the name. -/
  absent : plain.headers.get? name = none
  headers : extended.headers.entries.Perm ((name, value) :: plain.headers.entries)

theorem Response.addsHeader_withHeader {name : String} {response : Response}
    (absent : response.headers.get? name = none) (value : String) :
    AddsHeader name value response (response.withHeader name value) where
  status := rfl
  body := rfl
  absent := absent
  headers := ByName.perm_entries_insert absent value

/-- A connection takes away the length only, so it does not matter when a header is added. -/
theorem Response.onWire_withHeader {name : String} (other : name ≠ "content-length")
    (response : Response) (value : String) :
    (response.withHeader name value).onWire = response.onWire.withHeader name value := by
  have commute : (response.headers.insert name value).erase "content-length" =
      (response.headers.erase "content-length").insert name value := by
    refine ByName.ext_get? fun n => ?_
    rw [ByName.get?_erase, ByName.get?_insert, ByName.get?_insert, ByName.get?_erase]
    by_cases length : n = "content-length"
    · have apart : n ≠ name := fun e => other (e ▸ length)
      rw [if_pos length, if_neg apart, if_pos length]
    · rw [if_neg length, if_neg length]
  rw [onWire, onWire, withHeader]
  split
  · exact congrArg (Response.mk response.status · response.body) commute
  · rfl

theorem Response.get?_onWire_eq_none {name : String} {response : Response}
    (absent : response.headers.get? name = none) : response.onWire.headers.get? name = none := by
  rw [onWire]
  split
  · rw [ByName.get?_erase, absent, ite_self]
  · exact absent

/-- **The switch for cross-origin use adds one header and changes nothing else.**  Take any
registry, any files, any method and any target.  With the switch on, the response has the
status, the body and all headers of the response with the switch off, and one header more,
which allows all origins; with the switch off, there is no header of that name.  The same holds
of the two responses as they go over a connection, and the log does not tell the two apart. -/
theorem respond_crossOrigin [Platform] (tree : FileTree) (r : Registry) (request : Request) :
    let off := respond tree r ⟨false⟩ request
    let on := respond tree r ⟨true⟩ request
    Response.AddsHeader "access-control-allow-origin" "*" off.value on.value ∧
      Response.AddsHeader "access-control-allow-origin" "*" off.value.onWire on.value.onWire ∧
      on.log = off.log := by
  intro off on
  have plain : off.value = (answer tree r request).value := value_respond ..
  have shared : on.value = off.value.withHeader originHeader "*" := by
    rw [plain]
    exact value_respond ..
  have absent : off.value.headers.get? originHeader = none := by
    rw [plain]
    exact (knownHeaders_answer tree r request).lacks_origin
  refine ⟨?_, ?_, ?_⟩
  · rw [shared]
    exact Response.addsHeader_withHeader absent _
  · rw [shared, Response.onWire_withHeader (by decide)]
    exact Response.addsHeader_withHeader (Response.get?_onWire_eq_none absent) _
  · change (answer tree r request).log ++ [] = (answer tree r request).log
    exact List.append_nil _

end Http
end ComponentHost
