/-
# What can be answered

A path is the health check's, an asset path, or unknown (`route_of_not_assetPath`); a method
is `GET`, `HEAD`, `OPTIONS` or any other.  The two decide the status, short of whether there
is an asset:

| Path | `GET`, `HEAD` | `OPTIONS` | any other method |
|------|---------------|-----------|------------------|
| `/health` | 200 | 405 | 405 |
| an asset path | 200 or 404 | 204 | 405 |
| any other | 404 | 404 | 404 |

Nothing else is ever answered: every refusal on the way to an asset, a text that is not UTF-8
included, ends in the same kind of response (`isAssetAnswer_serveEscaped`).  What loads no
asset does not look at the registry or the files, and `HEAD` is `GET` without the body.
`respond_classified` says all of this for a server with any options.
-/

import ComponentHost.Proofs.AssetAddress

namespace ComponentHost
namespace Http

/-! ### Paths -/

/-- The paths below which assets are served: the route itself, and whatever follows it after
a slash. -/
def AssetPath (path : String) : Prop :=
  path = "/components" ∨ ∃ tail, path = "/components/" ++ tail

theorem stripFront?_eq_some_iff {front cs rest : List Char} :
    stripFront? front cs = some rest ↔ cs = front ++ rest := by
  constructor
  · intro h
    rw [stripFront?] at h
    split at h
    · rename_i isFront
      obtain ⟨tail, rfl⟩ := List.isPrefixOf_iff_prefix.1 isFront
      rw [List.drop_left] at h
      rw [Option.some.inj h]
    · cases h
  · rintro rfl
    exact stripFront?_append front rest

/-- An asset path goes to one of the asset routes. -/
theorem route_of_assetPath {path : String} (h : AssetPath path) :
    route path = .assets ∨ ∃ tail, route path = .asset tail := by
  rcases h with rfl | ⟨tail, rfl⟩
  · exact .inl (by decide)
  · rw [components_append, route_componentUrl]
    split
    · exact .inl rfl
    · exact .inr ⟨tail, rfl⟩

/-- **Any other path is unknown**, however close it comes. -/
theorem route_of_not_assetPath {path : String} (health : path ≠ "/health")
    (asset : ¬ AssetPath path) : route path = .unknown := by
  have cut : ∀ rest, stripFront? ('/' :: Settings.routePrefix.toList) path.toList = some rest →
      path = "/components" ++ String.ofList rest := fun rest h => by
    apply String.ext
    rw [stripFront?_eq_some_iff.1 h]
    simp [Settings.routePrefix]
  rw [route, if_neg health]
  split
  · rfl
  · rename_i h
    exact absurd (.inl (cut _ h)) asset
  · rename_i h
    exact absurd (.inr ⟨"", cut _ h⟩) asset
  · rename_i tail _ h
    refine absurd (.inr ⟨String.ofList tail, ?_⟩) asset
    rw [cut _ h]
    apply String.ext
    simp
  · rfl

/-- The asset paths are those that have a route of their own beside the health check's. -/
theorem assetPath_iff {path : String} :
    AssetPath path ↔ route path ≠ .health ∧ route path ≠ .unknown := by
  constructor
  · intro h
    rcases route_of_assetPath h with e | ⟨tail, e⟩
    · simp [e]
    · simp [e]
  · rintro ⟨notHealth, known⟩
    by_contra other
    refine known (route_of_not_assetPath (fun e => notHealth ?_) other)
    rw [e]
    decide

instance : DecidablePred AssetPath := fun _ => decidable_of_iff' _ assetPath_iff

/-! ### Methods -/

theorem Method.ofString_other {text : String}
    (h : text ≠ "GET" ∧ text ≠ "HEAD" ∧ text ≠ "OPTIONS") : Method.ofString text = .other := by
  rw [Method.ofString, if_neg h.1, if_neg h.2.1, if_neg h.2.2]

/-! ### Responses -/

/-- A response that tells the length of its body. -/
def Response.TellsLength (response : Response) : Prop :=
  response.headers.get? "content-length" = some (toString response.body.length)

theorem Response.tellsLength_of (status : Nat) (headers : List (String × String)) (body : Bytes) :
    (Response.of status headers body).TellsLength := by
  rw [TellsLength, Response.of, ByName.get?_insert, if_pos rfl]

theorem Response.TellsLength.under {response : Response} (h : response.TellsLength)
    (options : ServerOptions) : (response.under options).TellsLength := by
  rw [Response.under]
  split
  · rw [TellsLength, withHeader, ByName.get?_insert, if_neg (by decide)]
    exact h
  · exact h

theorem Response.under_withoutBody (options : ServerOptions) (response : Response) :
    response.withoutBody.under options = (response.under options).withoutBody := by
  rw [Response.under, Response.under]
  split <;> rfl

/-- The responses to a request for an asset: the asset, or why there is none. -/
def IsAssetAnswer (response : Response) : Prop :=
  (∃ asset, response = served asset) ∨ ∃ e, response = notFound e

theorem IsAssetAnswer.status {response : Response} (h : IsAssetAnswer response) :
    response.status = 200 ∨ response.status = 404 := by
  rcases h with ⟨asset, rfl⟩ | ⟨e, rfl⟩
  · exact .inl rfl
  · exact .inr rfl

theorem IsAssetAnswer.tellsLength {response : Response} (h : IsAssetAnswer response) :
    response.TellsLength := by
  rcases h with ⟨asset, rfl⟩ | ⟨e, rfl⟩
  · exact Response.tellsLength_of ..
  · exact Response.tellsLength_of ..

section

variable [Platform]

theorem isAssetAnswer_serve (tree : FileTree) (r : Registry) (text : String) :
    IsAssetAnswer (serve tree r text).value := by
  rw [value_serve]
  split
  · exact .inl ⟨_, rfl⟩
  · exact .inr ⟨_, rfl⟩

theorem isAssetAnswer_serveEscaped (tree : FileTree) (r : Registry) (path tail : String) :
    IsAssetAnswer (serveEscaped tree r path tail).value := by
  rw [serveEscaped]
  split
  · exact isAssetAnswer_serve ..
  · exact .inr ⟨_, rfl⟩

/-! ### Answers by path -/

/-- On an asset path the method decides what becomes of the answer to `GET`. -/
theorem answer_of_assetPath (tree : FileTree) (r : Registry) {target : String}
    (h : AssetPath (targetPath target)) :
    ∃ get, IsAssetAnswer get.value ∧
      ∀ method, answer tree r ⟨method, target⟩ = onAssets (Method.ofString method) get := by
  rcases route_of_assetPath h with e | ⟨tail, e⟩
  · refine ⟨serve tree r "", isAssetAnswer_serve .., fun method => ?_⟩
    rw [answer, e]
  · refine ⟨serveEscaped tree r (targetPath target) tail, isAssetAnswer_serveEscaped ..,
      fun method => ?_⟩
    rw [answer, e]

/-- On the health check's path neither registry nor files matter. -/
theorem answer_of_health (tree : FileTree) (r : Registry) {target : String}
    (h : targetPath target = "/health") (method : String) :
    answer tree r ⟨method, target⟩ =
      match Method.ofString method with
      | .get => pure healthy
      | .head => pure healthy.withoutBody
      | _ => pure (notAllowed "GET,HEAD") := by
  rw [answer, h]
  rfl

theorem answer_of_unknown (tree : FileTree) (r : Registry) {target : String}
    (health : targetPath target ≠ "/health") (asset : ¬ AssetPath (targetPath target))
    (method : String) : answer tree r ⟨method, target⟩ = pure (.bare 404) := by
  rw [answer, route_of_not_assetPath health asset]

/-- Options change neither the status nor the body. -/
theorem status_respond (tree : FileTree) (r : Registry) (options : ServerOptions)
    (request : Request) :
    (respond tree r options request).value.status = (answer tree r request).value.status ∧
      (respond tree r options request).value.body = (answer tree r request).value.body := by
  rw [value_respond]
  exact status_under ..

theorem respond_of_health (tree : FileTree) (r : Registry) (options : ServerOptions)
    {request : Request} (h : targetPath request.target = "/health") :
    let response := (respond tree r options request).value
    (request.method = "GET" ∨ request.method = "HEAD" → response.status = 200) ∧
      (request.method ≠ "GET" ∧ request.method ≠ "HEAD" →
        response.status = 405 ∧ response.body = []) := by
  intro response
  obtain ⟨method, target⟩ := request
  obtain ⟨status, body⟩ := status_respond tree r options ⟨method, target⟩
  rw [answer_of_health tree r h] at status body
  refine ⟨?_, fun ⟨notGet, notHead⟩ => ?_⟩
  · rintro (rfl | rfl)
    · exact status
    · exact status
  · by_cases preflight : method = "OPTIONS"
    · subst preflight
      exact ⟨status, body⟩
    · rw [Method.ofString_other ⟨notGet, notHead, preflight⟩] at status body
      exact ⟨status, body⟩

theorem respond_of_assetPath (tree : FileTree) (r : Registry) (options : ServerOptions)
    {request : Request} (h : AssetPath (targetPath request.target)) :
    let response := (respond tree r options request).value
    (request.method = "GET" ∨ request.method = "HEAD" →
        response.status = 200 ∨ response.status = 404) ∧
      (request.method = "OPTIONS" → response.status = 204 ∧ response.body = []) ∧
      (request.method ≠ "GET" ∧ request.method ≠ "HEAD" ∧ request.method ≠ "OPTIONS" →
        response.status = 405 ∧ response.body = []) := by
  intro response
  obtain ⟨method, target⟩ := request
  obtain ⟨status, body⟩ := status_respond tree r options ⟨method, target⟩
  obtain ⟨get, isAnswer, answered⟩ := answer_of_assetPath tree r h
  rw [answered method] at status body
  refine ⟨?_, ?_, fun other => ?_⟩
  · rw [status]
    rintro (rfl | rfl)
    · exact isAnswer.status
    · exact isAnswer.status
  · rintro rfl
    exact ⟨status, body⟩
  · rw [Method.ofString_other other] at status body
    exact ⟨status, body⟩

theorem respond_of_unknown (tree : FileTree) (r : Registry) (options : ServerOptions)
    {request : Request} (health : targetPath request.target ≠ "/health")
    (asset : ¬ AssetPath (targetPath request.target)) :
    let response := (respond tree r options request).value
    response.status = 404 ∧ response.body = [] := by
  intro response
  obtain ⟨method, target⟩ := request
  obtain ⟨status, body⟩ := status_respond tree r options ⟨method, target⟩
  rw [answer_of_unknown tree r health asset] at status body
  exact ⟨status, body⟩

/-! ### What an answer depends on -/

/-- The requests that load an asset. -/
def Request.Loads (request : Request) : Prop :=
  AssetPath (targetPath request.target) ∧ (request.method = "GET" ∨ request.method = "HEAD")

/-- **What loads no asset is answered alike by all registries and over all files.** -/
theorem answer_congr {request : Request} (h : ¬ request.Loads) (tree tree' : FileTree)
    (r r' : Registry) : answer tree' r' request = answer tree r request := by
  obtain ⟨method, target⟩ := request
  by_cases health : targetPath target = "/health"
  · rw [answer_of_health tree r health, answer_of_health tree' r' health]
  by_cases asset : AssetPath (targetPath target)
  · obtain ⟨get, -, answered⟩ := answer_of_assetPath tree r asset
    obtain ⟨get', -, answered'⟩ := answer_of_assetPath tree' r' asset
    have notGet : method ≠ "GET" := fun e => h ⟨asset, .inl e⟩
    have notHead : method ≠ "HEAD" := fun e => h ⟨asset, .inr e⟩
    rw [answered, answered']
    by_cases preflight : method = "OPTIONS"
    · rw [preflight]
      rfl
    · rw [Method.ofString_other ⟨notGet, notHead, preflight⟩]
      rfl
  · rw [answer_of_unknown tree r health asset, answer_of_unknown tree' r' health asset]

/-- **`HEAD` is `GET` without the body**, and `GET` tells the length of its body. -/
theorem answer_head (tree : FileTree) (r : Registry) (target : String) :
    (answer tree r ⟨"HEAD", target⟩).value = (answer tree r ⟨"GET", target⟩).value.withoutBody ∧
      (answer tree r ⟨"GET", target⟩).value.TellsLength := by
  by_cases health : targetPath target = "/health"
  · rw [answer_of_health tree r health, answer_of_health tree r health]
    exact ⟨rfl, Response.tellsLength_of ..⟩
  by_cases asset : AssetPath (targetPath target)
  · obtain ⟨get, isAnswer, answered⟩ := answer_of_assetPath tree r asset
    rw [answered, answered]
    exact ⟨rfl, isAnswer.tellsLength⟩
  · rw [answer_of_unknown tree r health asset, answer_of_unknown tree r health asset]
    exact ⟨rfl, Response.tellsLength_of ..⟩

/-- **Every request has its answer, and none is an error of the server.**  Whatever the
method, the target, the registry and the files, the status is 200, 204, 404 or 405.

* On `/health`, `GET` and `HEAD` get 200 and every other method 405.
* On `/components` and all that begins with `/components/`, `GET` and `HEAD` get 200 or 404,
  `OPTIONS` 204 and every other method 405.
* On any other path every method gets 404.

A response that is neither to `GET` nor to `HEAD`, or is to an unknown path, has no body.
Only `GET` and `HEAD` on an asset path look at the registry and the files.  And `HEAD` is
answered with the status and the headers of `GET`, the length of the body included, and
without the body. -/
theorem respond_classified (tree : FileTree) (r : Registry) (options : ServerOptions)
    (request : Request) :
    let path := targetPath request.target
    let response := (respond tree r options request).value
    (response.status = 200 ∨ response.status = 204 ∨ response.status = 404 ∨
      response.status = 405) ∧
    (path = "/health" →
      (request.method = "GET" ∨ request.method = "HEAD" → response.status = 200) ∧
      (request.method ≠ "GET" ∧ request.method ≠ "HEAD" →
        response.status = 405 ∧ response.body = [])) ∧
    (AssetPath path →
      (request.method = "GET" ∨ request.method = "HEAD" →
        response.status = 200 ∨ response.status = 404) ∧
      (request.method = "OPTIONS" → response.status = 204 ∧ response.body = []) ∧
      (request.method ≠ "GET" ∧ request.method ≠ "HEAD" ∧ request.method ≠ "OPTIONS" →
        response.status = 405 ∧ response.body = [])) ∧
    (path ≠ "/health" → ¬ AssetPath path → response.status = 404 ∧ response.body = []) ∧
    (¬ request.Loads → ∀ tree' r',
      respond tree' r' options request = respond tree r options request) ∧
    let get := (respond tree r options ⟨"GET", request.target⟩).value
    let head := (respond tree r options ⟨"HEAD", request.target⟩).value
    head.status = get.status ∧ head.headers = get.headers ∧ head.body = [] ∧
      get.headers.get? "content-length" = some (toString get.body.length) := by
  intro path response
  refine ⟨?_, respond_of_health tree r options, respond_of_assetPath tree r options,
    respond_of_unknown tree r options, fun silent tree' r' => ?_, ?_⟩
  · by_cases health : path = "/health"
    · obtain ⟨allowed, refused⟩ := respond_of_health tree r options health
      by_cases loads : request.method = "GET" ∨ request.method = "HEAD"
      · exact .inl (allowed loads)
      · exact .inr (.inr (.inr (refused (not_or.1 loads)).1))
    by_cases asset : AssetPath path
    · obtain ⟨loaded, preflight, refused⟩ := respond_of_assetPath tree r options asset
      by_cases loads : request.method = "GET" ∨ request.method = "HEAD"
      · exact (loaded loads).imp id fun missing => .inr (.inl missing)
      by_cases asks : request.method = "OPTIONS"
      · exact .inr (.inl (preflight asks).1)
      · obtain ⟨notGet, notHead⟩ := not_or.1 loads
        exact .inr (.inr (.inr (refused ⟨notGet, notHead, asks⟩).1))
    · exact .inr (.inr (.inl (respond_of_unknown tree r options health asset).1))
  · rw [respond, respond, answer_congr silent]
  · intro get head
    obtain ⟨sameHead, tells⟩ := answer_head tree r request.target
    have heads : head = get.withoutBody := by
      rw [show head = _ from value_respond .., show get = _ from value_respond .., sameHead,
        Response.under_withoutBody]
    have length : get.TellsLength := by
      rw [show get = _ from value_respond ..]
      exact tells.under options
    rw [heads]
    exact ⟨rfl, rfl, rfl, length⟩

end

attribute [local instance] Platform.atRoot

/-- Paths and methods that are almost right: a letter more, a slash more, an escaped letter,
a method in lower case.  A tail that is not UTF-8 is as good as any other, and a query is no
part of a path. -/
theorem respond_classified_of_lookalikes :
    let response := fun method target => (respond .empty .empty ⟨true⟩ ⟨method, target⟩).value
    (response "GET" "/componentsx").status = 404 ∧ (response "GET" "//components/x").status = 404 ∧
      (response "OPTIONS" "/%63omponents/x").status = 404 ∧
      (response "get" "/components").status = 405 ∧ (response "OPTIONS" "/health?x").status = 405 ∧
      (response "OPTIONS" "/components/%FF?x").status = 204 ∧
      ((response "HEAD" "/components/%FF").status = 200 ∨
        (response "HEAD" "/components/%FF").status = 404) ∧
      (response "HEAD" "/health").headers = (response "GET" "/health").headers := by
  intro response
  have classified := fun method target =>
    respond_classified .empty .empty ⟨true⟩ ⟨method, target⟩
  refine ⟨?_, ?_, ?_, ?_, ?_, ?_, ?_, ?_⟩
  · exact ((classified "GET" "/componentsx").2.2.2.1 (by decide) (by decide)).1
  · exact ((classified "GET" "//components/x").2.2.2.1 (by decide) (by decide)).1
  · exact ((classified "OPTIONS" "/%63omponents/x").2.2.2.1 (by decide) (by decide)).1
  · exact (((classified "get" "/components").2.2.1 (by decide)).2.2 (by decide)).1
  · exact (((classified "OPTIONS" "/health?x").2.1 (by decide)).2 (by decide)).1
  · exact (((classified "OPTIONS" "/components/%FF?x").2.2.1 (by decide)).2.1 rfl).1
  · exact ((classified "HEAD" "/components/%FF").2.2.1 (by decide)).1 (.inr rfl)
  · exact (classified "HEAD" "/health").2.2.2.2.2.2.1

end Http
end ComponentHost
