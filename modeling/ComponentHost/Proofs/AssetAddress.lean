/-
# Addresses lead to what they address

A text is sent as a path by escaping some of its octets: those that a path cannot hold,
those with a meaning of their own, and any others (`Escaped`).  A server undoes the escapes
once, so whichever octets were escaped, the same text arrives (`unescape?_of_escaped`), and
what looks like an escape in that text stays as it is.

| Step | Says |
|------|------|
| `targetPath_append_query` | the query is cut off, and nothing else |
| `route_componentUrl` | the route of an address keeps the file's text, still escaped |
| `answer_get_of_clean` | what arrives is what was written, still escaped |
| `answer_get_componentUrl` | the text that arrives is the one that was escaped |
| `entries_served`, `entries_notFound` | the headers of either answer |

So `GET` on the address of a text answers with what `Asset.load` makes of it
(`respond_get_componentUrl`).
-/

import ComponentHost.Http.Router
import ComponentHost.Proofs.Bindings
import ComponentHost.Proofs.Utf8

namespace ComponentHost

/-- A request that gets no asset gets an error with its text and a reason. -/
theorem Asset.exists_reason [Platform] {tree : FileTree} {r : Registry} {text : String} {e : Error}
    (h : (load tree r text).value = .error e) : ∃ reason, e = .assetNotFound text reason := by
  rw [load] at h
  cases found : find tree r (.parse text) with
  | ok asset =>
    rw [found] at h
    cases h
  | error refusal =>
    rw [found] at h
    exact ⟨refusal.reason, (Except.error.inj h).symm⟩

namespace Http

/-! ### Escapes -/

/-- Octets that a path cannot hold as themselves: they open an escape, the query and the
fragment. -/
def Reserved (b : UInt8) : Prop := b = percent ∨ b = 0x3F ∨ b = 0x23

instance : DecidablePred Reserved := fun _ => inferInstanceAs (Decidable (_ ∨ _ ∨ _))

/-- `Escaped octets written`: the octets are written with some of them escaped, by digits of
either case, and the others as themselves. -/
inductive Escaped : Bytes → Bytes → Prop
  | nil : Escaped [] []
  | kept {b : UInt8} {octets written : Bytes} (free : ¬ Reserved b)
      (rest : Escaped octets written) : Escaped (b :: octets) (b :: written)
  | escape {b high low : UInt8} {octets written : Bytes}
      (hhigh : hexOctet? high = some (b.toNat / 16)) (hlow : hexOctet? low = some (b.toNat % 16))
      (rest : Escaped octets written) : Escaped (b :: octets) (percent :: high :: low :: written)

theorem unescapeOctets_cons {b : UInt8} (h : b ≠ percent) (rest : Bytes) :
    unescapeOctets (b :: rest) = b :: unescapeOctets rest := by
  match rest with
  | [] => rfl
  | [_] => rfl
  | _ :: _ :: _ => rw [unescapeOctets, if_neg h]

/-- **Undoing the escapes gives the octets back.** -/
theorem unescapeOctets_of_escaped {octets written : Bytes} (h : Escaped octets written) :
    unescapeOctets written = octets := by
  induction h with
  | nil => rfl
  | kept free _ ih =>
    have plain : _ ≠ percent := fun e => free (.inl e)
    rw [unescapeOctets_cons plain, ih]
  | @escape b high low octets written hhigh hlow _ ih =>
    have value : 16 * (b.toNat / 16) + b.toNat % 16 = b.toNat := Nat.div_add_mod ..
    rw [unescapeOctets, if_pos rfl, hhigh, hlow]
    simp only [value, UInt8.ofNat_toNat, ih]

/-- A hexadecimal digit means nothing else. -/
theorem not_delimiter_of_hexOctet? {b : UInt8} {n : Nat} (h : hexOctet? b = some n) :
    b ≠ 0x3F ∧ b ≠ 0x23 := by
  constructor
  · rintro rfl
    exact absurd (h.symm.trans (by decide : hexOctet? 0x3F = none)) (by simp)
  · rintro rfl
    exact absurd (h.symm.trans (by decide : hexOctet? 0x23 = none)) (by simp)

/-- What is written opens no query and no fragment. -/
theorem not_delimiter_of_escaped {octets written : Bytes} (h : Escaped octets written) :
    ∀ b ∈ written, b ≠ 0x3F ∧ b ≠ 0x23 := by
  induction h with
  | nil => exact fun _ => nofun
  | kept free _ ih =>
    intro b hb
    rcases List.mem_cons.1 hb with rfl | hb
    · exact ⟨fun e => free (.inr (.inl e)), fun e => free (.inr (.inr e))⟩
    · exact ih b hb
  | escape hhigh hlow _ ih =>
    intro b hb
    rcases List.mem_cons.1 hb with rfl | hb
    · decide
    rcases List.mem_cons.1 hb with rfl | hb
    · exact not_delimiter_of_hexOctet? hhigh
    rcases List.mem_cons.1 hb with rfl | hb
    · exact not_delimiter_of_hexOctet? hlow
    · exact ih b hb

/-- **The text arrives as it was**, whichever of its octets were escaped. -/
theorem unescape?_of_escaped {text written : String}
    (h : Escaped (Utf8.encode text) (Utf8.encode written)) : unescape? written = some text := by
  rw [unescape?, unescapeOctets_of_escaped h, Utf8.decode?_encode]

/-- What is written opens no query and no fragment, as characters. -/
theorem not_delimiter_of_mem {text written : String}
    (h : Escaped (Utf8.encode text) (Utf8.encode written)) :
    ∀ c ∈ written.toList, c ≠ '?' ∧ c ≠ '#' := by
  intro c hc
  constructor
  · rintro rfl
    have octet := (Utf8.mem_encode_iff (by decide : '?'.toNat < 0x80)).2 hc
    exact (not_delimiter_of_escaped h _ octet).1 rfl
  · rintro rfl
    have octet := (Utf8.mem_encode_iff (by decide : '#'.toNat < 0x80)).2 hc
    exact (not_delimiter_of_escaped h _ octet).2 rfl

/-! ### Routes -/

/-- **A query is cut off a path, and nothing else.** -/
theorem targetPath_append_query {path query : String} (rooted : path.toList.head? = some '/')
    (clean : ∀ c ∈ path.toList, c ≠ '?' ∧ c ≠ '#')
    (hquery : query = "" ∨ ∃ q, query = "?" ++ q) : targetPath (path ++ query) = path := by
  have all : ∀ c ∈ path.toList, decide (c ≠ '?' ∧ c ≠ '#') = true := fun c hc => by
    simpa using clean c hc
  have front : (path ++ query).toList.head? = some '/' := by
    rw [String.toList_append, List.head?_append, rooted]
    rfl
  have before : beforeQuery (path ++ query).toList = path.toList := by
    rw [beforeQuery, String.toList_append, List.takeWhile_append_of_pos all]
    rcases hquery with rfl | ⟨q, rfl⟩
    · simp
    · simp
  have notStar : (path ++ query).toList ≠ ['*'] := fun e => by
    rw [e] at front
    exact absurd (Option.some.inj front) (by decide)
  simp only [targetPath, if_neg notStar, if_pos front, before, String.ofList_toList]

theorem stripFront?_append (front rest : List Char) :
    stripFront? front (front ++ rest) = some rest := by
  have isFront : front.isPrefixOf (front ++ rest) = true :=
    List.isPrefixOf_iff_prefix.2 (List.prefix_append ..)
  rw [stripFront?, if_pos isFront, List.drop_left]

theorem toList_address (fileId : String) :
    ("/" ++ componentUrl fileId).toList =
      ('/' :: Settings.routePrefix.toList) ++ '/' :: fileId.toList := by
  simp [componentUrl]

theorem components_append (fileId : String) :
    "/components/" ++ fileId = "/" ++ componentUrl fileId := by
  rw [componentUrl, ← String.append_assoc]
  rfl

/-- **The route of an address keeps the file's text as it is.** -/
theorem route_componentUrl (fileId : String) :
    route ("/" ++ componentUrl fileId) = if fileId = "" then .assets else .asset fileId := by
  have notHealth : "/" ++ componentUrl fileId ≠ "/health" := fun e => by
    have second := congrArg (fun s => s.toList[1]?) e
    rw [toList_address] at second
    exact absurd second (by simp [Settings.routePrefix])
  rw [route, if_neg notHealth, toList_address, stripFront?_append]
  by_cases none : fileId = ""
  · rw [none, if_pos rfl]
    rfl
  · rw [if_neg none]
    obtain ⟨c, cs, hcs⟩ := List.exists_cons_of_ne_nil (mt String.toList_eq_nil_iff.1 none)
    have whole : String.ofList (c :: cs) = fileId := by rw [← hcs, String.ofList_toList]
    rw [hcs]
    exact congrArg Route.asset whole

/-- The bare prefix leads where the address of the empty text leads. -/
theorem route_routePrefix : route ("/" ++ Settings.routePrefix) = .assets := by
  decide

/-! ### Answers -/

/-- The front of an address opens no query and no fragment. -/
theorem not_delimiter_of_mem_routePrefix :
    ∀ c ∈ '/' :: Settings.routePrefix.toList, c ≠ '?' ∧ c ≠ '#' := by
  simp [Settings.routePrefix]

section

variable [Platform]

/-- **What is written behind the prefix arrives with its escapes**, unless it opens a query or
a fragment. -/
theorem answer_get_of_clean (tree : FileTree) (r : Registry) {written query : String}
    (clean : ∀ c ∈ written.toList, c ≠ '?' ∧ c ≠ '#')
    (hquery : query = "" ∨ ∃ q, query = "?" ++ q) :
    answer tree r ⟨"GET", "/" ++ componentUrl written ++ query⟩ =
      serveEscaped tree r ("/" ++ componentUrl written) written := by
  have rooted : ("/" ++ componentUrl written).toList.head? = some '/' := by
    rw [toList_address]
    rfl
  have cleanPath : ∀ c ∈ ("/" ++ componentUrl written).toList, c ≠ '?' ∧ c ≠ '#' := by
    intro c hc
    rw [toList_address] at hc
    rcases List.mem_append.1 hc with hc | hc
    · exact not_delimiter_of_mem_routePrefix c hc
    rcases List.mem_cons.1 hc with rfl | hc
    · decide
    · exact clean c hc
  simp only [answer, targetPath_append_query rooted cleanPath hquery, route_componentUrl]
  by_cases none : written = ""
  · -- The route without a request loads what an empty request stands for.
    have nothing : unescape? "" = some "" := by decide
    rw [if_pos none, none, serveEscaped, nothing]
    rfl
  · rw [if_neg none]
    rfl

/-- An address with a query is answered like the text it was made of. -/
theorem answer_get_componentUrl (tree : FileTree) (r : Registry) {text written query : String}
    (h : Escaped (Utf8.encode text) (Utf8.encode written))
    (hquery : query = "" ∨ ∃ q, query = "?" ++ q) :
    answer tree r ⟨"GET", "/" ++ componentUrl written ++ query⟩ = serve tree r text := by
  rw [answer_get_of_clean tree r (not_delimiter_of_mem h) hquery, serveEscaped,
    unescape?_of_escaped h]

/-- The bare prefix is answered like the empty text. -/
theorem answer_get_routePrefix (tree : FileTree) (r : Registry) {query : String}
    (hquery : query = "" ∨ ∃ q, query = "?" ++ q) :
    answer tree r ⟨"GET", "/" ++ Settings.routePrefix ++ query⟩ = serve tree r "" := by
  have path : targetPath ("/" ++ Settings.routePrefix ++ query) = "/" ++ Settings.routePrefix :=
    targetPath_append_query (by decide) not_delimiter_of_mem_routePrefix hquery
  simp only [answer, path, route_routePrefix]
  rfl

end

/-- The header that a host with cross-origin use adds to every response. -/
def crossOriginHeaders (options : ServerOptions) : List (String × String) :=
  if options.allowCrossOrigin then [("access-control-allow-origin", "*")] else []

/-- The response to a request whose answer is known. -/
def Response.under (options : ServerOptions) (response : Response) : Response :=
  if options.allowCrossOrigin then response.withHeader "access-control-allow-origin" "*"
  else response

theorem value_respond [Platform] (tree : FileTree) (r : Registry) (options : ServerOptions)
    (request : Request) :
    (respond tree r options request).value = (answer tree r request).value.under options := by
  rw [respond, Response.under]
  split <;> rfl

/-- The header of cross-origin use stands before those that come after it. -/
theorem entries_under (options : ServerOptions) {response : Response} {name value : String}
    {rest : List (String × String)} (h : response.headers.entries = (name, value) :: rest)
    (first : "access-control-allow-origin" < name) :
    (response.under options).headers.entries =
      crossOriginHeaders options ++ (name, value) :: rest := by
  rw [Response.under, crossOriginHeaders]
  split
  · change ByName.insertEntry _ "*" response.headers.entries = _
    rw [h, ByName.insertEntry_ahead first]
    rfl
  · exact h

theorem entries_served (options : ServerOptions) (asset : Asset) :
    ((served asset).under options).headers.entries = crossOriginHeaders options ++
      [("cache-control", asset.cacheControl), ("content-length", toString asset.body.length),
        ("content-type", asset.contentType)] := by
  refine entries_under options ?_ (by decide)
  simp only [served, contentType, Response.of, List.foldl_cons, List.foldl_nil, ByName.insert,
    ByName.empty, ByName.insertEntry.eq_1]
  rw [ByName.insertEntry_ahead (by decide), ByName.insertEntry_behind (by decide),
    ByName.insertEntry_ahead (by decide)]

theorem entries_notFound (options : ServerOptions) (e : Error) :
    ((notFound e).under options).headers.entries = crossOriginHeaders options ++
      [("content-length", toString (Utf8.encode e.message).length),
        ("content-type", "text/plain; charset=utf-8")] := by
  refine entries_under options ?_ (by decide)
  simp only [notFound, contentType, Response.of, List.foldl_cons, List.foldl_nil, ByName.insert,
    ByName.empty, ByName.insertEntry.eq_1]
  rw [ByName.insertEntry_ahead (by decide)]

theorem status_under (options : ServerOptions) (response : Response) :
    (response.under options).status = response.status ∧
      (response.under options).body = response.body := by
  rw [Response.under]
  split <;> exact ⟨rfl, rfl⟩

theorem value_serve [Platform] (tree : FileTree) (r : Registry) (text : String) :
    (serve tree r text).value =
      match (Asset.load tree r text).value with
      | .ok asset => served asset
      | .error e => notFound e := by
  rw [serve, Logged.value_bind]
  cases (Asset.load tree r text).value <;> rfl

/-- **The address of a text is answered with what loading the text gives.**  Let some
octets of a text be escaped, all but the reserved ones being free to stay.  Then `GET` on
the address of what was written, with or without a query, gives 200 with the asset's body,
media type and cache policy if the text has an asset, and otherwise 404 with the text, a
blank and the reason.  The text is the one that was escaped: escapes are undone once, so
those that it holds itself stay.  A host with cross-origin use adds its one header.  And the
bare prefix is answered like the address of the empty text. -/
theorem respond_get_componentUrl [Platform] (tree : FileTree) (r : Registry)
    (options : ServerOptions) (text written query : String)
    (h : Escaped (Utf8.encode text) (Utf8.encode written))
    (hquery : query = "" ∨ ∃ q, query = "?" ++ q) :
    (let response :=
       (respond tree r options ⟨"GET", "/" ++ componentUrl written ++ query⟩).value
     match (Asset.load tree r text).value with
     | .ok asset =>
       response.status = 200 ∧ response.body = asset.body ∧
         response.headers.entries = crossOriginHeaders options ++
           [("cache-control", asset.cacheControl), ("content-length", toString asset.body.length),
             ("content-type", asset.contentType)]
     | .error e =>
       ∃ reason, e = .assetNotFound text reason ∧ response.status = 404 ∧
         response.body = Utf8.encode (text ++ " " ++ reason) ∧
         response.headers.entries = crossOriginHeaders options ++
           [("content-length", toString (Utf8.encode (text ++ " " ++ reason)).length),
             ("content-type", "text/plain; charset=utf-8")]) ∧
    (respond tree r options ⟨"GET", "/" ++ Settings.routePrefix ++ query⟩).value =
      (respond tree r options ⟨"GET", "/" ++ componentUrl "" ++ query⟩).value := by
  constructor
  · rw [value_respond, answer_get_componentUrl tree r h hquery, value_serve]
    cases loaded : (Asset.load tree r text).value with
    | ok asset =>
      obtain ⟨status, body⟩ := status_under options (served asset)
      exact ⟨status, body, entries_served options asset⟩
    | error e =>
      obtain ⟨reason, rfl⟩ := Asset.exists_reason loaded
      obtain ⟨status, body⟩ := status_under options (notFound (.assetNotFound text reason))
      exact ⟨reason, rfl, status, body, entries_notFound options _⟩
  · have nothing : Escaped (Utf8.encode "") (Utf8.encode "") := .nil
    rw [value_respond, value_respond, answer_get_routePrefix tree r hquery,
      answer_get_componentUrl tree r nothing hquery]

attribute [local instance] Platform.atRoot

/-- A file whose name looks like an escape is served under its address, and not the file
whose name that escape would spell. -/
theorem respond_get_componentUrl_of_lookalike :
    let tree : FileTree :=
      { entries := [([Utf8.encode "b"], .directory),
        ([Utf8.encode "b", Utf8.encode "%41?"], .file [7]),
        ([Utf8.encode "b", Utf8.encode "A?"], .file [8])] }
    let r : Registry := ⟨.insert .empty "é" (.ofPath "é" (.ofString "b"))⟩
    let response := (respond tree r ⟨true⟩
      ⟨"GET", "/" ++ componentUrl "%C3%a9/%2541%3f" ++ "?q=/health"⟩).value
    Escaped (Utf8.encode "é/%41?") (Utf8.encode "%C3%a9/%2541%3f") ∧
      response.status = 200 ∧ response.body = [7] ∧
      response.headers.entries =
        [("access-control-allow-origin", "*"), ("cache-control", "public"),
          ("content-length", "1"), ("content-type", "application/octet-stream")] := by
  intro tree r response
  have written : Escaped (Utf8.encode "é/%41?") (Utf8.encode "%C3%a9/%2541%3f") :=
    .escape rfl rfl <| .escape rfl rfl <| .kept (by decide) <| .escape rfl rfl <|
      .kept (by decide) <| .kept (by decide) <| .escape rfl rfl .nil
  have answered := (respond_get_componentUrl tree r ⟨true⟩ _ _ "?q=/health" written
    (.inr ⟨"q=/health", rfl⟩)).1
  have loaded : (Asset.load tree r "é/%41?").value =
      .ok ⟨.ofString "/b/%41?", [7], "application/octet-stream", "public"⟩ := rfl
  rw [loaded] at answered
  exact ⟨written, answered⟩

end Http
end ComponentHost
