/-
# Sessions

A session is a host at work: a file tree, a registry and a page, changed one
action at a time.  Every action is answered, and the answer says what a caller of
the operation would see.

| Action | Changes |
|--------|---------|
| `change` | the file tree |
| `register`, `declare` | the registry |
| `call`, `report` | the page |
| all others | nothing |
-/

import ComponentHost.Http.Router
import ComponentHost.Instance.Page

namespace ComponentHost

/-- The state of a host. -/
structure Session where
  files : FileTree
  registry : Registry
  page : Page

namespace Session

/-- What can be asked of a host. -/
inductive Action where
  | change (changes : List FileTree.Change)
  | register (c : Declaration)
  | declare (caller : Caller) (path : Option Path) (url : Option String)
  | get (name : String)
  | directory (name : String)
  | names
  | load (request : String)
  | http (options : Http.ServerOptions) (request : Http.Request)
  | call (c : Declaration) (steps : List (Call.Step Table)) (disposition : Disposition)
  /-- Reports a value for an identity, by default the one asked for last. -/
  | report (identity : Option String) (value : Option Json.Value)

/-- What a host answers. -/
inductive Reply where
  | changed
  | registered (result : Except Error Outcome)
  | declared (result : Except Error Declaration)
  | found (c : Option Declaration)
  | directory (path : Option Path)
  | names (names : List String)
  | loaded (result : Except Error Asset)
  | responded (response : Http.Response)
  /-- The result of a call, the queries it made and the nodes it added. -/
  | called (result : Except Error InstanceValue) (queries : List Query)
      (nodes : List (String × Node))
  /-- How many identities have a value. -/
  | reported (count : Nat)

/-- An answer, the session after it and what was logged. -/
structure Turn where
  reply : Reply
  session : Session
  log : List LogLine

/-- The session that begins with a file tree. -/
def begin (files : FileTree) : Session := ⟨files, .empty, .empty⟩

variable [Platform]

/-- Carries out an action. -/
def act (s : Session) : Action → Turn
  | .change changes => ⟨.changed, { s with files := s.files.applyAll changes }, []⟩
  | .register c =>
    let registration := s.registry.register s.files c
    ⟨.registered registration.result, { s with registry := registration.registry },
      registration.log⟩
  | .declare caller path url =>
    let (result, registry, log) := s.registry.declare s.files caller path url
    ⟨.declared result, { s with registry := registry }, log⟩
  | .get name => ⟨.found (s.registry.get? name), s, []⟩
  | .directory name => ⟨.directory (s.registry.directory? name), s, []⟩
  | .names => ⟨.names s.registry.names, s, []⟩
  | .load request =>
    let loaded := Asset.load s.files s.registry request
    ⟨.loaded loaded.value, s, loaded.log⟩
  | .http options request =>
    let response := Http.respond s.files s.registry options request
    ⟨.responded response.value, s, response.log⟩
  | .call c steps disposition =>
    let creation := c.create (Page.host disposition) (Call.ofSteps steps) s.page
    ⟨.called creation.result (creation.state.queries.drop s.page.queries.length)
      (creation.state.nodes.drop s.page.nodes.length), { s with page := creation.state },
      creation.log⟩
  | .report identity value =>
    let page := match identity.or s.page.lastIdentity? with
      | some i => s.page.report i value
      | none => s.page
    ⟨.reported page.values.size, { s with page := page }, []⟩

/-- The session after actions. -/
def after (s : Session) (actions : List Action) : Session :=
  actions.foldl (fun s a => (s.act a).session) s

end Session
end ComponentHost
