/-
# A page as a host

A page remembers the values that were reported for identities, the nodes that
were added and the queries that were made, the latest last.  Its sink builds a
node and keeps it; three other dispositions show how a sink may go wrong.

| Disposition | Node built | Node kept | Returned |
|-------------|------------|-----------|----------|
| `keep` | yes | yes | the instance's value |
| `rejectBefore` | no | no | a configuration error |
| `rejectAfter` | yes | no | a usage error |
| `withholdValue` | yes | yes | no value |
-/

import ComponentHost.Instance.Create

namespace ComponentHost

/-- A table: its rows encoded, or the failure that encoding it reports. -/
inductive Table where
  | rows (data : Bytes)
  | failing (argument message : String)
  deriving DecidableEq, Repr

/-- The octets of a table, or its failure. -/
def Table.encode : Table → Except Error Bytes
  | .rows data => .ok data
  | .failing argument message => .error (.tableEncoding argument message)

/-- Reported values by identity, the nodes on the page and the queries made. -/
structure Page where
  values : ByName Json.Value
  nodes : List (String × Node)
  queries : List Query

/-- What a page's sink does with a node. -/
inductive Disposition where
  | keep
  | rejectBefore
  | rejectAfter
  | withholdValue
  deriving DecidableEq, Repr

namespace Page

/-- The page without values and nodes. -/
def empty : Page := ⟨.empty, [], []⟩

/-- Looks the value of an identity up and remembers the query. -/
def lookUp (query : Query) (page : Page) : Option Json.Value × Page :=
  (page.values.get? query.identity, { page with queries := page.queries ++ [query] })

/-- Adds a node at the end. -/
def add (page : Page) (kind : String) (node : Node) : Page :=
  { page with nodes := page.nodes ++ [(kind, node)] }

/-- Takes a new node as a disposition says. -/
def enqueue (disposition : Disposition) (kind : String) (build : NodeBuilder Page) (page : Page) :
    Except Error InstanceValue × Page :=
  match disposition with
  | .keep =>
    let (node, value, page) := build page
    (.ok value, page.add kind node)
  | .rejectBefore => (.error (.configuration "sink closed"), page)
  | .rejectAfter =>
    let (_, _, page) := build page
    (.error (.usage "sink full"), page)
  | .withholdValue =>
    let (node, _, page) := build page
    (.ok .noValue, page.add kind node)

/-- The host that a page is. -/
def host (disposition : Disposition) : Host Page Table :=
  ⟨Table.encode, lookUp, enqueue disposition⟩

/-- Reports a value for an identity, or takes the reported one away. -/
def report (page : Page) (identity : String) (value : Option Json.Value) : Page :=
  match value with
  | some v => { page with values := page.values.insert identity v }
  | none => { page with values := page.values.erase identity }

/-- The identity that was asked for last. -/
def lastIdentity? (page : Page) : Option String := page.queries.getLast?.map (·.identity)

end Page
end ComponentHost
