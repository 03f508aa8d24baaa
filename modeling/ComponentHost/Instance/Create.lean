/-
# Creating instances

An instance of a component is one node on a host's page.  The host lends three
things: it encodes tables, it knows the value that the browser last reported for
an identity, and it takes new nodes.  A node is not handed over but built when
the host asks for it, and only then is the reported value looked up.

| Situation | Value of the instance |
|-----------|-----------------------|
| a value was reported, `null` included | that value |
| none was, and the call has a default | the default |
| neither | no value |
-/

import ComponentHost.Instance.Identity
import ComponentHost.Settings

namespace ComponentHost

/-- What an instance returns. -/
inductive InstanceValue where
  | noValue
  | value (v : Json.Value)

namespace InstanceValue

/-- The reported value, else the default, else none. -/
def resolve (reported default : Option Json.Value) : InstanceValue :=
  match reported.or default with
  | some v => .value v
  | none => .noValue

/-- Whether there is no value. -/
def isNoValue : InstanceValue → Bool
  | .noValue => true
  | .value _ => false

/-- The value, if there is one. -/
def toOption : InstanceValue → Option Json.Value
  | .noValue => none
  | .value v => some v

@[simp] theorem toOption_resolve (reported default : Option Json.Value) :
    (resolve reported default).toOption = reported.or default := by
  cases reported <;> cases default <;> rfl

end InstanceValue

/-- One instance, as it is rendered. -/
structure Node where
  componentName : String
  /-- The address of a remote component. -/
  url : Option String
  argsJson : String
  argsTables : List TableArgument
  deriving DecidableEq, Repr

/-- What a host is asked when it looks a reported value up. -/
structure Query where
  elementKind : String
  identity : String
  userKey : Option String
  callable : String
  deriving DecidableEq, Repr

/-- Builds a node; doing so looks a value up in the host's state. -/
abbrev NodeBuilder (σ : Type) := σ → Node × InstanceValue × σ

/-- A host with a state of its own and tables of its own. -/
structure Host (σ T : Type) where
  encodeTable : T → Except Error Bytes
  currentValue : Query → σ → Option Json.Value × σ
  /-- Adds a node of a kind; what it returns is what the instance returns. -/
  enqueue : String → NodeBuilder σ → σ → Except Error InstanceValue × σ

/-- The result of creating an instance, the host's state after it and what was logged. -/
structure Creation (σ : Type) where
  result : Except Error InstanceValue
  state : σ
  log : List LogLine

namespace Declaration

variable [Platform] {σ T : Type}

/-- The node of an instance with encoded arguments. -/
def node (c : Declaration) (args : MarshalledArguments) : Node :=
  ⟨c.name, c.url?, args.json, args.tables⟩

/-- The query for the value of an instance. -/
def query (c : Declaration) (key : Option String) (args : MarshalledArguments) : Query :=
  ⟨Settings.elementKind,
    Identity.ofInput (Identity.input Settings.elementKind c (.ofCall key args)), key, c.name⟩

/-- Builds the node of an instance and resolves its value. -/
def build (host : Host σ T) (c : Declaration) (call : Call T) (args : MarshalledArguments) :
    NodeBuilder σ := fun state =>
  let (reported, state) := host.currentValue (c.query call.key args) state
  (c.node args, .resolve reported call.default, state)

/-- Creates an instance: marshals the call, then lets the host enqueue one node. -/
def create (host : Host σ T) (c : Declaration) (call : Call T) (state : σ) : Creation σ :=
  match call.marshal host.encodeTable with
  | .error e => ⟨.error e, state, call.marshalLog⟩
  | .ok args =>
    let (result, state) := host.enqueue Settings.nodeKind (c.build host call args) state
    ⟨result, state, [⟨.debug, "Component " ++ c.name ++ " instance identity " ++
      (c.query call.key args).identity⟩]⟩

end Declaration
end ComponentHost
