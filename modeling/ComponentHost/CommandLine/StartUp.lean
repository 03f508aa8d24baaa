/-
# Starting up

A server registers the local components in the order given, then the remote ones,
and starts if its address is one.  A registration that fails ends it.

| Command line | Exit code | Shown |
|--------------|-----------|-------|
| `--help` | 0 | the help text |
| not understood | 2 | `error: ` and what is wrong, without orders to a terminal |
| understood, but the start fails | 1 | `Error: ` and why, with the cause below |
-/

import ComponentHost.CommandLine.Options
import ComponentHost.CommandLine.SocketAddress
import ComponentHost.Http.Router
import ComponentHost.Text.Quoted

namespace ComponentHost
namespace CommandLine

/-- Why a server does not start. -/
inductive StartError where
  | registration (name : String) (cause : Error)
  | invalidAddress
  deriving DecidableEq, Repr

/-- A text whose further lines are as far in as the first. -/
def indent (text : String) : String :=
  String.ofList ("    ".toList ++ text.toList.flatMap fun c =>
    if c = '\n' then '\n' :: "    ".toList else [c])

/-- The text of a start error. -/
def StartError.message : StartError → String
  | .registration name cause =>
    "failed to register component '" ++ name ++ "'\n\nCaused by:\n" ++ indent cause.message
  | .invalidAddress => "invalid socket address syntax"

/-- The declarations of a command line: local ones, then remote ones. -/
def Options.declarations (options : Options) : List Declaration :=
  options.components.map (fun e => .ofPath e.1 (.ofString e.2)) ++
    options.remoteComponents.map fun e => .ofUrl e.1 e.2

/-- Registers declarations in order, up to the first that fails. -/
def registerAll [Platform] (tree : FileTree) (r : Registry) :
    List Declaration → Logged (Except StartError Registry)
  | [] => return .ok r
  | c :: rest =>
    let registration := r.register tree c
    match registration.result with
    | .error e => ⟨.error (.registration c.name e), registration.log⟩
    | .ok _ =>
      let later := registerAll tree registration.registry rest
      ⟨later.value, registration.log ++ later.log⟩

/-- Where the server listens, as written. -/
def Options.address (options : Options) : String := options.host ++ ":" ++ toString options.port

/-- The line that tells what is served. -/
def serving (r : Registry) : LogLine :=
  ⟨.info, "Serving " ++ toString r.size ++ " component(s): " ++ Text.quoteAll r.names⟩

/-- Starts a server from an empty registry: the registry it serves, or why it
does not start. -/
def start [Platform] (tree : FileTree) (options : Options) :
    Logged (Except StartError Registry) := do
  Logged.say .info ("Starting " ++ Settings.appName ++ " server")
  match ← registerAll tree .empty options.declarations with
  | .error e => return .error e
  | .ok r =>
    ⟨(), [serving r]⟩
    if isSocketAddress options.address then return .ok r
    else return .error .invalidAddress

/-- A server that was started. -/
structure Server where
  registry : Registry
  options : Options

/-- Answers a request over a connection. -/
def Server.respond [Platform] (server : Server) (tree : FileTree) (request : Http.Request) :
    Logged Http.Response :=
  Http.Response.onWire <$>
    Http.respond tree server.registry ⟨server.options.allowCrossOrigin⟩ request

/-- Whether a line is shown by a server. -/
def Server.shows (server : Server) (line : LogLine) : Bool :=
  server.options.debug || line.level ≠ .debug

/-- What comes of a command line. -/
inductive Launch where
  | started (server : Server)
  | exited (code : Nat) (output errors : String)

/-- Follows a command line. -/
def run [Platform] (tree : FileTree) (arguments : List String) : Logged Launch :=
  match Options.parse arguments with
  | .error .help => return .exited 0 helpText ""
  | .error (.usage e) => return .exited 2 "" (Terminal.plain e.text)
  | .ok options => do
    match ← start tree options with
    | .ok r => return .started ⟨r, options⟩
    | .error e => return .exited 1 "" ("Error: " ++ e.message)

end CommandLine
end ComponentHost
