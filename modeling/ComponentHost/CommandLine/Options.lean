/-
# Command line options

| Option | Value | Repeatable |
|--------|-------|------------|
| `-p`, `--port` | a number up to 65535, by default 0 | no |
| `--host` | any text, by default `127.0.0.1` | no |
| `-d`, `--debug` | none | no |
| `--allow-cross-origin` | none | no |
| `--component` | `NAME=DIR` | yes |
| `--remote-component` | `NAME=URL` | yes |
| `-h`, `--help` | none | ends the reading |

Arguments are read from left to right.  A value stands after `=`, directly after
a short option, or in the next argument, which then must not look like an option.
A value in an argument of its own is checked only when the next option has been
recognised, or at the end; so an argument that is no option at all is reported
first.

The text of a usage error is made for a terminal: what was given stands out in it.
-/

import ComponentHost.Text.Terminal

namespace ComponentHost
namespace CommandLine

/-- The options. -/
inductive Flag where
  | port
  | host
  | debug
  | allowCrossOrigin
  | component
  | remoteComponent
  | help
  deriving DecidableEq, Repr

/-- The name of an option after two dashes. -/
def Flag.long : Flag → String
  | .port => "port"
  | .host => "host"
  | .debug => "debug"
  | .allowCrossOrigin => "allow-cross-origin"
  | .component => "component"
  | .remoteComponent => "remote-component"
  | .help => "help"

/-- What an option's value is called, if it takes one. -/
def Flag.valueName? : Flag → Option String
  | .port => some "PORT"
  | .host => some "HOST"
  | .component => some "COMPONENTS"
  | .remoteComponent => some "REMOTE_COMPONENTS"
  | .debug | .allowCrossOrigin | .help => none

/-- All options. -/
def Flag.all : List Flag :=
  [.port, .host, .debug, .allowCrossOrigin, .component, .remoteComponent, .help]

/-- The option with a long name. -/
def Flag.ofLong? (name : String) : Option Flag := Flag.all.find? (·.long = name)

/-- The option with a short name. -/
def Flag.ofShort? (c : Char) : Option Flag :=
  if c = 'p' then some .port
  else if c = 'd' then some .debug
  else if c = 'h' then some .help
  else none

/-- How an option is shown in messages. -/
def Flag.display (flag : Flag) : String :=
  match flag.valueName? with
  | some value => "--" ++ flag.long ++ " <" ++ value ++ ">"
  | none => "--" ++ flag.long

/-- Why a text is no port. -/
inductive PortError where
  | empty
  | notDigits
  | tooLarge
  | tooSmall
  | outOfRange (n : Int)
  deriving DecidableEq, Repr

/-- The text of a port error. -/
def PortError.message : PortError → String
  | .empty => "cannot parse integer from empty string"
  | .notDigits => "invalid digit found in string"
  | .tooLarge => "number too large to fit in target type"
  | .tooSmall => "number too small to fit in target type"
  | .outOfRange n => toString n ++ " is not in 0..=65535"

/-- What is wrong with a command line. -/
inductive UsageError where
  | unexpectedArgument (argument : String)
  | missingValue (flag : Flag)
  | invalidPort (value : String) (cause : PortError)
  | invalidPair (flag : Flag) (value : String)
  | repeated (flag : Flag)
  | unexpectedValue (flag : Flag) (value : String)
  deriving DecidableEq, Repr

/-- A part of a command line that is wrong, in quotes and standing out. -/
def wrong (given : String) : String := "'" ++ Terminal.emphasised Terminal.yellow given ++ "'"

/-- An option in quotes and standing out. -/
def Flag.quoted (flag : Flag) : String :=
  "'" ++ Terminal.emphasised Terminal.bold flag.display ++ "'"

/-- What an invalid value is answered with. -/
def invalidValue (flag : Flag) (value reason : String) : String :=
  "invalid value " ++ wrong value ++ " for " ++ flag.quoted ++ ": " ++ reason

/-- What a usage error says. -/
def UsageError.message : UsageError → String
  | .unexpectedArgument argument => "unexpected argument " ++ wrong argument ++ " found"
  | .missingValue flag => "a value is required for " ++ flag.quoted ++ " but none was supplied"
  | .invalidPort value cause => invalidValue .port value cause.message
  | .invalidPair flag value =>
    invalidValue flag value ("expected NAME=VALUE, got '" ++ value ++ "'")
  | .repeated flag => "the argument " ++ flag.quoted ++ " cannot be used multiple times"
  | .unexpectedValue flag value =>
    "unexpected value " ++ wrong value ++ " for " ++ flag.quoted ++
      " found; no more were expected"

/-- The text of a usage error, with a hint where to look. -/
def UsageError.text (e : UsageError) : String :=
  Terminal.emphasised Terminal.red "error:" ++ " " ++ e.message ++
    "\n\nFor more information, try '" ++ Terminal.emphasised Terminal.bold "--help" ++ "'."

/-- Why reading options stops early. -/
inductive Stop where
  | help
  | usage (e : UsageError)
  deriving DecidableEq, Repr

/-! ### Values -/

/-- Reads digits into a number with a sign, within 64 bits. -/
def readInteger (negative : Bool) : Int → List Char → Except PortError Int
  | n, [] => .ok n
  | n, c :: cs =>
    if c.isDigit then
      let digit : Int := c.toNat - '0'.toNat
      let next := if negative then 10 * n - digit else 10 * n + digit
      if 0x8000000000000000 ≤ next then .error .tooLarge
      else if next < -0x8000000000000000 then .error .tooSmall
      else readInteger negative next cs
    else .error .notDigits

/-- Reads a port: an optional sign and digits, from 0 to 65535. -/
def readPort (text : String) : Except PortError Nat := do
  let n ← match text.toList with
    | [] => .error .empty
    | ['+'] | ['-'] => .error .notDigits
    | '+' :: cs => readInteger false 0 cs
    | '-' :: cs => readInteger true 0 cs
    | cs => readInteger false 0 cs
  if 0 ≤ n ∧ n ≤ 65535 then .ok n.toNat else .error (.outOfRange n)

/-- Splits a text at its first `=` into a name and a value, neither of them empty. -/
def splitPair? (text : String) : Option (String × String) :=
  let cs := text.toList
  let name := cs.takeWhile (· ≠ '=')
  let value := (cs.dropWhile (· ≠ '=')).drop 1
  if name = [] ∨ value = [] then none else some (String.ofList name, String.ofList value)

/-! ### Reading the arguments -/

/-- The options given so far. -/
structure Given where
  port : Option Nat
  host : Option String
  debug : Bool
  allowCrossOrigin : Bool
  components : List (String × String)
  remoteComponents : List (String × String)
  deriving DecidableEq, Repr

/-- No options. -/
def Given.none : Given := ⟨.none, .none, false, false, [], []⟩

/-- An option whose value is not settled yet. -/
inductive Pending where
  | nothing
  /-- The value should be the next argument. -/
  | awaiting (flag : Flag)
  /-- The value was an argument of its own and is still to be checked. -/
  | holding (flag : Flag) (value : String)
  deriving DecidableEq, Repr

/-- Stops with a usage error. -/
def refuse {α : Type} (e : UsageError) : Except Stop α := .error (.usage e)

/-- Gives an option without a value. -/
def Given.raise (given : Given) : Flag → Except Stop Given
  | .help => .error .help
  | .debug => if given.debug then refuse (.repeated .debug) else .ok { given with debug := true }
  | .allowCrossOrigin =>
    if given.allowCrossOrigin then refuse (.repeated .allowCrossOrigin)
    else .ok { given with allowCrossOrigin := true }
  | flag => refuse (.missingValue flag)

/-- Gives an option a value.  That an option may be given only once comes before
what is wrong with the value. -/
def Given.set (given : Given) (flag : Flag) (value : String) : Except Stop Given :=
  match flag with
  | .port =>
    if given.port.isSome then refuse (.repeated .port)
    else match readPort value with
      | .ok n => .ok { given with port := some n }
      | .error cause => refuse (.invalidPort value cause)
  | .host =>
    if given.host.isSome then refuse (.repeated .host)
    else .ok { given with host := some value }
  | .component =>
    match splitPair? value with
    | some pair => .ok { given with components := given.components ++ [pair] }
    | .none => refuse (.invalidPair .component value)
  | .remoteComponent =>
    match splitPair? value with
    | some pair => .ok { given with remoteComponents := given.remoteComponents ++ [pair] }
    | .none => refuse (.invalidPair .remoteComponent value)
  | flag => refuse (.unexpectedValue flag value)

/-- Settles the option in hand. -/
def Given.settle (given : Given) : Pending → Except Stop Given
  | .nothing => .ok given
  | .awaiting flag => refuse (.missingValue flag)
  | .holding flag value => given.set flag value

/-- Reads the short options of an argument, after its dash. -/
def readShort (given : Given) (pending : Pending) : List Char → Except Stop (Given × Pending)
  | [] => .ok (given, pending)
  | c :: cs =>
    match Flag.ofShort? c with
    | .none => refuse (.unexpectedArgument (String.ofList ['-', c]))
    | some flag => do
      let given ← given.settle pending
      if flag.valueName?.isNone then readShort (← given.raise flag) .nothing cs
      else match cs with
        | [] => return (given, .awaiting flag)
        | '=' :: value => return (← given.set flag (String.ofList value), .nothing)
        | value => return (← given.set flag (String.ofList value), .nothing)

/-- Reads a long option, after its dashes, with the value after `=` if there is one. -/
def readLong (given : Given) (pending : Pending) (name : String) (value : Option String) :
    Except Stop (Given × Pending) :=
  match Flag.ofLong? name with
  | .none => refuse (.unexpectedArgument ("--" ++ name))
  | some flag =>
    match flag.valueName?, value with
    | .none, some value => refuse (.unexpectedValue flag value)
    | .none, .none => do return (← (← given.settle pending).raise flag, .nothing)
    | some _, some value => do return (← (← given.settle pending).set flag value, .nothing)
    | some _, .none => do return (← given.settle pending, .awaiting flag)

/-- The shapes of an argument. -/
inductive Shape where
  /-- Two dashes alone: no options follow. -/
  | escape
  | long (name : String) (value : Option String)
  | short (flags : List Char)
  | plain
  deriving DecidableEq, Repr

/-- The shape of an argument; a dash alone is plain. -/
def Shape.of (argument : String) : Shape :=
  match argument.toList with
  | ['-', '-'] => .escape
  | '-' :: '-' :: cs =>
    .long (String.ofList (cs.takeWhile (· ≠ '=')))
      (match cs.dropWhile (· ≠ '=') with
        | '=' :: value => some (String.ofList value)
        | _ => .none)
  | '-' :: c :: cs => .short (c :: cs)
  | _ => .plain

/-- Reads arguments, with an option in hand. -/
def readArguments (given : Given) (pending : Pending) : List String → Except Stop Given
  | [] => given.settle pending
  | argument :: rest =>
    match Shape.of argument with
    | .escape =>
      match rest with
      | [] => given.settle pending
      | stray :: _ => refuse (.unexpectedArgument stray)
    | .long name value => do
      let (given, pending) ← readLong given pending name value
      readArguments given pending rest
    | .short flags => do
      let (given, pending) ← readShort given pending flags
      readArguments given pending rest
    | .plain =>
      match pending with
      | .awaiting flag => readArguments given (.holding flag argument) rest
      | _ => refuse (.unexpectedArgument argument)

/-- What a server is started with. -/
structure Options where
  port : Nat
  host : String
  debug : Bool
  allowCrossOrigin : Bool
  /-- Names and directories, in the order given. -/
  components : List (String × String)
  /-- Names and addresses, in the order given. -/
  remoteComponents : List (String × String)
  deriving DecidableEq, Repr

/-- The options given, with the defaults of those that were not. -/
def Given.options (given : Given) : Options :=
  ⟨given.port.getD 0, given.host.getD "127.0.0.1", given.debug, given.allowCrossOrigin,
    given.components, given.remoteComponents⟩

/-- The options of a command line, or why it cannot be followed. -/
def Options.parse (arguments : List String) : Except Stop Options :=
  (readArguments .none .nothing arguments).map Given.options

/-- What is shown for `--help`. -/
def helpText : String := String.intercalate "\n" [
  "HTTP server for widgetbay component bundles",
  "",
  "Usage: widgetbay-server [OPTIONS]",
  "",
  "Options:",
  "  -p, --port <PORT>",
  "          Port to listen on (0 = auto-assign) [default: 0]",
  "      --host <HOST>",
  "          Host to bind to [default: 127.0.0.1]",
  "  -d, --debug",
  "          Enable debug logging",
  "      --allow-cross-origin",
  "          Send \x60Access-Control-Allow-Origin: *\x60 on every response",
  "      --component <COMPONENTS>",
  "          Local component to serve, as NAME=DIR (repeatable)",
  "      --remote-component <REMOTE_COMPONENTS>",
  "          Remote component to register, as NAME=URL (repeatable)",
  "  -h, --help",
  "          Print help"]

end CommandLine
end ComponentHost
