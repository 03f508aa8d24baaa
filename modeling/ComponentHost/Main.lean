/-
# The server's command line

Follows the arguments and answers requests from standard input on standard
output, as `CommandLine.Feed` says.  All decisions are made by `CommandLine.run`
and `Server.respond`; what is left here is reading and printing.
-/

import ComponentHost.CommandLine.Feed
import ComponentHost.CommandLine.StartUp

namespace ComponentHost
namespace CommandLine

/-- A line of standard input without its end; `none` at the end of the input. -/
def readLine? (input : IO.FS.Stream) : IO (Option String) := do
  let line ← input.getLine
  return if line.isEmpty then none else some (String.ofList (line.toList.filter (· ≠ '\n')))

/-- Reads what the file tree holds, up to an empty line. -/
partial def readTree (input : IO.FS.Stream) (tree : FileTree) : IO FileTree := do
  match ← readLine? input with
  | none => return tree
  | some line =>
    if line.isEmpty then return tree
    else readTree input (tree.applyAll (changeOfLine? line).toList)

/-- Prints the lines of a log that a server shows. -/
def printLog (shows : LogLine → Bool) (log : List LogLine) : IO Unit :=
  (log.filter shows).forM fun line => IO.println line.printed

/-- Answers requests until the input ends. -/
partial def serveLines [Platform] (input : IO.FS.Stream) (tree : FileTree) (server : Server) :
    IO Unit := do
  match ← readLine? input with
  | none => return
  | some line =>
    if let some request := requestOfLine? line then
      let answer := server.respond tree request
      printLog server.shows answer.log
      (responseLines answer.value).forM fun line => IO.println line
    serveLines input tree server

end CommandLine
end ComponentHost

attribute [local instance] ComponentHost.Platform.atRoot in
/-- Runs the server, in the root directory and with the listed media types only. -/
def main (arguments : List String) : IO UInt32 := do
  let input ← IO.getStdin
  let understood := (ComponentHost.CommandLine.Options.parse arguments).toOption.isSome
  let tree ← if understood then ComponentHost.CommandLine.readTree input .empty else pure .empty
  let launch := ComponentHost.CommandLine.run tree arguments
  match launch.value with
  | .exited code output errors =>
    ComponentHost.CommandLine.printLog (·.level ≠ .debug) launch.log
    unless output.isEmpty do IO.println output
    unless errors.isEmpty do IO.eprintln errors
    return code.toUInt32
  | .started server =>
    ComponentHost.CommandLine.printLog server.shows launch.log
    IO.println ("SERVER_PORT=" ++ toString server.options.port)
    ComponentHost.CommandLine.serveLines input tree server
    return 0
