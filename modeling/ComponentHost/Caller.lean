/-
# Who declares a component

A component that is declared in passing is named after the place that declares
it: a module by its dotted path, so that the name can stand in an address, and a
script by its file's stem.
-/

import ComponentHost.Path

namespace ComponentHost

/-- The place of a declaration: a file, and the module in it if there is one. -/
structure Caller where
  modulePath : Option String
  file : String
  deriving DecidableEq, Repr

namespace Caller

/-- Writes one dot for each pair of colons, from left to right. -/
def dotted : List Char → List Char
  | ':' :: ':' :: rest => '.' :: dotted rest
  | c :: rest => c :: dotted rest
  | [] => []

/-- The stem of a file's name, or the file as given where it has no name. -/
def scriptName (file : String) : String :=
  match (Path.ofString file).fileStem? with
  | some stem => Utf8.decodeLossy stem
  | none => file

/-- The name of a component that is declared here.  An empty module path is none. -/
def componentName (caller : Caller) : String :=
  match caller.modulePath with
  | some path => if path = "" then scriptName caller.file else String.ofList (dotted path.toList)
  | none => scriptName caller.file

example : componentName ⟨some "app::widgets", "x"⟩ = "app.widgets" := by decide
example : componentName ⟨none, "bin/.a.b.c/"⟩ = ".a.b" := by decide

end Caller
end ComponentHost
