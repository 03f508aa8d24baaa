/-
# The registry of components

A registry holds at most one declaration per name; the last registration wins.
A local component can be registered only while its directory is there.

| Before | Outcome | Logged |
|--------|---------|--------|
| nothing under the name | `inserted` | `Registered component …` |
| an equal declaration | `unchanged` | `Registered component …` |
| another declaration | `replaced` | a warning naming both, then the same |
| the directory is missing | a configuration error | nothing |

Registering puts the new declaration in place in each of the first three cases,
so its spelling is kept even when it is equal to the former one.
-/

import ComponentHost.ByName
import ComponentHost.Caller
import ComponentHost.Declaration
import ComponentHost.FileTree
import ComponentHost.Log

namespace ComponentHost

/-- The declarations of a host, by name. -/
structure Registry where
  declarations : ByName Declaration

/-- What a registration did. -/
inductive Outcome where
  | inserted
  | unchanged
  | replaced (previous : Declaration)
  deriving DecidableEq, Repr

/-- The result of a registration, the registry after it and what was logged. -/
structure Registration where
  result : Except Error Outcome
  registry : Registry
  log : List LogLine

namespace Registry

/-- The registry without components. -/
def empty : Registry := ⟨.empty⟩

/-- The declaration registered under a name. -/
def get? (r : Registry) (name : String) : Option Declaration := r.declarations.get? name

/-- The directory of a local component; remote ones have none. -/
def directory? [Platform] (r : Registry) (name : String) : Option Path :=
  (r.get? name).bind Declaration.directory?

/-- The registered names, in increasing order. -/
def names (r : Registry) : List String := r.declarations.names

/-- How many components are registered. -/
def size (r : Registry) : Nat := r.declarations.size

/-- Whether no component is registered. -/
def isEmpty (r : Registry) : Bool := r.declarations.entries.isEmpty

/-- The directory that a declaration needs and that is not there. -/
def missing? [Platform] (tree : FileTree) (c : Declaration) : Option Path :=
  c.directory?.filter fun directory => !tree.isDirectory directory

/-- What putting a declaration in place of a former one amounts to. -/
def outcomeOver (previous : Option Declaration) (c : Declaration) : Outcome :=
  match previous with
  | none => .inserted
  | some d => if d.SameAs c then .unchanged else .replaced d

/-- What is logged about putting a declaration in place. -/
def announce (c : Declaration) : Outcome → List LogLine
  | .replaced previous =>
    [⟨.warn, c.display ++ " overriding previously-registered " ++ previous.display⟩,
      ⟨.info, "Registered component " ++ c.display⟩]
  | _ => [⟨.info, "Registered component " ++ c.display⟩]

variable [Platform]

/-- Registers a declaration, unless its directory is missing. -/
def register (tree : FileTree) (r : Registry) (c : Declaration) : Registration :=
  match missing? tree c with
  | some directory => ⟨.error (.missingDirectory directory.toText), r, []⟩
  | none =>
    let outcome := outcomeOver (r.get? c.name) c
    ⟨.ok outcome, ⟨r.declarations.insert c.name c⟩, announce c outcome⟩

/-- Declares a component named after its caller and registers it.  The result is
the declaration. -/
def declare (tree : FileTree) (r : Registry) (caller : Caller) (path : Option Path)
    (url : Option String) : Except Error Declaration × Registry × List LogLine :=
  match Declaration.ofOptions caller.componentName path url with
  | .error e => (.error e, r, [])
  | .ok c =>
    let registration := register tree r c
    (registration.result.map fun _ => c, registration.registry, registration.log)

/-- **A registration touches one name only.** -/
theorem get?_register (tree : FileTree) (r : Registry) (c : Declaration) (name : String) :
    (register tree r c).registry.get? name =
      if missing? tree c = none ∧ name = c.name then some c else r.get? name := by
  unfold register
  split
  · rename_i h
    simp [h]
  · rename_i h
    simp [h, get?, ByName.get?_insert]

end Registry
end ComponentHost
