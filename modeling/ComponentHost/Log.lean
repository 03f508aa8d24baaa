/-
# Log lines

Operations do not print.  What they have to say is a list of lines beside their
result, in order, and whoever runs them decides which levels to show.  A line that
is printed has the controls in its message written out (`LogLine.printed`).
-/

import ComponentHost.Text.Terminal

namespace ComponentHost

/-- How much a log line matters. -/
inductive Level where
  | debug
  | info
  | warn
  deriving DecidableEq, Repr

/-- The name of a level. -/
def Level.name : Level → String
  | .debug => "DEBUG"
  | .info => "INFO"
  | .warn => "WARN"

/-- A message of some level. -/
structure LogLine where
  level : Level
  message : String
  deriving DecidableEq, Repr

/-- The level's name, a blank, and the message. -/
def LogLine.text (line : LogLine) : String := line.level.name ++ " " ++ line.message

/-- The line as it is printed, fit to be shown on a terminal. -/
def LogLine.printed (line : LogLine) : String :=
  line.level.name ++ " " ++ Terminal.guarded line.message

/-- A result, with the lines that were logged on the way to it. -/
structure Logged (α : Type) where
  value : α
  log : List LogLine

namespace Logged

instance : Monad Logged where
  pure a := ⟨a, []⟩
  bind x f := ⟨(f x.value).value, x.log ++ (f x.value).log⟩

/-- Logs one line. -/
def say (level : Level) (message : String) : Logged Unit := ⟨(), [⟨level, message⟩]⟩

@[simp] theorem value_pure {α : Type} (a : α) : (pure a : Logged α).value = a := rfl

@[simp] theorem log_pure {α : Type} (a : α) : (pure a : Logged α).log = [] := rfl

@[simp] theorem value_bind {α β : Type} (x : Logged α) (f : α → Logged β) :
    (x >>= f).value = (f x.value).value := rfl

@[simp] theorem log_bind {α β : Type} (x : Logged α) (f : α → Logged β) :
    (x >>= f).log = x.log ++ (f x.value).log := rfl

end Logged
end ComponentHost
