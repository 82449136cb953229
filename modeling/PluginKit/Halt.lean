/-!
# Fatal errors

An error after which the application must not go on.  It carries the name of the module that reports
it, if there is one, and a message.
-/

namespace PluginKit

/-- A fatal error. -/
structure Halt where
  origin : Option String
  message : String
  deriving DecidableEq, Repr

/-- The error on one line: its origin in brackets, then its message. -/
def Halt.text (h : Halt) : String :=
  match h.origin with
  | some origin => s!"[{origin}] {h.message}"
  | none => h.message

/-- The exit code of a program that ends by a fatal error. -/
def Halt.exitCode : Nat :=
  70

end PluginKit
