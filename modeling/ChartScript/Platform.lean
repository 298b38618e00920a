import ChartScript.Document.Fault
import ChartScript.Fault

/-!
# Platforms

Some of what a command shows is not its own: how a trace looks, what the reader of a document format
says about a bad document, how deep its values may be nested, and what a double dash behind a switch
means.  These differ from one platform to the next, and a command takes them as they are.
-/

set_option autoImplicit false

namespace ChartScript

/-- What a command takes from the platform that it runs on. -/
structure Platform where
  /-- The number of levels of nested values that can be open at a time. -/
  maxNesting : Nat := Nesting.usualLimit
  /-- Whether a double dash attached to a switch is dropped. -/
  dropsDoubleDash : Bool := true
  /-- What the reader of a format says about a text that is no document. -/
  complaint : DocumentFormat → Text → Text := fun format _ => "no " ++ format.name ++ " document"
  /-- The trace of the failure that ended in a fault. -/
  trace : Fault → Text := Fault.message

end ChartScript
