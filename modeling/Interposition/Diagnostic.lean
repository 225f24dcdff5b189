/-
  Errors as people meet them: a sentence, a stable code, and sometimes a piece of advice or the
  failure to decode a text that lies beneath.
-/
import Interposition.Json.Decode

namespace Interposition

/-- What an error says about itself. -/
class Diagnostic (ε : Type) where
  /-- The sentence that describes the error. -/
  message : ε → String
  /-- The code that names the kind of error. -/
  code : ε → String
  /-- Advice on what to do about it. -/
  help : ε → Option String := fun _ => none
  /-- The decoding failure that caused the error, which its sentence leaves out. -/
  cause : ε → Option Failure := fun _ => none

/-! ## Diagnostics as documents -/

/-- A failure as a document: its category, and the detail of a text that is only of the wrong
    shape. -/
def Failure.toJson : Failure → Json
  | .fault .truncated => .object [("category", .text "eof")]
  | .fault .malformed => .object [("category", .text "syntax")]
  | .data detail => .object [("category", .text "data"), ("detail", .text detail)]

/-- A diagnostic as the members of a document. -/
def Diagnostic.members {ε : Type} [Diagnostic ε] (e : ε) : List (String × Json) :=
  [("error", .text (code e)), ("message", .text (message e))]
    ++ ((cause e).map fun failure => ("cause", failure.toJson)).toList

end Interposition
