/-
Hiding sensitive values in a command line.

The token behind a sensitive spelling is a value and is hidden, and so is what follows the equals
sign of a token that begins with one.
-/
import OtpRegistrar.Text.Basic
namespace OtpRegistrar.Redaction

/-- What stands in the place of a hidden value. -/
def mark : Text := "***REDACTED***"

/-- A token that is no hidden value; a value joined to a sensitive spelling is hidden. -/
def hideInline (sensitive : List Text) (token : Text) : Text :=
  match Text.splitFirst? (.char '=') token with
  | some (option, _) => if sensitive.contains option then option ++ "=" ++ mark else token
  | none => token

/-- Hides the sensitive values of a line; `isValue` says whether the first token is one. -/
def hideFrom (sensitive : List Text) (isValue : Bool) : List Text → List Text
  | [] => []
  | token :: rest =>
    if isValue then mark :: hideFrom sensitive false rest
    else if sensitive.contains token then token :: hideFrom sensitive true rest
    else hideInline sensitive token :: hideFrom sensitive false rest

/-- Hides the sensitive values of a command line. -/
def hide (sensitive line : List Text) : List Text := hideFrom sensitive false line

end OtpRegistrar.Redaction
