/-
What the program shows to its user.

Errors go to the error output, on a host with colours in that of errors; a prefix and the line end
stay outside of the colour. A value that is no text is laid out on lines of its own, but an error is
shown on one.
-/
import OtpRegistrar.Host.Basic
import OtpRegistrar.Value.Layout
namespace OtpRegistrar.Action

/-- How something is shown. -/
structure Style where
  /-- What stands in front; null for nothing. -/
  pre : Value := .null
  newline : Bool := true
  toErrors : Bool := false

/-- The text of a value that is shown by itself. -/
def textOf : Value → Text
  | .text t => t
  | v => v.laidOut

/-- What stands in front of a shown value. -/
def prefixOf : Value → Text
  | .null => []
  | v => v.shown

/-- Shows a value. -/
def display (v : Value) (style : Style := {}) : Action Unit :=
  let t := prefixOf style.pre ++ textOf v ++ (if style.newline then Text.newline else [])
  note (if style.toErrors then .reported t else .printed t)

/-- An error as a screen shows it. -/
def errorText (s : Screen) (v : Value) : Text :=
  if s.colors then s.palette.error ++ v.shown ++ s.palette.reset else v.shown

/-- Shows an error; without `colored` it is laid out like anything else. -/
def displayError (v : Value) (colored : Bool := true) (style : Style := {}) : Action Unit := do
  let screen ← read (·.screen)
  display (if colored then .text (errorText screen v) else v) { style with toErrors := true }

/-- Shows a line. -/
def say (t : Text) : Action Unit := display (.text t)

/-- Shows a line of an error. -/
def complain (t : Text) : Action Unit := displayError (.text t)

end OtpRegistrar.Action
