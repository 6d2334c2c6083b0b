/-
The value that a bare text stands for.

A text is a number only if it is exactly how that number would be written: leading zeros, a plus
sign, underscores, blanks and foreign digits leave it a text. `true`, `false` and `none` are read in
any case. So no text is altered by the conversion.
-/
import OtpRegistrar.Value.Shown
import OtpRegistrar.Text.Casing
namespace OtpRegistrar.Value

/-- The whole number that is written exactly like the text. -/
def canonicalInt? (t : Text) : Option Int :=
  match Integer.read t with
  | .ok n => if Integer.text n = t then some n else none
  | .error _ => none

/-- The binary64 number that is written exactly like the text. -/
def canonicalFloat? (t : Text) : Option Double :=
  match Double.ofText? t with
  | some x => if x.text = t then some x else none
  | none => none

/-- The constant that the text spells in some case. -/
def constant? (t : Text) : Option Value :=
  let lower := Text.lower t
  if lower = Text.ofString "true" then some (bool true)
  else if lower = Text.ofString "false" then some (bool false)
  else if lower = Text.ofString "none" then some null
  else none

/-- The value of a bare text: a whole number, a binary64 number, a constant or the text itself. -/
def ofScalar (t : Text) (ints floats : Bool := true) : Value :=
  match if ints then canonicalInt? t else none with
  | some n => int n
  | none =>
    match if floats then canonicalFloat? t else none with
    | some x => float x
    | none => (constant? t).getD (text t)

end OtpRegistrar.Value
