/-
Values that are not of the shape that an operation needs.

The configuration and the answers of a server are values of any type, so a key may be missing, a
value may be of the wrong type, and null may stand where a text is needed. Such a defect has a kind
and nothing else that is ever shown.
-/
import OtpRegistrar.Value.Shown
namespace OtpRegistrar

/-- What is wrong with a value. -/
inductive Defect where
  /-- A dictionary lacks a key. -/
  | missingKey
  /-- A value is of the wrong type. -/
  | wrongType
  /-- Null or a value of another type stands where a text or a logger is needed. -/
  | missingAttribute
  /-- A position lies outside of a sequence. -/
  | badIndex
  /-- A part that has to be there is missing from a value that is to be encoded. -/
  | incomplete
  /-- A number is larger than the machine can take. -/
  | tooLarge
  deriving DecidableEq

namespace Defect

/-- The name of a kind of defect. -/
def name : Defect → Text
  | missingKey => "missing key"
  | wrongType => "wrong type"
  | missingAttribute => "missing attribute"
  | badIndex => "position out of range"
  | incomplete => "incomplete value"
  | tooLarge => "number too large"

end Defect

namespace Value

/-- The value under a key of what has to be a dictionary. -/
def field (v : Value) (key : Text) : Except Defect Value :=
  match v with
  | dict entries =>
    match lookup (text key) entries with
    | some value => .ok value
    | none => .error .missingKey
  | _ => .error .wrongType

/-- The value under a key of a dictionary if it counts as true, else null. -/
def fieldOrNull (v : Value) (key : Text) : Value :=
  match v with
  | dict entries => ((lookup (text key) entries).getD null).orNull
  | _ => null

/-- The value under a key of a dictionary; null if there is none. -/
def fieldD (v : Value) (key : Text) : Value :=
  match v with
  | dict entries => (lookup (text key) entries).getD null
  | _ => null

/-- Is the value a number above zero? Only numbers can be compared. -/
def positive (v : Value) : Except Defect Bool :=
  match v with
  | float .nan => .ok false
  | float (.infinite negative) => .ok (!negative)
  | v =>
    match v.ratio? with
    | some (num, _) => .ok (0 < num)
    | none => .error .wrongType

end Value

end OtpRegistrar
