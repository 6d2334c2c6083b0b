/-
The kinds of values.

A kind has a name, a home and a parent; only the kind above all others has no parent. Kinds are
values of a kind themselves, and so are rows of them.
-/
import OtpRegistrar.Value.Basic
namespace OtpRegistrar.Value

/-- The kinds of values. -/
inductive Kind where
  | null
  | bool
  | int
  | float
  | text
  | bytes
  | list
  | dict
  | logger
  /-- The kind above all others. -/
  | any
  /-- The kind of kinds. -/
  | kind
  /-- The kind of rows of kinds. -/
  | row
  deriving DecidableEq

/-- The kind of a value. -/
def kind : Value → Kind
  | null => .null
  | bool _ => .bool
  | int _ => .int
  | float _ => .float
  | text _ => .text
  | bytes _ => .bytes
  | list _ => .list
  | dict _ => .dict
  | logger _ => .logger

namespace Kind

/-- The name of a kind. -/
def name : Kind → Text
  | null => "NoneType"
  | bool => "bool"
  | int => "int"
  | float => "float"
  | text => "str"
  | bytes => "bytes"
  | list => "list"
  | dict => "dict"
  | logger => "Logger"
  | any => "object"
  | kind => "type"
  | row => "tuple"

/-- The home of the kinds that everybody knows. -/
def commonHome : Text := "builtins"

/-- The home of a kind. -/
def home : Kind → Text
  | logger => "logging"
  | _ => commonHome

/-- The kind that a kind belongs to. -/
def parent? : Kind → Option Kind
  | any => none
  | bool => some int
  | _ => some any

/-- A kind and all that it belongs to, the nearest first. -/
def lineage : Kind → List Kind
  | any => [any]
  | bool => [bool, int, any]
  | k => [k, any]

/-- What is shown of a kind; the common home goes without saying. -/
def shown (k : Kind) : Text :=
  let home : Text := if k.home = commonHome then [] else k.home ++ "."
  "<class '" ++ home ++ k.name ++ "'>"

end Kind

end OtpRegistrar.Value
