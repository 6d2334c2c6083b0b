/-
What is shown of a value: a text as itself at the top, and quoted inside a list or a dictionary.
-/
import OtpRegistrar.Value.Kind
namespace OtpRegistrar.Value

mutual
/-- The quoted form of a value, on one line. -/
def quoted : Value → Text
  | null => "None"
  | bool b => if b then "True" else "False"
  | int n => Integer.text n
  | float x => x.text
  | text t => t.quoted
  | bytes bs => Text.quotedBytes bs
  | list items => "[" ++ Text.join ", " (quotedItems items) ++ "]"
  | dict entries => "\x7b" ++ Text.join ", " (quotedEntries entries) ++ "\x7d"
  | logger name => "<Logger " ++ name ++ ">"
/-- The quoted forms of list items. -/
def quotedItems : List Value → List Text
  | [] => []
  | x :: xs => quoted x :: quotedItems xs
/-- The quoted forms of dictionary entries. -/
def quotedEntries : List (Value × Value) → List Text
  | [] => []
  | (k, v) :: rest => (quoted k ++ ": " ++ quoted v) :: quotedEntries rest
end

/-- What is shown of a value by itself. -/
def shown : Value → Text
  | text t => t
  | v => v.quoted

end OtpRegistrar.Value
