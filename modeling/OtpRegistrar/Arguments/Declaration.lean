/-
Declarations of command-line arguments, and the syntax text that declares them.

A syntax text is a list of pairs: the spellings of an argument joined by bars, and a value
specification between colons. Two colons mark a required argument, `!` a sensitive value, `file:` a
path, and `name=text` a flag that stands for the value of `text`. Reading and writing are kept side
by side, so that what one writes the other reads.
-/
import OtpRegistrar.Arguments.Delimited
import OtpRegistrar.Text.Blank
import OtpRegistrar.Value.Scalar
namespace OtpRegistrar

/-- A declared argument: how it may be spelt, the variable it sets, the text of the value it stands
for if it is a flag, and whether it is required, sensitive or a path. -/
structure Argument where
  spelling : Text
  aliases : List Text
  variableName : Text
  flag : Option Text
  required : Bool
  sensitive : Bool
  isFile : Bool
  deriving DecidableEq, Inhabited

namespace Argument

/-- All spellings, the primary one first. -/
def spellings (a : Argument) : List Text := a.spelling :: a.aliases

/-- The value that a flag stands for. -/
def flagValue (a : Argument) : Value :=
  match a.flag with
  | some t => Value.ofScalar t
  | none => .null

/-- What is shown of an argument; its value is never shown. -/
def shown (a : Argument) : Text :=
  "<Argument " ++ a.spelling ++ " (" ++ a.variableName ++ ")>"

/-- The first argument with the given spelling or variable. -/
def find? (arguments : List Argument) (name : Text) : Option Argument :=
  arguments.find? fun a => a.spellings.contains name || name == a.variableName

/-- The primary spelling for a variable, or the variable itself if nothing sets it. -/
def spellingOf (arguments : List Argument) (name : Text) : Text :=
  match find? arguments name with
  | some a => a.spelling
  | none => name

/-- All spellings of arguments with a sensitive value. -/
def sensitiveSpellings (arguments : List Argument) : List Text :=
  (arguments.filter (·.sensitive)).flatMap spellings

/-! ### Reading a syntax text -/

/-- Why a text declares no arguments. -/
inductive Flaw where
  | notAnOption (word : Text)
  | duplicate (spelling : Text)
  | missingSpec (word : Text)
  | badSpec (word : Text)
  deriving DecidableEq

/-- What is shown of a flaw. -/
def Flaw.message : Flaw → Text
  | .notAnOption w => "Unknown parameter in command template: " ++ w
  | .duplicate s => "Duplicate option in command template: " ++ s
  | .missingSpec w => "Missing value spec in command template: " ++ w
  | .badSpec w => "Invalid value spec in command template: " ++ w

/-- The declaration that spellings and a value specification make. -/
def ofSpec (spelling : Text) (aliases : List Text) (spec : Text) : Except Flaw Argument :=
  let body : Option (Bool × Text) :=
    match Delimited.strip? "::" "::" spec with
    | some body => some (true, body)
    | none => (Delimited.strip? ":" ":" spec).map (false, ·)
  match body with
  | none => .error (.badSpec spec)
  | some (required, body) =>
    let (sensitive, body) := Delimited.takeMark "!" body
    let (isFile, body) := Delimited.takeMark "file:" body
    match Text.splitFirst? (.char '=') body with
    | none => .ok ⟨spelling, aliases, body, none, required, sensitive, isFile⟩
    | some (name, flag) => .ok ⟨spelling, aliases, name, some flag, required, sensitive, isFile⟩

/-- Adds spellings to those seen, or finds the first that has been seen. -/
def addSpellings (seen : List Text) : List Text → Except Flaw (List Text)
  | [] => .ok seen
  | s :: rest => if seen.contains s then .error (.duplicate s) else addSpellings (seen ++ [s]) rest

/-- Reads the words of a syntax text, some spellings having been seen. -/
def ofWords (seen : List Text) : List Text → Except Flaw (List Argument)
  | [] => .ok []
  | word :: rest =>
    if !word.startsWith "-" then .error (.notAnOption word)
    else
      let spellings := Text.splitOn (.char '|') word
      match addSpellings seen spellings with
      | .error e => .error e
      | .ok seen =>
        match rest with
        | [] => .error (.missingSpec word)
        | spec :: rest =>
          match ofSpec (spellings.headD []) spellings.tail spec with
          | .error e => .error e
          | .ok a => (ofWords seen rest).map (a :: ·)

/-- The arguments that a syntax text declares. -/
def ofSyntax (t : Text) : Except Flaw (List Argument) := ofWords [] (Text.words t)

/-! ### Writing a syntax text -/

/-- The value specification of an argument. -/
def spec (a : Argument) : Text :=
  let delimiter : Text := if a.required then "::" else ":"
  let mark (present : Bool) (t : Text) : Text := if present then t else []
  let value : Text := match a.flag with | some t => "=" ++ t | none => []
  delimiter ++ mark a.sensitive "!" ++ mark a.isFile "file:" ++ a.variableName ++ value ++ delimiter

/-- The two words that declare an argument. -/
def toWords (a : Argument) : List Text := [Text.join "|" a.spellings, a.spec]

/-- The syntax text that declares the arguments. -/
def toSyntax (arguments : List Argument) : Text := Text.join " " (arguments.flatMap toWords)

end Argument

end OtpRegistrar
