/-
The page that a command shows as its help.

A page has a line on how the command is used, a description, a table of options, and examples.
Options that stand in front of every command are listed with those commands that ask for it.
-/
import OtpRegistrar.Help.Table
namespace OtpRegistrar.Help

/-- What a command shows as its help. -/
structure Page where
  usage : Option Text := none
  description : Option Text := none
  options : List (Text × Text) := []
  /-- Are the options in front of every command listed too? -/
  listsGlobal : Bool := false
  examples : List (Text × Text) := []

namespace Page

/-- The row of an option. -/
def optionRow (option : Text × Text) : Row := ("   " ++ option.1, "\t- " ++ option.2)

/-- The rows of the options of a command. -/
def optionRows (p : Page) : List Row :=
  if p.options.isEmpty then [] else ("Options:", []) :: p.options.map optionRow

/-- The rows of the options in front of every command. -/
def globalRows (globalOptions : List (Text × Text)) (p : Page) : List Row :=
  if p.listsGlobal then ([], []) :: ("Global options:", []) :: globalOptions.map optionRow else []

/-- The lines that show the examples of a command. -/
def exampleLines (command : Text) (p : Page) : List Text :=
  if p.examples.isEmpty then []
  else
    [[], "Examples:"] ++ p.examples.flatMap fun (line, description) =>
      ["   " ++ command ++ " " ++ line, "\t- " ++ description]

/-- The page of a command as a text, an error at its end if there is one. -/
def render (globalOptions : List (Text × Text)) (command : Text) (p : Page)
    (error : Option Text) : Text :=
  let rows := p.optionRows ++ p.globalRows globalOptions
  Text.join Text.newline
    (p.usage.toList ++ [[]] ++ p.description.toList ++
      (if rows.isEmpty then [] else [[], table rows]) ++
      p.exampleLines command ++
      (match error with | none => [] | some t => [[], t]))

end Page

end OtpRegistrar.Help
