/-
The text of a configuration file.

A file is a sequence of assignments `NAME=value`. Blank lines and lines that begin with `#` are
passed over. A bare value stands for a number, a constant or itself. A value in single or double
quotes is always a text; it may go on over several lines until one ends with the same quote. Of two
assignments to one name the later counts, in the place of the first.
-/
import OtpRegistrar.Text.Blank
import OtpRegistrar.Value.Scalar
namespace OtpRegistrar.ConfigFile

/-- Parameters with their values, each name once, in the order in which they first came. -/
abbrev Entries := List (Text × Value)

/-- Why a text is no configuration file. -/
inductive Flaw where
  | noAssignment (line : Text)
  | unclosedQuote (name : Text)
  deriving DecidableEq

/-- What is shown of a flaw. -/
def Flaw.message : Flaw → Text
  | .noAssignment line => "Wrong config file format: " ++ line
  | .unclosedQuote name => "Missing closing quotation mark for parameter: " ++ name

/-- Stores a value under a name; a name that is there keeps its place. -/
def Entries.set (name : Text) (value : Value) : Entries → Entries
  | [] => [(name, value)]
  | (n, v) :: rest =>
    if n = name then (n, value) :: rest else (n, v) :: Entries.set name value rest

/-- The value stored under a name. -/
def Entries.get? (entries : Entries) (name : Text) : Option Value :=
  (entries.find? (·.1 == name)).map (·.2)

/-- What a line outside of quotes says. -/
inductive Line where
  | nothing
  | assignment (name : Text) (value : Value)
  /-- A quoted value begins that does not end on this line. -/
  | opening (name : Text) (quote : Symbol) (start : Text)
  | noAssignment

/-- Is the symbol a quotation mark? -/
def isQuote (s : Symbol) : Bool := s == .char '"' || s == .char '\''

/-- What a line says, trailing carriage returns having been taken off. -/
def Line.ofText (line : Text) : Line :=
  let body := line.strip
  if body.isEmpty || body.startsWith "#" then .nothing
  else match Text.splitFirst? (.char '=') line with
    | none => .noAssignment
    | some (name, value) =>
      match value.strip with
      | [] => .assignment name.strip (.text [])
      | s :: rest =>
        if isQuote s then
          if rest.getLast? = some s then .assignment name.strip (.text rest.dropLast)
          else .opening name.strip s rest
        else .assignment name.strip (Value.ofScalar (s :: rest))

/-- A quoted value that is still open: its parameter, its quote and its lines so far. -/
structure Open where
  name : Text
  quote : Symbol
  lines : List Text

/-- Reads the lines of a file; only parameters that `keep` accepts are stored. -/
def readLines (keep : Text → Bool) : Option Open → Entries → List Text → Except Flaw Entries
  | none, entries, [] => .ok entries
  | some o, _, [] => .error (.unclosedQuote o.name)
  | some o, entries, line :: rest =>
    let line := Text.stripRightOf (.char '\r') line
    if line.getLast? = some o.quote then
      let value := Value.text (Text.join Text.newline (o.lines ++ [line.dropLast]))
      readLines keep none (if keep o.name then entries.set o.name value else entries) rest
    else readLines keep (some { o with lines := o.lines ++ [line] }) entries rest
  | none, entries, line :: rest =>
    let line := Text.stripRightOf (.char '\r') line
    match Line.ofText line with
    | .nothing => readLines keep none entries rest
    | .noAssignment => .error (.noAssignment line)
    | .opening name quote start => readLines keep (some ⟨name, quote, [start]⟩) entries rest
    | .assignment name value =>
      readLines keep none (if keep name then entries.set name value else entries) rest

/-- The lines of a text, without the line feeds between them. -/
def linesOf (t : Text) : List Text := Text.splitOn (.char '\n') t

/-- The assignments of a configuration file. -/
def read (t : Text) : Except Flaw Entries := readLines (fun _ => true) none [] (linesOf t)

/-- The assignments to the listed parameters; an empty list stands for all. -/
def readOnly (names : List Text) (t : Text) : Except Flaw Entries :=
  if names.isEmpty then read t else readLines names.contains none [] (linesOf t)

/-- A line, or several, that assign a text in double quotes. -/
def quotedAssignment (name value : Text) : Text := name ++ "=\"" ++ value ++ "\""

/-- The file that assigns the given texts. -/
def write (assignments : List (Text × Text)) : Text :=
  Text.join Text.newline (assignments.map fun (name, value) => quotedAssignment name value)

end OtpRegistrar.ConfigFile
