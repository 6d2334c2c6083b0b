/-
The register of what is known about commands.

An entry is a dictionary whose parts go by their names. A part is a value of any type, and only
where a page is made of the entry does it matter what it holds. Registering a command again replaces
the parts that the new entry has and leaves the rest.
-/
import OtpRegistrar.Help.Page
import OtpRegistrar.Value.Part
namespace OtpRegistrar.Help

/-- Why no page can be made of an entry. -/
inductive Flaw where
  /-- A part is not of the type that is needed. -/
  | wrongType
  /-- An example has more than its line and its description. -/
  | tooMany
  /-- An example has only so many of its line and its description. -/
  | tooFew (count : Nat)
  deriving DecidableEq

/-- What is shown of a flaw in an example; the other flaws show nothing. -/
def Flaw.message : Flaw → Text
  | .wrongType => []
  | .tooMany => "too many values to unpack (expected 2)"
  | .tooFew count =>
    "not enough values to unpack (expected 2, got " ++ Integer.text count ++ ")"

/-- What is known about a command: parts under their names. -/
abbrev Entry := List (Text × Value)

namespace Entry

/-- The part with a name. -/
def part? (e : Entry) (name : Text) : Option Value := (e.find? (·.1 == name)).map (·.2)

/-- An entry with a part put in; one that is there is replaced. -/
def put (name : Text) (v : Value) : Entry → Entry
  | [] => [(name, v)]
  | (n, old) :: rest => if n = name then (n, v) :: rest else (n, old) :: put name v rest

/-- An entry with what another one says put in its place. -/
def updatedBy (old new : Entry) : Entry := new.foldl (fun e (name, v) => e.put name v) old

/-- The names of all parts in increasing order. -/
def names (e : Entry) : List Text := Text.sort (e.map (·.1))

/-! ### The names of the parts that matter -/

/-- The part that says how the command is used. -/
def usagePart : Text := "_usage_help"

/-- The part that describes the command. -/
def descriptionPart : Text := "_description"

/-- The part with the options and their descriptions. -/
def optionsPart : Text := "_help"

/-- The part that tells whether the options in front of every command are listed. -/
def globalPart : Text := "_include_global_opts"

/-- The part with examples. -/
def examplesPart : Text := "_examples"

/-- The part with the syntax of the command line. -/
def syntaxPart : Text := "cmd"

/-- The part with the sets of arguments that exclude each other. -/
def exclusivePart : Text := "_exclusive_args"

/-- The part with the arguments that need others. -/
def dependentPart : Text := "_dependent_args"

/-! ### Making a page -/

/-- The options in a part; nothing is listed for what does not count as true. -/
def optionsOf (v : Value) : Except Flaw (List (Text × Text)) :=
  match v with
  | .dict entries => .ok (entries.map fun (option, help) => (option.shown, help.shown))
  | v => if v.truthy then .error .wrongType else .ok []

/-- The line and the description of an example. -/
def exampleOf (v : Value) : Except Flaw (Text × Text) :=
  match v.items? with
  | none => .error .wrongType
  | some [line, description] => .ok (line.shown, description.shown)
  | some items => .error (if 2 < items.length then .tooMany else .tooFew items.length)

/-- The examples in a part; there are none in what does not count as true. -/
def examplesOf (v : Value) : Except Flaw (List (Text × Text)) :=
  if !v.truthy then .ok []
  else
    match v.items? with
    | none => .error .wrongType
    | some items => items.mapM exampleOf

/-- The text in a part, if the part is there. -/
def textOf : Option Value → Except Flaw (Option Text)
  | none => .ok none
  | some (.text t) => .ok (some t)
  | some _ => .error .wrongType

/-- The page of an entry. Options and examples are looked at before the texts around them. -/
def page (e : Entry) : Except Flaw Page := do
  let options ← optionsOf ((e.part? optionsPart).getD .null)
  let examples ← examplesOf ((e.part? examplesPart).getD .null)
  let usage ← textOf (e.part? usagePart)
  let description ← textOf (e.part? descriptionPart)
  let listsGlobal := ((e.part? globalPart).getD .null).truthy
  return { usage, description, options, listsGlobal, examples }

/-- The parts that make up a page. -/
def ofPage (p : Page) : Entry :=
  let pairs (xs : List (Text × Text)) : List (Value × Value) :=
    xs.map fun (a, b) => (.text a, .text b)
  let text (name : Text) (t : Option Text) : Entry := (t.map fun t => (name, Value.text t)).toList
  [(globalPart, .bool p.listsGlobal)] ++ text usagePart p.usage ++
    text descriptionPart p.description ++
    [(optionsPart, .dict (pairs p.options)),
     (examplesPart, .list ((pairs p.examples).map fun (a, b) => .list [a, b]))]

end Entry

/-- All commands by name, and the options in front of every command. -/
structure Registry where
  commands : List (Text × Entry)
  globalOptions : List (Text × Text)

namespace Registry

/-- The options in front of every command. -/
def standardOptions : List (Text × Text) :=
  [("-c <config_file>", "Use alternative config file"),
   ("-l <logfile>", "Log to the given file"),
   ("--version", "Show version"),
   ("-h, --help", "Show this help"),
   ("-v", "Enable verbose mode"),
   ("-d", "Enable debug mode. Multiple 'd' will increase debug level"),
   ("-de", "Print tracebacks."),
   ("-dm", "Print loading of modules"),
   ("-dN", "Debug directory server traffic. Multiple 'N' will increase detail level"),
   ("-dt", "Enable timestamps in debug output"),
   ("--color-logs", "Use colored logs.")]

/-- No command is registered. -/
def empty : Registry := ⟨[], standardOptions⟩

/-- The entry of a command. -/
def find? (r : Registry) (command : Text) : Option Entry :=
  (r.commands.find? (·.1 == command)).map (·.2)

/-- Registers a command, or replaces what the entry says about it. -/
def register (r : Registry) (command : Text) (e : Entry) : Registry :=
  match r.find? command with
  | none => { r with commands := r.commands ++ [(command, Entry.updatedBy [] e)] }
  | some _ =>
    { r with commands := r.commands.map fun (name, old) =>
        if name = command then (name, old.updatedBy e) else (name, old) }

/-- Adds an option in front of every command. -/
def addGlobalOption (r : Registry) (option help : Text) : Registry :=
  { r with globalOptions := r.globalOptions ++ [(option, help)] }

/-- The names of all commands in increasing order. -/
def names (r : Registry) : List Text := Text.sort (r.commands.map (·.1))

/-- The help text of a command with the given entry; a text at its end, if there is one, tells an
error. -/
def textOf (r : Registry) (command : Text) (e : Entry) (error : Option Value) :
    Except Flaw Text := do
  let page ← e.page
  let error ← Entry.textOf error
  return page.render r.globalOptions command error

end Registry

end OtpRegistrar.Help
