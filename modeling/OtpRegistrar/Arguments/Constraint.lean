/-
Constraints between the arguments of a command.
-/
import OtpRegistrar.Arguments.CommandLine
namespace OtpRegistrar

/-- A rule that the variables bound by a command line have to keep. -/
inductive Constraint where
  /-- At most one variable of the set may be bound. -/
  | exclusive (group : Text) (names : List Text)
  /-- If the variable is bound, one of its prerequisites has to be. -/
  | dependent (name : Text) (prerequisites : List Text)
  deriving DecidableEq

namespace Constraint

/-- The constraints that a command declares with its exclusive sets and with its variables that have
prerequisites. -/
def declared (exclusive dependent : List (Text × List Text)) : List Constraint :=
  exclusive.map (fun (group, names) => .exclusive group names) ++
    dependent.map (fun (name, prerequisites) => .dependent name prerequisites)

/-- Checks one constraint. -/
def check (arguments : List Argument) (bound : Bindings) : Constraint → Except Usage Unit
  | exclusive group names =>
    match names.filter bound.has with
    | [] | [_] => .ok ()
    | present => .error (.exclusive group (present.map (Argument.spellingOf arguments)))
  | dependent name prerequisites =>
    if !bound.has name || prerequisites.any bound.has then .ok ()
    else .error (.dependent (Argument.spellingOf arguments name)
      (prerequisites.map (Argument.spellingOf arguments)))

/-- Checks constraints in order; the first one that does not hold is reported. -/
def checkAll (arguments : List Argument) (bound : Bindings) : List Constraint → Except Usage Unit
  | [] => .ok ()
  | c :: cs =>
    match check arguments bound c with
    | .error u => .error u
    | .ok () => checkAll arguments bound cs

end Constraint

/-- A command with its declared arguments and constraints, and the variables that the last command
line bound. -/
structure Parser where
  arguments : List Argument
  constraints : List Constraint
  bound : Bindings

namespace Parser

/-- Adds a constraint behind the others. -/
def addConstraint (p : Parser) (c : Constraint) : Parser :=
  { p with constraints := p.constraints ++ [c] }

/-- Reads a command line; what earlier lines bound is forgotten. -/
def parse (p : Parser) (homes : Homes) (line : List Text) :
    Parser × Except CommandLine.Stop Unit :=
  let (bound, outcome) := CommandLine.read homes p.arguments line
  ({ p with bound }, outcome)

/-- Checks the constraints on what was bound. -/
def validate (p : Parser) : Except Usage Unit :=
  Constraint.checkAll p.arguments p.bound p.constraints

end Parser

end OtpRegistrar
