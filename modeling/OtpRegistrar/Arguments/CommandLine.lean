/-
Reading a command line against declared arguments.

A line is a sequence of segments: a flag, an option joined to its value by an equals sign, or an
option and its value as two tokens, whatever that value looks like. Reading stops at the first
token that fits no segment; the variables bound so far are kept, so that a caller can show how far
it came. It also stops at a path in the home of a user whose name holds a NUL, since no user can be
looked up by such a name.
-/
import OtpRegistrar.Arguments.Declaration
import OtpRegistrar.Arguments.Usage
namespace OtpRegistrar

/-- Variables with their values, in the order in which they were bound. -/
abbrev Bindings := List (Text × Value)

namespace Bindings

/-- Is the variable bound? -/
def has (b : Bindings) (name : Text) : Bool := b.any (·.1 == name)

/-- The value of a variable. -/
def get? (b : Bindings) (name : Text) : Option Value := (b.find? (·.1 == name)).map (·.2)

/-- The value of a variable, or a default if it is not bound. -/
def getD (b : Bindings) (name : Text) (default : Value) : Value := (b.get? name).getD default

end Bindings

/-- The home directories of users by name. The user who runs the program has the empty name. -/
abbrev Homes := Text → Option Text

namespace Homes

/-- No user but the one who runs the program has a home directory. -/
def own (home : Text) : Homes := fun name => if name.isEmpty then some home else none

end Homes

namespace CommandLine

/-- Why reading stops before the end of a line. -/
inductive Stop where
  | helpRequested
  | usage (u : Usage)
  | nulInPath

/-- Puts the home directory of a user in for a tilde and the name behind it at the start of a path;
the name ends where the path goes on. Nothing is put in for a user without a home directory. -/
def expandHome (homes : Homes) (path : Text) : Text :=
  match path with
  | .char '~' :: rest =>
    match homes (rest.takeWhile (· != .char '/')) with
    | some home =>
      let whole := Text.stripRightOf (.char '/') home ++ rest.dropWhile (· != .char '/')
      if whole.isEmpty then "/" else whole
    | none => path
  | path => path

/-- Does a path begin with a tilde and the name of a user that holds a NUL? -/
def namesNul : Text → Bool
  | .char '~' :: rest => (rest.takeWhile (· != .char '/')).contains (.char '\x00')
  | _ => false

/-- The primary spellings of required arguments that are not bound. -/
def missing (arguments : List Argument) (bound : Bindings) : List Text :=
  (arguments.filter fun a => a.required && !bound.has a.variableName).map (·.spelling)

/-- The value that an argument takes from the text given with it. -/
def valueFor (homes : Homes) (a : Argument) (t : Text) : Value :=
  .text (if a.isFile then expandHome homes t else t)

/-- Is the text given with an argument one that it cannot take? -/
def cannotTake (a : Argument) (t : Text) : Bool := a.isFile && namesNul t

/-- The end of a line: every required argument has to be bound. -/
def finish (arguments : List Argument) (bound : Bindings) : Except Stop Unit :=
  match missing arguments bound with
  | [] => .ok ()
  | options => .error (.usage (.incomplete options))

/-- Reads the rest of a line; the variables bound are given back with the reason to stop. -/
def scan (homes : Homes) (arguments : List Argument) (bound : Bindings) :
    List Text → Bindings × Except Stop Unit
  | [] => (bound, finish arguments bound)
  | token :: rest =>
    if token = Text.ofString "-h" ∨ token = Text.ofString "--help" then
      (bound, .error .helpRequested)
    else if token = Text.ofString "--" then
      match rest with
      | [] => (bound, finish arguments bound)
      | next :: _ => (bound, .error (.usage (.unknownParameter next)))
    else if !token.startsWith "-" then (bound, .error (.usage (.unknownParameter token)))
    else
      let (option, inline) : Text × Option Text :=
        match Text.splitFirst? (.char '=') token with
        | some (option, value) => (option, some value)
        | none => (token, none)
      match Argument.find? arguments option with
      | none => (bound, .error (.usage (.unknownOption option)))
      | some a =>
        if bound.has a.variableName then (bound, .error (.usage (.repeated option)))
        else if a.flag.isSome then
          match inline with
          | some _ => (bound, .error (.usage (.takesNoValue option)))
          | none => scan homes arguments (bound ++ [(a.variableName, a.flagValue)]) rest
        else
          match inline with
          | some value =>
            if cannotTake a value then (bound, .error .nulInPath)
            else scan homes arguments (bound ++ [(a.variableName, valueFor homes a value)]) rest
          | none =>
            match rest with
            | [] => (bound, .error (.usage (.needsValue option)))
            | value :: rest =>
              if cannotTake a value then (bound, .error .nulInPath)
              else scan homes arguments (bound ++ [(a.variableName, valueFor homes a value)]) rest

/-- Reads a whole line. -/
def read (homes : Homes) (arguments : List Argument) (line : List Text) :
    Bindings × Except Stop Unit :=
  scan homes arguments [] line

end CommandLine

end OtpRegistrar
