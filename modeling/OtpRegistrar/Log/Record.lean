/-
What a log entry looks like.

An entry shows its level and its text, behind a banner and a time if the layout has them, and in the
colour of its level. The banner is the one in force when the entry is written, not when its logger
was set up. What begins and ends a colour is a matter of the terminal, and given as a palette.
-/
import OtpRegistrar.Value.Shown
namespace OtpRegistrar

/-- How much a log entry matters. -/
inductive LogLevel where
  | debug
  | info
  | warning
  | error
  | critical
  deriving DecidableEq

namespace LogLevel

/-- The rank of a level. -/
def rank : LogLevel → Nat
  | debug => 10
  | info => 20
  | warning => 30
  | error => 40
  | critical => 50

/-- The name of a level. -/
def name : LogLevel → Text
  | debug => "DEBUG"
  | info => "INFO"
  | warning => "WARNING"
  | error => "ERROR"
  | critical => "CRITICAL"

/-- All levels. -/
def all : List LogLevel := [critical, error, warning, info, debug]

/-- The level of a name, which has to be in upper case. -/
def ofName? (t : Text) : Option LogLevel := all.find? (·.name = t)

end LogLevel

/-- The escape sequences of a terminal: what begins the colour of a level or of an error, and what
ends a colour. -/
structure Palette where
  level : LogLevel → Text
  error : Text
  reset : Text

/-- Nothing is shown in colour. -/
def Palette.plain : Palette := ⟨fun _ => [], [], []⟩

/-- What a layout shows beside level and text. -/
structure LogLayout where
  colored : Bool
  timed : Bool
  bannered : Bool
  deriving DecidableEq

/-- An entry as it is written at a time; a banner that is gone shows as null. -/
def LogLayout.render (l : LogLayout) (palette : Palette) (time : Text) (banner : Option Text)
    (level : LogLevel) (t : Text) : Text :=
  let optional (present : Bool) (part : Text) : Text := if present then part else []
  optional l.colored (palette.level level) ++
    optional l.timed (time ++ " ") ++
    optional l.bannered ((Value.ofText? banner).shown ++ " ") ++
    level.name ++ ": " ++ t ++
    optional l.colored palette.reset

end OtpRegistrar
