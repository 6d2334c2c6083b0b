/-
Options that stand in front of the tool's own.

They choose the configuration file and the log file, and how much is shown. The first token that is
no such option ends them. A debug token carries letters, each raising the level of its slot; the
letter of the token itself counts only if it stands alone or another `d` follows.
-/
import OtpRegistrar.Value.Basic
import OtpRegistrar.ConfigFile
namespace OtpRegistrar.GlobalOptions

/-- Why the options cannot be read. -/
inductive Flaw where
  | unknownDebugLetter (letter : Symbol)
  | needsValue (option : Text)
  deriving DecidableEq

/-- What is shown of a flaw. -/
def Flaw.message : Flaw → Text
  | .unknownDebugLetter s => "Invalid option: -d" ++ [s]
  | .needsValue o => "Option requires value: " ++ o

/-- What the letters of a debug token raise. -/
inductive Slot where
  | base
  | raiseExceptions
  | moduleLoading
  | netTraffic
  | timestamps
  deriving DecidableEq

namespace Slot

/-- The name under which the level of a slot is kept. -/
def name : Slot → Text
  | base => "base"
  | raiseExceptions => "raise_exceptions"
  | moduleLoading => "module_loading"
  | netTraffic => "net_traffic"
  | timestamps => "debug_timestamps"

/-- The slot of a letter. -/
def ofLetter? : Symbol → Option Slot
  | .char 'd' => some base
  | .char 'e' => some raiseExceptions
  | .char 'm' => some moduleLoading
  | .char 'N' => some netTraffic
  | .char 't' => some timestamps
  | _ => none

end Slot

/-- What has been read: the configuration variables that the options set, and whether the loading of
modules is to be shown from now on. -/
structure State where
  options : ConfigFile.Entries
  showLoading : Bool

/-- One more for the slot in the table of levels. -/
def raiseLevel (slot : Slot) (levels : List (Value × Value)) : List (Value × Value) :=
  let level := match Value.lookup (.text slot.name) levels with
    | some (.int n) => n
    | _ => 0
  Value.insert (.text slot.name) (.int (level + 1)) levels

/-- The table of levels in the options read so far. -/
def State.levels (s : State) : List (Value × Value) :=
  match s.options.get? "debug_levels" with
  | some (.dict levels) => levels
  | _ => []

/-- Sets a variable. -/
def State.set (s : State) (name : Text) (value : Value) : State :=
  { s with options := s.options.set name value }

/-- What one debug letter does. -/
def State.debug (s : State) (slot : Slot) : State :=
  let s := s.set "debug_levels" (.dict (raiseLevel slot s.levels))
  match slot with
  | .base => (s.set "verbose_level" (.int 10)).set "debug_enabled" (.bool true)
  | .moduleLoading => { s with showLoading := true }
  | .raiseExceptions => s.set "print_tracebacks" (.bool true)
  | .netTraffic | .timestamps => s

/-- The letters of a debug token that count. -/
def debugLetters (token : Text) : Text :=
  match token.drop 2 with
  | [] => token.drop 1
  | s :: rest => if s = .char 'd' then token.drop 1 else s :: rest

/-- What debug letters do, up to the first that has no slot. -/
def State.debugAll (s : State) : Text → State × Except Flaw Unit
  | [] => (s, .ok ())
  | letter :: rest =>
    match Slot.ofLetter? letter with
    | none => (s, .error (.unknownDebugLetter letter))
    | some slot => (s.debug slot).debugAll rest

/-- Does the token raise the verbosity: a dash and one or more `v`? A line feed may end it. -/
def isVerbosity (token : Text) : Bool :=
  let body := if token.getLast? = some (.char '\n') then token.dropLast else token
  match body with
  | .char '-' :: v :: vs => (v :: vs).all (· == .char 'v')
  | _ => false

/-- Reads options from the start of a line: what they set, what is left of the line, and the flaw
that ended the reading, if any. A token with a flaw in its letters is left; one that lacks its value
is gone. -/
def scan (s : State) : List Text → State × List Text × Except Flaw Unit
  | [] => (s, [], .ok ())
  | token :: rest =>
    if token.startsWith "-d" then
      match s.debugAll (debugLetters token) with
      | (s, .ok ()) => scan s rest
      | (s, .error e) => (s, token :: rest, .error e)
    else if isVerbosity token then
      scan (s.set "verbose_level" (.int (token.length - 1 : Nat))) rest
    else if token = Text.ofString "--color-logs" then scan (s.set "color_logs" (.bool true)) rest
    else if token = Text.ofString "--version" then scan (s.set "show_version" (.bool true)) rest
    else if token = Text.ofString "-h" ∨ token = Text.ofString "--help" then
      scan (s.set "show_help" (.bool true)) rest
    else if token = Text.ofString "-l" then
      match rest with
      | [] => (s, [], .error (.needsValue token))
      | value :: rest =>
        scan ((s.set "logfile" (.text value)).set "file_logging" (.bool true)) rest
    else if token = Text.ofString "-c" then
      match rest with
      | [] => (s, [], .error (.needsValue token))
      | value :: rest => scan (s.set "config_file" (.text value)) rest
    else (s, token :: rest, .ok ())

/-- Reads the options at the start of a line. -/
def read (line : List Text) : State × List Text × Except Flaw Unit := scan ⟨[], false⟩ line

end OtpRegistrar.GlobalOptions
