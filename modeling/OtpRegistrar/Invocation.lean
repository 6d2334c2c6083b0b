/-
An invocation of the program: the options in front, the configuration, and the command.

Every invocation ends with a status. Whatever fails that is one of the program's own failures is
told to the user; other failures pass through.
-/
import OtpRegistrar.Registration.Run
namespace OtpRegistrar.Invocation

open OtpRegistrar.Action

/-- The status for an outcome that is known beforehand. -/
def statusOf (code : NamedCode) : Value := .int (ResultCode.exitStatus code.code)

/-- The line that stands for a traceback. -/
def traceback : Text := "<traceback>\n"

/-- Shows where a failure came from, if the configuration wants it. -/
def showTraceback : Action Unit := do
  if (← configured "print_tracebacks").truthy then note (.reported traceback)

/-- The outcome of the command; a failure of the program's own is told to the user. -/
def runCommand (line : List Text) : Action Registration.Outcome := do
  match ← attempt (Registration.run line) with
  | .ok outcome => return outcome
  | .error f =>
    if f.isOwn then
      showTraceback
      complain f.text
      return .known ResultCode.localError
    else fail f

/-- Runs the command, unless only its help was asked for. -/
def runLoaded (line : List Text) : Action Value := do
  change fun h => { h with bound := [] }
  if (← configured "show_help").truthy then
    say (Registration.usage none)
    return .int 0
  let outcome ← runCommand line
  orFail outcome.exitStatus .defect

/-- Loads the configuration and goes on. -/
def runConfigured (options : ConfigFile.Entries) (line : List Text) : Action Value := do
  match ← attempt (loadConfig options true) with
  | .ok () => runLoaded line
  | .error f =>
    if f.isOwn then
      complain f.text
      return statusOf ResultCode.localError
    else fail f

/-- Was the version asked for? -/
def asksVersion (options : ConfigFile.Entries) : Bool := (options.get? "show_version").isSome

/-- The options that set variables of the configuration. -/
def configOptions (options : ConfigFile.Entries) : ConfigFile.Entries :=
  options.filter (·.1 != Text.ofString "show_version")

/-- Runs the program for a command line, and gives the status it ends with. -/
def run (line : List Text) : Action Value := do
  let (state, rest, outcome) := GlobalOptions.read line
  match outcome with
  | .error f =>
    complain f.message
    return statusOf ResultCode.paramError
  | .ok () =>
    if asksVersion state.options then
      say Config.version
      return .int 0
    else runConfigured (configOptions state.options) rest

end OtpRegistrar.Invocation
