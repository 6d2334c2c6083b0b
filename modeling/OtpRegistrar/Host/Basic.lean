/-
The machine that the program runs on, and actions on it.

A host holds everything outside of the program that a run can see or change: files, the answers a
user gives at a prompt, the behaviour of the directory server, the configuration and the loggers.
Whatever the program does to its surroundings is noted as an event, in order. So a property of a
run, such as that nothing is sent before all arguments are checked, is a property of a list of
events.

An action that fails keeps what it has done.
-/
import OtpRegistrar.Failure.Fault
import OtpRegistrar.Directory.Result
import OtpRegistrar.Arguments.CommandLine
namespace OtpRegistrar

/-- How the directory server behaves in one kind of step: it may set the answer of the connection,
then fail, and else give a value back. -/
structure Reply where
  answer : Option Value := none
  failure : Option Raised := none
  value : Option Value := none

/-- How the directory server behaves. -/
structure DirectoryServer where
  connect : Reply := {}
  start : Reply := {}
  startTls : Reply := {}
  bind : Reply := {}
  extended : Reply := {}
  unbind : Reply := {}

/-- What happens at a prompt. -/
inductive PromptAnswer where
  | typed (t : Text)
  | failed (r : Raised)

/-- What the program does to its surroundings. -/
inductive Event where
  /-- Text is written to the output. -/
  | printed (t : Text)
  /-- Text is written to the error output. -/
  | reported (t : Text)
  /-- A password file is opened. -/
  | passwordFileRead (path : Text)
  | prompted (question : Text)
  /-- A server is described to the directory client. -/
  | serverMade (server : Endpoint) (timeout : Value) (tls : Option Tls)
  /-- A connection for a user is made ready. -/
  | connectionMade (user password : Value)
  | opened
  | tlsStarted
  | bound
  | extendedSent (oid : Text) (value : List UInt8)
  | unbound
  | syslogOpened (address : Syslog.Address) (facility : Nat)
  | syslogSent (t : Text)
  /-- An entry is taken by the logger of the configuration. -/
  | logged (level : LogLevel) (t : Text)

/-- What is shown to the user in colour, and how. -/
structure Screen where
  palette : Palette
  /-- Are errors shown in colour? -/
  colors : Bool

/-- The machine that the program runs on. -/
structure Host where
  files : FileTree
  homes : Homes
  /-- What is wrong with places where the system log may listen. -/
  resolver : Syslog.Resolver
  screen : Screen
  /-- The number of the process. -/
  processId : Int
  /-- The time that entries of the log show. -/
  time : Text
  prompts : List PromptAnswer
  server : DirectoryServer
  /-- The last answer that the connection holds. -/
  answer : Value
  config : Config
  logs : LogRegistry
  /-- What the last command line of the tool bound. -/
  bound : Bindings
  /-- The configuration file of new configurations. -/
  defaultConfigFile : Text
  events : List Event

namespace Host

/-- A host before anything has happened. The system log can be reached everywhere, and nothing is
shown in colour. -/
def fresh (files : FileTree) (homes : Homes) (defaultConfigFile : Text) (colors : Bool)
    (processId : Int) (time : Text) : Host :=
  { files
    homes
    resolver := fun _ _ => none
    screen := ⟨.plain, colors⟩
    processId
    time
    prompts := []
    server := {}
    answer := .null
    config := Config.fresh defaultConfigFile
    logs := .empty
    bound := []
    defaultConfigFile
    events := [] }

/-- Notes an event behind the others. -/
def note (h : Host) (e : Event) : Host := { h with events := h.events ++ [e] }

end Host

/-- A step of the program on its host: it changes the host, and ends with a value or a fault. -/
abbrev Action (α : Type) := ExceptT Fault (StateM Host) α

namespace Action

variable {α β : Type}

/-- Runs an action on a host. -/
def runOn (a : Action α) (h : Host) : Except Fault α × Host := (ExceptT.run a).run h

/-- An action made of what it does to a host. -/
def ofFunction (f : Host → Except Fault α × Host) : Action α := ExceptT.mk f

/-- Something read off the host. -/
def read (f : Host → α) : Action α := ofFunction fun h => (.ok (f h), h)

/-- A change of the host that cannot fail. -/
def change (f : Host → Host) : Action Unit := ofFunction fun h => (.ok (), f h)

/-- A failure. -/
def fail (f : Fault) : Action α := ofFunction fun h => (.error f, h)

/-- The outcome of an action, a failure included. -/
def attempt (a : Action α) : Action (Except Fault α) := ofFunction fun h =>
  let (outcome, h) := a.runOn h
  (.ok outcome, h)

/-- The value of an outcome, or its failure. -/
def settle (outcome : Except Fault α) : Action α := ofFunction fun h => (outcome, h)

/-- A value, or a failure for a given reason. -/
def orFail {ε : Type} (outcome : Except ε α) (reason : ε → Fault) : Action α :=
  settle (outcome.mapError reason)

/-- Notes an event. -/
def note (e : Event) : Action Unit := change (·.note e)

/-- A variable of the configuration; null if it has no value. -/
def configured (name : Text) : Action Value := read fun h => h.config.get name

/-- Assigns a variable of the configuration. -/
def configure (name : Text) (value : Value) : Action Unit := ofFunction fun h =>
  match h.config.set name value with
  | .ok config => (.ok (), { h with config })
  | .error f => (.error (.config f), h)

/-- The result of one kind of step of the directory server, noted with its event. -/
def serve (e : Event) (reply : DirectoryServer → Reply) (default : Value) : Action Value :=
  ofFunction fun h =>
    let r := reply h.server
    let h := h.note e
    let h := match r.answer with | some answer => { h with answer } | none => h
    match r.failure with
    | some raised => (.error (.raised raised), h)
    | none => (.ok (r.value.getD default), h)

end Action

end OtpRegistrar
