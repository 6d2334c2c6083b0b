/-
Setting up a logger, and writing entries.

A logger has one destination at a time: the system log before a file, a file before the error
output, and if none is asked for its entries are thrown away. The banner is shared by all loggers
and changes with every set-up, also with one that fails; a failing set-up leaves its logger without
destinations. What is then written to it is shown on the error output if it is a warning or matters
more, and lost otherwise.
-/
import OtpRegistrar.Host.Basic
import OtpRegistrar.Log.Target
namespace OtpRegistrar

/-- What is asked of a logger. A level that is not known stands for INFO. -/
structure LogRequest where
  name : Text
  level : Value
  syslog : Bool := false
  address : Value := .text "/dev/log"
  facility : Value := .text "LOCAL7"
  /-- The number of the process, or true for that of this one. -/
  pid : Value := .null
  /-- The banner, or true for the name of the logger. -/
  banner : Value := .null
  /-- The path of a file; what does not count as true stands for none. -/
  logfile : Value := .null
  timed : Option Bool := none
  colored : Bool := false
  stderr : Bool := false

namespace LogRequest

/-- The name under which the logger is kept. -/
def loggerName (r : LogRequest) : Text := r.name.lower

/-- The level that is asked for, if it is a known one. -/
def level? (r : LogRequest) : Option LogLevel := r.level.text?.bind LogLevel.ofName?

/-- The number shown in the banner of a process, if one is asked for. -/
def number (r : LogRequest) (processId : Int) : Value :=
  match r.pid with
  | .bool true => .int processId
  | v => v

/-- The name in the banner, if there is a banner. -/
def title? (r : LogRequest) : Option Text :=
  match r.banner with
  | .bool true => some r.loggerName
  | .text t => some t
  | _ => none

/-- The banner of a process: a name, with the number of the process if one is asked for and entries
do not go to the system log, and a colon. An empty banner stays empty. -/
def fullBanner (r : LogRequest) (processId : Int) : Option Text :=
  r.title?.map fun t =>
    let number := r.number processId
    if t.isEmpty then t
    else if number.truthy && !r.syslog then t ++ "[" ++ number.shown ++ "]:"
    else t ++ ":"

/-- Do entries show a banner? -/
def bannered (r : LogRequest) : Bool :=
  match r.title? with
  | some t => !t.isEmpty
  | none => false

/-- The layout of entries that show the time unless something else is asked for, or do not. -/
def layout (r : LogRequest) (timed : Bool) : LogLayout :=
  ⟨r.colored, r.timed.getD timed, r.bannered⟩

/-- What is said of a level that is not known. -/
def unknownLevel (level : Value) : Text :=
  "Changed unknown loglevel '" ++ level.shown ++ "' to loglevel 'INFO'."

end LogRequest

namespace Action

/-- Changes the loggers. -/
def changeLogs (f : LogRegistry → LogRegistry) : Action Unit :=
  change fun h => { h with logs := f h.logs }

/-- The address of the system log. -/
def syslogAddress : Value → Action Syslog.Address
  | .text t => orFail (Syslog.Address.ofText t) .number
  | _ => fail (.defect .wrongType)

/-- The number of a facility of the system log. -/
def syslogFacility : Value → Action Nat
  | .text t =>
    match Syslog.facility? t with
    | some n => pure n
    | none => fail (.unknownFacility t)
  | _ => fail (.defect .missingAttribute)

/-- Connects to the system log, unless it cannot be reached. -/
def openSyslog (address facility : Value) : Action Unit := do
  let address ← syslogAddress address
  let number ← syslogFacility facility
  let resolver ← read (·.resolver)
  match address.flaw? resolver with
  | some f => fail (.syslog f)
  | none => note (.syslogOpened address number)

/-- Opens a log file and gives its place. -/
def openLogFile (path : Text) : Action Place := ofFunction fun h =>
  if (Place.ofPath path).steps.any FileTree.hasNul then (.error .nulInPath, h)
  else
    match h.files.openAppend path with
    | .error e => (.error (.system e), h)
    | .ok (files, place) => (.ok place, { h with files })

/-- Opens the destination that is asked for. -/
def openDestination (r : LogRequest) : Action LogHandler :=
  if r.syslog then do
    openSyslog r.address r.facility
    return ⟨.syslog, r.layout false⟩
  else
    if !r.logfile.truthy then pure ⟨if r.stderr then .stderr else .discard, r.layout false⟩
    else
      match r.logfile with
      | .text path => do
        let place ← openLogFile path
        return ⟨.file place, r.layout true⟩
      | _ => fail (.defect .wrongType)

/-- Writes an entry to one destination. Neither the system log nor a file takes an entry that is not
UTF-8. -/
def deliver (level : LogLevel) (t : Text) (h : Host) (handler : LogHandler) : Host :=
  let entry := handler.layout.render h.screen.palette h.time h.logs.banner level t
  match handler.sink with
  | .stderr => h.note (.reported (entry ++ Text.newline))
  | .syslog =>
    match Text.encode entry with
    | .ok _ => h.note (.syslogSent entry)
    | .error _ => h
  | .file place =>
    match Text.encode (entry ++ Text.newline) with
    | .ok bytes => { h with files := h.files.append place bytes }
    | .error _ => h
  | .discard => h

/-- Writes an entry whose logger has no destination: a warning, or what matters more, goes to the
error output, its text alone. -/
def lastResort (level : LogLevel) (t : Text) (h : Host) : Host :=
  if LogLevel.warning.rank ≤ level.rank then h.note (.reported (t ++ Text.newline)) else h

/-- Writes an entry to all destinations of a logger. -/
def deliverTo (handlers : List LogHandler) (level : LogLevel) (t : Text) (h : Host) : Host :=
  if handlers.isEmpty then lastResort level t h else handlers.foldl (deliver level t) h

/-- Writes an entry to the logger of a name, if that takes entries of its level. -/
def logTo (name : Text) (level : LogLevel) (t : Text) : Action Unit := change fun h =>
  let logger := h.logs.get name
  if logger.takes level then deliverTo logger.handlers level t (h.note (.logged level t)) else h

/-- Sets up a logger as asked for, and gives the name under which it is kept. -/
def setUpLogger (r : LogRequest) : Action Text := do
  let name := r.loggerName
  let processId ← read (·.processId)
  changeLogs fun logs =>
    let logger := logs.get name
    { logs with banner := r.fullBanner processId }.put name
      ⟨some (r.level?.getD .info), logger.propagate, 1, []⟩
  let handler ← openDestination r
  changeLogs fun logs =>
    logs.put name { logs.get name with handlers := [handler], propagate := false }
  match r.level? with
  | some _ => pure ()
  | none => if r.level.truthy then logTo name .error (LogRequest.unknownLevel r.level)
  return name

end Action

end OtpRegistrar
