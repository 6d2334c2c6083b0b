/-
The logger of the configuration.

It is set up when it is first needed and kept in a variable; a set-up that fails is tried again.
Debug mode takes every entry. Entries go to a file or to the system log if the configuration says
so, and to the error output in debug mode or when the user asks for more to be shown.
-/
import OtpRegistrar.Config.Loading
import OtpRegistrar.Log.Setup
namespace OtpRegistrar.Action

/-- What may be said about the logger of the configuration; null leaves it to the configuration. -/
structure LoggerOptions where
  banner : Value := .null
  timed : Value := .null
  pid : Value := .bool true

/-- The truth value in a value, if it is one. -/
def boolOf? : Value → Option Bool
  | .bool b => some b
  | _ => none

/-- Do entries show the time? What is said counts before the configuration. -/
def timedBy (timed : Value) : Action (Option Bool) := do
  match timed with
  | .null =>
    let level ← debugLevel GlobalOptions.Slot.timestamps.name
    let raised ← orFail level.positive .defect
    return if raised then some true else none
  | v => return boolOf? v

/-- Do entries go to the error output? -/
def toStderr (config : Config) : Action Bool :=
  if config.flag "file_logging" || config.flag "syslog_enabled" then pure false
  else if config.flag "debug_enabled" then pure true
  else orFail (config.get "verbose_level").positive .defect

/-- The name of the tool, under which its logger is kept. -/
def loggerTitle (config : Config) : Action Text :=
  match config.get "tool_name" with
  | .text t => pure t
  | _ => fail (.defect .missingAttribute)

/-- What the configuration asks of its logger. -/
def loggerRequest (o : LoggerOptions) : Action LogRequest := do
  let timed ← timedBy o.timed
  let config ← read (·.config)
  let stderr ← toStderr config
  let name ← loggerTitle config
  return {
    name
    level :=
      if config.flag "debug_enabled" then .text LogLevel.debug.name else config.get "loglevel"
    syslog := !config.flag "file_logging" && config.flag "syslog_enabled"
    address := config.get "syslog_address"
    facility := config.get "syslog_facility"
    pid := o.pid
    banner := match o.banner with | .null => .bool true | v => v
    logfile := if config.flag "file_logging" then config.get "logfile" else .null
    timed
    colored := config.flag "color_logs"
    stderr }

/-- Sets up a logger; what the operating system or a value refuses is a flaw of the
configuration. -/
def setUpLoggerAsConfigured (r : LogRequest) : Action Text := do
  match ← attempt (setUpLogger r) with
  | .ok name => return name
  | .error f =>
    if f.family == .system || f.family == .value then fail (.config (.logging f.text))
    else fail f

/-- The level of detail of the library's log; only what can be a key stands for a level. -/
def setUpLibraryLog (level : Value) (handlers : List LogHandler) : Action Unit :=
  if level.isKey then changeLogs (·.setUpLibrary level handlers) else fail (.defect .wrongType)

/-- Sets up the logger of the configuration, and the log of the directory library with it. -/
def setUpConfiguredLogger (o : LoggerOptions) : Action Value := do
  let request ← loggerRequest o
  let name ← setUpLoggerAsConfigured request
  configure "_logger" (.logger name)
  let level ← debugLevel GlobalOptions.Slot.netTraffic.name
  let logs ← read (·.logs)
  setUpLibraryLog level (logs.get name).handlers
  return .logger name

/-- The logger of the configuration, set up if there is none yet. -/
def logger : Action Value := do
  let v ← configured "_logger"
  if v.truthy then return v else setUpConfiguredLogger {}

/-- Writes an entry to a logger; only loggers take entries. -/
def log (logger : Value) (level : LogLevel) (t : Text) : Action Unit :=
  match logger with
  | .logger name => logTo name level t
  | _ => fail (.defect .missingAttribute)

end OtpRegistrar.Action
