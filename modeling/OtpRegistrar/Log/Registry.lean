/-
Loggers and where their entries go.

Loggers are kept by name. All of them share one banner, which every set-up replaces. A log of the
directory library has a level of detail of its own and hides what is sensitive.
-/
import OtpRegistrar.FileTree
import OtpRegistrar.Log.Record
namespace OtpRegistrar

/-- Where entries go. -/
inductive LogSink where
  | syslog
  | file (place : Place)
  | stderr
  /-- Entries are thrown away. -/
  | discard
  deriving DecidableEq

/-- A destination with the layout of its entries. -/
structure LogHandler where
  sink : LogSink
  layout : LogLayout
  deriving DecidableEq

/-- The kind of a destination, by the name that listings show. -/
def LogSink.name : LogSink → Text
  | syslog => "SysLogHandler"
  | file _ => "WatchedFileHandler"
  | stderr => "StreamHandler"
  | discard => "NullHandler"

/-- A logger: the least level it takes, if one is set, whether it hands entries on, how many filters
it has, and its destinations. -/
structure Logger where
  level : Option LogLevel
  propagate : Bool
  filters : Nat
  handlers : List LogHandler
  deriving DecidableEq

/-- A logger that has not been set up. -/
def Logger.blank : Logger := ⟨none, true, 0, []⟩

/-- The name of the level of a logger. -/
def Logger.levelName (l : Logger) : Text :=
  match l.level with
  | some level => level.name
  | none => "NOTSET"

/-- Does a logger take entries of a level? -/
def Logger.takes (l : Logger) (level : LogLevel) : Bool :=
  match l.level with
  | some least => least.rank ≤ level.rank
  | none => LogLevel.warning.rank ≤ level.rank

/-- How much the directory library logs. -/
inductive LibraryDetail where
  | off
  | basic
  | network
  | extended
  deriving DecidableEq

/-- The name of a level of detail. -/
def LibraryDetail.name : LibraryDetail → Text
  | off => "OFF"
  | basic => "BASIC"
  | network => "NETWORK"
  | extended => "EXTENDED"

/-- The level of detail for a debug level; what is none of the first three is the last. -/
def LibraryDetail.ofLevel (level : Value) : LibraryDetail :=
  if Value.same level (.int 0) then off
  else if Value.same level (.int 1) then basic
  else if Value.same level (.int 2) then network
  else extended

/-- All loggers by name, the banner in force, and the log of the directory library. -/
structure LogRegistry where
  loggers : List (Text × Logger)
  banner : Option Text
  detail : LibraryDetail
  hideSensitive : Bool

namespace LogRegistry

/-- No logger has been set up. -/
def empty : LogRegistry := ⟨[], none, .off, false⟩

/-- The name under which a logger is kept; the one without a name is the root. -/
def key (name : Text) : Text := if name.isEmpty then "root" else name

/-- The logger of a name. -/
def get (r : LogRegistry) (name : Text) : Logger :=
  ((r.loggers.find? (·.1 == key name)).map (·.2)).getD .blank

/-- Puts a logger under its name. -/
def putIn (name : Text) (l : Logger) : List (Text × Logger) → List (Text × Logger)
  | [] => [(name, l)]
  | (n, old) :: rest => if n = name then (n, l) :: rest else (n, old) :: putIn name l rest

/-- Puts a logger under its name. -/
def put (r : LogRegistry) (name : Text) (l : Logger) : LogRegistry :=
  { r with loggers := putIn (key name) l r.loggers }

/-- The name of the logger of the directory library. -/
def libraryName : Text := "ldap3"

/-- Sets up the log of the directory library; with detail, its entries go to the given handlers. -/
def setUpLibrary (r : LogRegistry) (level : Value) (handlers : List LogHandler) : LogRegistry :=
  let detail := LibraryDetail.ofLevel level
  let r := { r with detail, hideSensitive := true }
  if detail = .off then r
  else r.put libraryName ⟨some .debug, false, (r.get libraryName).filters, handlers⟩

end LogRegistry

/-! ### The system log -/

namespace Syslog

/-- Where the system log listens: a socket, or a host and a port. -/
inductive Address where
  | socket (path : Text)
  | remote (host : Text) (port : Int)

/-- Why the system log cannot be reached at a host and a port. -/
inductive Flaw where
  /-- The name of the host is none that could be looked up. -/
  | badHost (reason : Text)
  /-- The port is a number that is too large to be looked up. -/
  | portTooLarge
  /-- The operating system finds no such host, or no such port. -/
  | unknown (errno : Int) (reason : Text)

/-- What is said of a flaw. That a number is too large says it all. -/
def Flaw.message : Flaw → Text
  | badHost reason => reason
  | portTooLarge => []
  | unknown errno reason => "[Errno " ++ Integer.text errno ++ "] " ++ reason

/-- What a machine finds wrong with hosts and ports, if anything is. -/
abbrev Resolver := Text → Int → Option Flaw

/-- What is wrong with an address. A socket need not be there yet, so nothing is wrong with it. -/
def Address.flaw? (resolver : Resolver) : Address → Option Flaw
  | socket _ => none
  | remote host port => resolver host port

/-- The facilities with their numbers. -/
def facilities : List (String × Nat) :=
  [("auth", 4), ("authpriv", 10), ("console", 14), ("cron", 9), ("daemon", 3), ("ftp", 11),
   ("kern", 0), ("lpr", 6), ("mail", 2), ("news", 7), ("ntp", 12), ("security", 13),
   ("solaris-cron", 15), ("syslog", 5), ("user", 1), ("uucp", 8), ("local0", 16), ("local1", 17),
   ("local2", 18), ("local3", 19), ("local4", 20), ("local5", 21), ("local6", 22), ("local7", 23)]

end Syslog

end OtpRegistrar
