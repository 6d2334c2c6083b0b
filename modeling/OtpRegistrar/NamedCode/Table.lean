/-
The enumerations of the directory protocol: what a device request asks for, how two other requests
of the same server behave, and the result codes of RFC 4511 with those that a client reports itself.
-/
import OtpRegistrar.NamedCode.Basic
namespace OtpRegistrar

/-- What a request asks the server to do with a device. -/
inductive DeviceOperation where
  | register
  | deregister
  | deregisterAll
  deriving DecidableEq

namespace DeviceOperation

/-- The member of the enumeration for an operation. -/
def member : DeviceOperation → NamedCode
  | register => ⟨"REGISTER", 0⟩
  | deregister => ⟨"DEREGISTER", 1⟩
  | deregisterAll => ⟨"DEREGISTER_ALL", 2⟩

/-- The name of an operation. -/
def name (op : DeviceOperation) : Text := op.member.name

/-- All operations, by code. -/
def all : List DeviceOperation := [register, deregister, deregisterAll]

/-- The operation with exactly the given name. -/
def ofName? (t : Text) : Option DeviceOperation := all.find? (·.name = t)

/-- The enumeration of the operations. -/
def enumeration : Enumeration := ⟨"DeviceOperation", all.map member, []⟩

end DeviceOperation

namespace Enumeration

/-- How a request changes the notification destinations of an account. -/
def notificationChange : Enumeration :=
  ⟨"NotificationDestinationChangeType", [⟨"REPLACE", 0⟩, ⟨"ADD", 1⟩, ⟨"DELETE", 2⟩], []⟩

/-- When a transaction may take the exclusive lock of a backend. -/
def backendLock : Enumeration :=
  ⟨"BackendLockBehavior",
   [⟨"DO_NOT_ACQUIRE", 0⟩, ⟨"ACQUIRE_AFTER_RETRIES", 1⟩, ⟨"ACQUIRE_BEFORE_RETRIES", 2⟩,
    ⟨"ACQUIRE_BEFORE_INITIAL_ATTEMPT", 3⟩], []⟩

end Enumeration

namespace ResultCode

/-- The operation succeeded. -/
def success : NamedCode := ⟨"SUCCESS", 0⟩

/-- The server cannot be reached any more. -/
def serverDown : NamedCode := ⟨"SERVER_DOWN", 81⟩

/-- Something failed on the side of the client. -/
def localError : NamedCode := ⟨"LOCAL_ERROR", 82⟩

/-- The arguments are not usable. -/
def paramError : NamedCode := ⟨"PARAM_ERROR", 89⟩

/-- No connection could be made. -/
def connectError : NamedCode := ⟨"CONNECT_ERROR", 91⟩

/-- All result codes, in increasing order. -/
def members : List NamedCode :=
  [success,
   ⟨"OPERATIONS_ERROR", 1⟩, ⟨"PROTOCOL_ERROR", 2⟩, ⟨"TIME_LIMIT_EXCEEDED", 3⟩,
   ⟨"SIZE_LIMIT_EXCEEDED", 4⟩, ⟨"COMPARE_FALSE", 5⟩, ⟨"COMPARE_TRUE", 6⟩,
   ⟨"AUTH_METHOD_NOT_SUPPORTED", 7⟩, ⟨"STRONG_AUTH_REQUIRED", 8⟩, ⟨"REFERRAL", 10⟩,
   ⟨"ADMIN_LIMIT_EXCEEDED", 11⟩, ⟨"UNAVAILABLE_CRITICAL_EXTENSION", 12⟩,
   ⟨"CONFIDENTIALITY_REQUIRED", 13⟩, ⟨"SASL_BIND_IN_PROGRESS", 14⟩, ⟨"NO_SUCH_ATTRIBUTE", 16⟩,
   ⟨"UNDEFINED_ATTRIBUTE_TYPE", 17⟩, ⟨"INAPPROPRIATE_MATCHING", 18⟩,
   ⟨"CONSTRAINT_VIOLATION", 19⟩, ⟨"ATTRIBUTE_OR_VALUE_EXISTS", 20⟩,
   ⟨"INVALID_ATTRIBUTE_SYNTAX", 21⟩, ⟨"NO_SUCH_OBJECT", 32⟩, ⟨"ALIAS_PROBLEM", 33⟩,
   ⟨"INVALID_DN_SYNTAX", 34⟩, ⟨"ALIAS_DEREFERENCING_PROBLEM", 36⟩,
   ⟨"INAPPROPRIATE_AUTHENTICATION", 48⟩, ⟨"INVALID_CREDENTIALS", 49⟩,
   ⟨"INSUFFICIENT_ACCESS_RIGHTS", 50⟩, ⟨"BUSY", 51⟩, ⟨"UNAVAILABLE", 52⟩,
   ⟨"UNWILLING_TO_PERFORM", 53⟩, ⟨"LOOP_DETECT", 54⟩, ⟨"NAMING_VIOLATION", 64⟩,
   ⟨"OBJECT_CLASS_VIOLATION", 65⟩, ⟨"NOT_ALLOWED_ON_NONLEAF", 66⟩, ⟨"NOT_ALLOWED_ON_RDN", 67⟩,
   ⟨"ENTRY_ALREADY_EXISTS", 68⟩, ⟨"OBJECT_CLASS_MODS_PROHIBITED", 69⟩,
   ⟨"AFFECTS_MULTIPLE_DSAS", 71⟩, ⟨"OTHER", 80⟩,
   serverDown, localError,
   ⟨"ENCODING_ERROR", 83⟩, ⟨"DECODING_ERROR", 84⟩, ⟨"TIMEOUT", 85⟩, ⟨"AUTH_UNKNOWN", 86⟩,
   ⟨"FILTER_ERROR", 87⟩, ⟨"USER_CANCELED", 88⟩,
   paramError,
   ⟨"NO_MEMORY", 90⟩,
   connectError,
   ⟨"NOT_SUPPORTED", 92⟩, ⟨"CONTROL_NOT_FOUND", 93⟩, ⟨"NO_RESULTS_RETURNED", 94⟩,
   ⟨"MORE_RESULTS_TO_RETURN", 95⟩, ⟨"CLIENT_LOOP", 96⟩, ⟨"REFERRAL_LIMIT_EXCEEDED", 97⟩,
   ⟨"CANCELED", 118⟩, ⟨"NO_SUCH_OPERATION", 119⟩, ⟨"TOO_LATE", 120⟩, ⟨"CANNOT_CANCEL", 121⟩,
   ⟨"ASSERTION_FAILED", 122⟩, ⟨"AUTHORIZATION_DENIED", 123⟩, ⟨"E_SYNC_REFRESH_REQUIRED", 4096⟩,
   ⟨"NO_OPERATION", 16654⟩]

/-- The enumeration of the result codes. -/
def enumeration : Enumeration := ⟨"ResultCode", members, []⟩

/-- The printable description of a code: its name in lower case with blanks. -/
def description (m : NamedCode) : Text := m.name.lower.exchange (.char '_') (.char ' ')

/-- The code with its description, or alone if it is not known. -/
def shown (code : Value) : Text :=
  match enumeration.byCode? code with
  | none => code.shown
  | some m => code.shown ++ " (" ++ description m ++ ")"

/-- The status a process ends with for a whole-number code: the code itself where a status can carry
it, and 255 for every other failure. -/
def exitStatus (code : Int) : Int :=
  if code = 0 then 0 else if code < 1 ∨ 255 < code then 255 else code

/-- The status for a code of any type; what cannot be compared with a number has none. -/
def exitStatus? (code : Value) : Option Value :=
  match code with
  | .int n => some (.int (exitStatus n))
  | .float .nan => some code
  | .float (.infinite _) => some (.int 255)
  | code =>
    match code.ratio? with
    | none => none
    | some (num, den) =>
      if num = 0 then some (.int 0)
      else if num < den ∨ 255 * (den : Int) < num then some (.int 255)
      else some code

end ResultCode

end OtpRegistrar
