/-
Why an action ends without an answer.

A fault has a kind with a name, a text, and a family. What is done about a fault depends on its
family alone, so a failure of the surroundings that claims to be one of the program's own is treated
like it.
-/
import OtpRegistrar.Arguments.Declaration
import OtpRegistrar.Arguments.Usage
import OtpRegistrar.Config.Store
import OtpRegistrar.ConfigFile
import OtpRegistrar.Directory.DeviceRequest
import OtpRegistrar.Directory.Settings
import OtpRegistrar.Failure.Defect
import OtpRegistrar.GlobalOptions
import OtpRegistrar.Help.Entry
import OtpRegistrar.Log.Registry
import OtpRegistrar.NamedCode.Basic
import OtpRegistrar.Otp
import OtpRegistrar.Password.Source
namespace OtpRegistrar

/-- Why an action fails. -/
inductive Fault where
  /-- The surroundings failed. -/
  | raised (r : Raised)
  | usage (u : Usage)
  | helpRequested
  | options (f : GlobalOptions.Flaw)
  | config (f : Config.Flaw)
  | configFile (f : ConfigFile.Flaw)
  | declaration (f : Argument.Flaw)
  | enumeration (f : Enumeration.Flaw)
  | otp (f : Otp.Flaw)
  | delimiter (f : Delimited.Flaw)
  | password (f : PasswordSource.Flaw)
  | settings (f : Settings.Flaw)
  | request (f : DeviceRequest.Flaw)
  | endpoint (f : Endpoint.Flaw)
  | tls (f : Tls.Flaw)
  /-- No connection could be made; the code says why. -/
  | connection (message : Text) (code : Value)
  | unknownCommand (command : Text)
  | help (f : Help.Flaw)
  | template (f : Template.Flaw)
  | system (e : OsError)
  | notUtf8 (f : Text.DecodeFlaw)
  | number (f : Integer.Flaw)
  | unknownFacility (name : Text)
  | syslog (f : Syslog.Flaw)
  | nulInPath
  | notSettled
  | defect (d : Defect)

namespace Fault

/-- The defect that a flaw of a template is, if it is one. -/
def templateDefect? : Template.Flaw → Option Defect
  | .noPosition | .part .badPosition => some .badIndex
  | .unknownName _ => some .missingKey
  | .part .noSuchName => some .missingAttribute
  | .part .wrongType => some .wrongType
  | _ => none

/-- The kind of a flaw in an enumeration. -/
def enumerationKind : Enumeration.Flaw → OwnKind
  | .notDense _ _ => .general
  | .unknownCode _ _ | .unknownName _ _ => .unknownConstant

/-- The family of a fault. -/
def family : Fault → Family
  | raised r => r.family
  | usage _ => .own .argument
  | helpRequested => .own .showHelp
  | config f => .own (if f.isTaken then .alreadyRegistered else .general)
  | enumeration f => .own (enumerationKind f)
  | password _ => .own .passwordRead
  | connection _ _ => .own .connectionFailed
  | options _ | configFile _ | declaration _ | otp _ | settings _ => .own .general
  | unknownCommand _ | request .nothingToRegister => .own .general
  | request (.notUtf8 _) => .value
  | request .withoutOtp => .defect
  | endpoint (.unreadablePort _) => .value
  | endpoint _ | tls .missingFile => .directory
  | tls .notFile | help .wrongType => .defect
  | template f => if (templateDefect? f).isSome then .defect else .value
  | system _ | syslog (.unknown _ _) => .system
  | syslog (.badHost _) => .value
  | syslog .portTooLarge => .defect
  | delimiter _ | notUtf8 _ | number _ | unknownFacility _ | nulInPath | help _ => .value
  | notSettled => .runtime
  | defect _ => .defect

/-- The defect that a fault is, if it is one. -/
def defect? : Fault → Option Defect
  | defect d => some d
  | template f => templateDefect? f
  | request .withoutOtp => some .incomplete
  | tls .notFile | help .wrongType => some .wrongType
  | syslog .portTooLarge => some .tooLarge
  | _ => none

/-- The name of the kind of a fault. -/
def name (f : Fault) : Text :=
  match f with
  | raised r => r.name
  | endpoint f => f.name
  | tls .missingFile => Tls.missingName
  | system e => Raised.systemName e.cause.errno
  | syslog (.unknown _ _) => "unknown address"
  | notSettled => "unsettled value"
  | f =>
    match f.defect?, f.family with
    | some d, _ => d.name
    | none, .own kind => kind.name
    | none, _ => "bad value"

/-- The text of a fault; it may be empty. -/
def text : Fault → Text
  | raised r => r.text
  | usage u => u.message
  | helpRequested => []
  | options f => f.message
  | config f => f.message
  | configFile f => f.message
  | declaration f => f.message
  | enumeration f => f.message
  | otp f => f.message
  | delimiter f => f.message
  | password f => f.message
  | settings f => f.message
  | request .nothingToRegister => "Cannot register YubiKey OTP device without OTP."
  | request (.notUtf8 f) => f.message
  | request .withoutOtp => []
  | endpoint f => f.message
  | tls .missingFile => Tls.missingMessage
  | tls .notFile => []
  | connection message _ => message
  | unknownCommand command => "Command not in command map: " ++ command
  | help f => f.message
  | template f => f.message
  | system e => e.message
  | notUtf8 f => f.message
  | number f => f.message
  | unknownFacility name => "Unknown syslog facility: " ++ name
  | syslog f => f.message
  | nulInPath => "embedded null byte"
  | notSettled => []
  | defect _ => []

/-- What is shown of a fault: its text, or the name of its kind if it has none. -/
def shown (f : Fault) : Text := if f.text.isEmpty then f.name else f.text

/-- The code that a fault carries. -/
def code? : Fault → Option Value
  | raised r => r.code?
  | connection _ code => some code
  | _ => none

/-- Is the fault one of the program's own? -/
def isOwn (f : Fault) : Bool :=
  match f.family with
  | .own _ => true
  | _ => false

/-- Is the fault of the given own kind? -/
def isKind (f : Fault) (kind : OwnKind) : Bool := f.family == .own kind

/-- Did the operating system refuse? -/
def isSystem : Fault → Bool
  | raised r => r.isSystem
  | f => f.family == .system

/-- Did the directory client or the operating system fail? -/
def isRefusal (f : Fault) : Bool := f.family.isDirectory || f.isSystem

end Fault

end OtpRegistrar
