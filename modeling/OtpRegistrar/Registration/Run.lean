/-
Registering and deregistering devices.

One run makes one connection and sends one request. All arguments are checked before anything is
done; then the passwords are read, the one of the user first; only then is the server contacted.
What is wrong with the arguments, a password or the connection is told to the user and becomes the
outcome; any other failure passes through.
-/
import OtpRegistrar.Directory.Session
import OtpRegistrar.Log.Redaction
import OtpRegistrar.Password.Reading
import OtpRegistrar.Registration.Options
import OtpRegistrar.Registration.Outcome
namespace OtpRegistrar.Registration

open OtpRegistrar.Action

/-! ### Entries of the log -/

/-- The entry that shows how the command was called; secrets are hidden. -/
def invocationEntry (line : List Text) : Text :=
  "Running: " ++ command ++ " " ++
    Text.join " " (Redaction.hide (Argument.sensitiveSpellings arguments) line)

/-- Logs how the command was called, if the configuration wants it. -/
def logInvocation (line : List Text) : Action Unit := do
  if (← configured "log_tool_invocation").truthy then
    log (← logger) .info (invocationEntry line)

/-- The entry about the public identity in a one-time password. It is the server that decides
whether a password is valid, so one that is not well formed is no failure. -/
def identityEntry (otp : Text) : Except Otp.Flaw Text :=
  match Otp.publicId otp with
  | .error f => .ok ("OTP is not a well-formed YubiKey OTP: " ++ f.message)
  | .ok identity =>
    (Otp.toHex identity).map fun hex => "YubiKey public ID: " ++ identity ++ " (" ++ hex ++ ")"

/-- Logs the public identity in a one-time password. -/
def logIdentity (otp : Text) : Action Unit := do
  let entries ← logger
  let entry ← orFail (identityEntry otp) .otp
  log entries .debug entry

/-! ### Arguments -/

/-- Reads a command line; what it binds is kept, also when reading stops before its end. -/
def readLine (line : List Text) : Action Unit := ofFunction fun h =>
  let (bound, outcome) := CommandLine.read h.homes arguments line
  let fault : CommandLine.Stop → Fault
    | .helpRequested => .helpRequested
    | .usage u => .usage u
    | .nulInPath => .nulInPath
  (outcome.mapError fault, { h with bound })

/-- Reads a command line and checks all that can be checked about it. -/
def readArguments (line : List Text) : Action Unit := do
  readLine line
  let bound ← read (·.bound)
  orFail (Constraint.checkAll arguments bound constraints) .usage
  orFail (check bound) .usage

/-- The settings of the connection for what is bound. -/
def currentSettings (password : Value) : Action Settings := do
  let h ← read id
  orFail (settings h.bound h.config password) .usage

/-! ### Passwords -/

/-- The source of the password of the user, for what is bound. -/
def currentUserPassword : Action PasswordSource := do
  let bound ← read (·.bound)
  orFail (userPassword bound) .template

/-- The source of the password to bind with, for what is bound. -/
def currentBindPassword : Action PasswordSource := do
  let h ← read id
  orFail (bindPassword h.bound h.config) .template

/-! ### The run -/

/-- Sends the one request of a run inside a session; its kind comes back with its result. -/
def request (s : Settings) (password : Option (List UInt8)) :
    Action (DeviceOperation × ExtendedResult) := do
  let bound ← read (·.bound)
  session s do
    let r ←
      orFail (DeviceRequest.make (authId bound) password (otp bound) (deregisters bound)) .request
    let result ← submit r
    return (r.operation, result)

/-- What the user is told of a success. -/
def successMessage (bound : Bindings) : Text :=
  let what : Text :=
    if !deregisters bound then "Successfully registered the specified YubiKey OTP device for user "
    else if (otp bound).isSome then
      "Successfully deregistered the specified YubiKey OTP device for user "
    else "Successfully deregistered all YubiKey OTP devices for user "
  what ++ userName bound ++ "."

/-- What the user is told of a failed request. -/
def failureMessage (bound : Bindings) (result : Text) : Text :=
  let what : Text :=
    if deregisters bound then "deregister the YubiKey OTP device(s)"
    else "register the YubiKey OTP device"
  "An error occurred while attempting to " ++ what ++ " for user " ++ userName bound ++ ": " ++
    result

/-- Tells what came of the request. -/
def conclude (entries : Value) (operation : DeviceOperation) (result : ExtendedResult) :
    Action Outcome := do
  let bound ← read (·.bound)
  let about := operation.name ++ " request for " ++ userName bound
  if result.success then
    say (successMessage bound)
    log entries .info (about ++ " succeeded.")
    return .known ResultCode.success
  else
    let shown ← orFail result.shown .defect
    complain (failureMessage bound shown)
    log entries .warning (about ++ " failed: " ++ shown)
    return Outcome.ofCode result.code

/-- Tells what is wrong with the arguments, or shows the help that was asked for. -/
def explain (f : Fault) : Action Outcome :=
  if f.isKind .showHelp then do
    say (usage none)
    return .known ResultCode.success
  else if f.isKind .argument then do
    complain f.text
    complain "Use --help to get usage information."
    return .known ResultCode.paramError
  else fail f

/-- Tells which password cannot be read. -/
def explainPassword (which : Text) (f : Fault) : Action Outcome :=
  if f.isKind .passwordRead then do
    complain ("Unable to read the " ++ which ++ " password: " ++ f.text)
    return .known ResultCode.localError
  else fail f

/-- Tells that no connection could be made. -/
def explainConnection (f : Fault) : Action Outcome :=
  if f.isKind .connectionFailed then do
    complain ("Unable to establish a connection to the directory server: " ++ f.shown)
    return Outcome.ofCode (f.code?.getD .null)
  else fail f

/-- Sends the request and tells what came of it. -/
def perform (entries : Value) (s : Settings) (password : Option (List UInt8)) : Action Outcome := do
  match ← attempt (request s password) with
  | .error f => explainConnection f
  | .ok (operation, result) => conclude entries operation result

/-- Logs the public identity if there is a one-time password. -/
def logOtp : Action Unit := do
  match otp (← read (·.bound)) with
  | some t => logIdentity t
  | none => pure ()

/-- Reads the passwords, the one of the user first, and goes on. -/
def proceed (entries : Value) (s : Settings) : Action Outcome := do
  match ← attempt (do readPassword (← currentUserPassword)) with
  | .error f => explainPassword "user" f
  | .ok password =>
    match ← attempt (do readPassword (← currentBindPassword)) with
    | .error f => explainPassword "bind" f
    | .ok bindPassword =>
      logOtp
      perform entries { s with bindPassword := (bindPassword.map Value.bytes).getD .null } password

/-- Runs the command for a command line. -/
def run (line : List Text) : Action Outcome := do
  let entries ← logger
  logInvocation line
  match ← attempt (do readArguments line; currentSettings .null) with
  | .error f => explain f
  | .ok s => proceed entries s

end OtpRegistrar.Registration
