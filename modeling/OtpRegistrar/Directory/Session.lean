/-
Sessions with the directory server.

A session connects, upgrades to TLS if the settings say so, and binds if there is a name to bind
with. Once a connection stands it is closed when the session ends, whichever way it ends; a refusal
to close it is only logged. A refusal while connecting closes the connection as well, and is a
failure to connect. Failures that the directory client and the operating system do not raise pass
through.
-/
import OtpRegistrar.Config.Logging
namespace OtpRegistrar.Action

/-- A bind password as it is sent: bytes are those of a text. -/
def decoded : Value → Action Value
  | .bytes bs => Value.text <$> orFail (Text.decode bs) .notUtf8
  | v => pure v

/-- The TLS settings of a connection, if it asks for TLS. -/
def tlsOf (s : Settings) : Action (Option Tls) := do
  let files ← read (·.files)
  orFail (s.tls files) .tls

/-- Describes the server to the directory client. A server with TLS for which nothing is said about
certificates does not check them. -/
def makeServer (s : Settings) (tls : Option Tls) : Action Unit := do
  match s.host with
  | .text host =>
    let server ← orFail (Endpoint.resolve host s.port s.useSsl.truthy) .endpoint
    let tls := if server.secure && tls.isNone then some Tls.unchecked else tls
    note (.serverMade server s.timeout tls)
  | _ => fail (.defect .missingAttribute)

/-- Makes a connection ready; it holds no answer yet. -/
def makeConnection (s : Settings) (password : Value) : Action Unit := do
  let tls ← tlsOf s
  makeServer s tls
  change fun h => { h with answer := .null }
  let _ ← serve (.connectionMade s.bindDn password) (·.connect) .null

/-- Makes a connection ready; settings that the directory client refuses are a failure to
connect. -/
def prepare (s : Settings) (password : Value) : Action Unit := do
  match ← attempt (makeConnection s password) with
  | .ok () => return
  | .error f =>
    if f.family.isDirectory then
      fail (.connection ("Invalid connection settings: " ++ f.shown)
        (.int ResultCode.paramError.code))
    else fail f

/-- Closes the connection; a refusal is only logged. -/
def close : Action Unit := do
  match ← attempt (serve .unbound (·.unbind) (.bool true)) with
  | .ok _ => return
  | .error f =>
    if f.isRefusal then log (← logger) .warning ("Error closing connection: " ++ f.shown)
    else fail f

/-- Gives up a connection: closes it, and fails. -/
def giveUp (entries : Value) (s : Settings) (message : Text) (code : Value) : Action Unit := do
  log entries .warning ("Error connecting to server: " ++ s.uri ++ ": " ++ message)
  close
  fail (.connection message code)

/-- Gives up a connection after an answer of the server. -/
def refuse (entries : Value) (s : Settings) (what : Text) : Action Unit := do
  let answer ← read (·.answer)
  giveUp entries s (what ++ " failed: " ++ (ServerAnswer.message answer).shown)
    (ServerAnswer.code answer)

/-- Opens the connection, upgrades it and binds, as far as the settings ask for it. -/
def establish (entries : Value) (s : Settings) : Action Unit := do
  let _ ← serve .opened (·.start) .null
  if s.useStartTls.truthy then
    let done ← serve .tlsStarted (·.startTls) (.bool true)
    if !done.truthy then refuse entries s "StartTLS"
  if s.bindDn.truthy then
    let done ← serve .bound (·.bind) (.bool true)
    if !done.truthy then refuse entries s "Bind"

/-- Connects to the directory server. -/
def connect (s : Settings) : Action Unit := do
  let entries ← logger
  let password ← decoded s.bindPassword
  prepare s password
  log entries .debug ("Connecting to server: " ++ s.uri)
  match ← attempt (establish entries s) with
  | .ok () => return
  | .error f =>
    if f.isRefusal then giveUp entries s f.shown (.int ResultCode.connectError.code) else fail f

/-- Runs an action inside a session. The connection is closed behind it; a failure to close that is
not a refusal takes the place of the outcome. -/
def session {α : Type} (s : Settings) (body : Action α) : Action α := do
  connect s
  let outcome ← attempt body
  close
  settle outcome

/-- Sends a request over the connection and gives its result; a refusal is a result too. -/
def submit (r : DeviceRequest) : Action ExtendedResult := do
  let entries ← logger
  let value ← orFail r.value .request
  log entries .debug
    ("Sending " ++ r.operation.name ++ " request (" ++ r.oid ++ ") for: " ++
      (Value.ofText? r.authId).shown)
  match ← attempt (extend r.oid value) with
  | .ok () =>
    let answer ← read (·.answer)
    let result ← orFail (ExtendedResult.ofAnswer answer) .defect
    let shown ← orFail result.shown .defect
    log entries .debug ("Got result: " ++ shown)
    return result
  | .error f =>
    match f with
    | .raised raised =>
      if f.isRefusal then
        log entries .warning ("Request failed: " ++ f.shown)
        return ExtendedResult.ofRaised raised
      else fail f
    | f => fail f
where
  /-- Sends an extended operation; unless the server says otherwise it is a success. -/
  extend (oid : Text) (value : List UInt8) : Action Unit := do
    let sent : DirectoryServer → Reply := fun server =>
      { server.extended with answer := some (server.extended.answer.getD ServerAnswer.success) }
    let _ ← serve (.extendedSent oid value) sent (.bool true)

end OtpRegistrar.Action
