/-
What the bound arguments of an invocation ask for.

The command line counts before the configuration. If it names a way to secure the connection, those
of the configuration are left aside. A password for a bind is taken from where the command line
says, else from the file that the configuration names, else from a prompt; without a name to bind
with none is needed.
-/
import OtpRegistrar.Directory.Settings
import OtpRegistrar.Config.Store
import OtpRegistrar.Password.Source
import OtpRegistrar.Registration.Declaration
namespace OtpRegistrar.Registration

/-- The text that a variable is bound to, if it is bound to one. -/
def textArgument (bound : Bindings) (name : Text) : Option Text :=
  (bound.get? name).bind Value.text?

/-- The primary spelling for a variable. -/
def spellingOf (name : Text) : Text := Argument.spellingOf arguments name

/-! ### Checks -/

/-- The variables whose values are sent to the server. -/
def sentNames : List Text := ["auth_id", "otp", "bind_dn", "hostname"]

/-- Is what a variable is bound to UTF-8? Nothing is. -/
def isUtf8Argument (bound : Bindings) (name : Text) : Bool :=
  match textArgument bound name with
  | some t => Text.isUtf8 t
  | none => true

/-- Checks what the constraints do not say: what is sent is UTF-8, and there is something to do. -/
def check (bound : Bindings) : Except Usage Unit :=
  match sentNames.find? fun name => !isUtf8Argument bound name with
  | some name => .error (.notUtf8 (spellingOf name))
  | none =>
    if bound.has "deregister" || bound.has "otp" then .ok ()
    else .error (.nothingToRegister (spellingOf "otp"))

/-! ### Values -/

/-- The number that a bound value stands for. -/
def numberOf? : Value → Option Int
  | .text t => (Integer.read t).toOption
  | .int n => some n
  | .bool b => some (if b then 1 else 0)
  | _ => none

/-- The number that a variable is bound to, which must not be negative; a default if it is not
bound. -/
def numberArgument (bound : Bindings) (name : Text) (default : Value) : Except Usage Value :=
  match bound.get? name with
  | none | some .null => .ok default
  | some v =>
    match numberOf? v with
    | none => .error (.badNumber (spellingOf name) v)
    | some n => if n < 0 then .error (.badNumber (spellingOf name) v) else .ok (.int n)

/-- The user that the request is about. -/
def authId (bound : Bindings) : Option Text := textArgument bound "auth_id"

/-- The user as messages name them. -/
def userName (bound : Bindings) : Text := (authId bound).getD "<authenticated user>"

/-- The one-time password. -/
def otp (bound : Bindings) : Option Text := textArgument bound "otp"

/-- Is a device to be deregistered? -/
def deregisters (bound : Bindings) : Bool := bound.has "deregister"

/-- The name to bind with. -/
def bindDn (bound : Bindings) (config : Config) : Option Text :=
  match textArgument bound "bind_dn" with
  | some t => some t
  | none => config.text? "ldap_bind_dn"

/-! ### Passwords -/

/-- The source of the static password of the user. -/
def userPassword (bound : Bindings) : Except Template.Flaw PasswordSource :=
  PasswordSource.choose (textArgument bound "user_password")
    (textArgument bound "user_password_file") (bound.has "prompt_for_user_password") (authId bound)
    PasswordSource.userQuestion

/-- The source of the password to bind with. -/
def bindPassword (bound : Bindings) (config : Config) : Except Template.Flaw PasswordSource :=
  let dn := bindDn bound config
  let password := textArgument bound "bind_password"
  let path := textArgument bound "bind_password_file"
  let asked := bound.has "prompt_for_bind_password"
  let (path, asked) : Option Text × Bool :=
    if dn.isNone then (path, false)
    else if password.isNone && path.isNone && !asked then
      match config.text? "ldap_bind_password_file" with
      | none | some [] => (none, true)
      | some configured => (some configured, false)
    else (path, asked)
  PasswordSource.choose password path asked dn PasswordSource.bindQuestion

/-! ### The connection -/

/-- The value that a variable is bound to, else the one of the configuration. -/
def valueOr (bound : Bindings) (config : Config) (name variable_ : Text) : Value :=
  (bound.get? name).getD (config.get variable_)

/-- Does the command line name a way to secure the connection? -/
def namesSecurity (bound : Bindings) : Bool := bound.has "use_ssl" || bound.has "use_start_tls"

/-- A switch: that of the command line if that names a way to secure the connection, else that of
the configuration. -/
def switchOf (bound : Bindings) (config : Config) (name variable_ : Text) : Value :=
  if namesSecurity bound then .bool (bound.has name) else config.get variable_

/-- What is said about the connection. -/
def saidSettings (bound : Bindings) (config : Config) (password port timeout : Value) :
    Settings where
  host := valueOr bound config "hostname" "ldap_host"
  port
  useSsl := switchOf bound config "use_ssl" "ldap_use_ssl"
  useStartTls := switchOf bound config "use_start_tls" "ldap_use_start_tls"
  trustAll := if bound.has "trust_all" then .bool true else config.get "ldap_trust_all"
  caFile := valueOr bound config "ca_cert_file" "ldap_ca_cert"
  bindDn := Value.ofText? (bindDn bound config)
  bindPassword := password
  timeout

/-- The settings of the connection. -/
def settings (bound : Bindings) (config : Config) (password : Value) :
    Except Usage Settings :=
  match numberArgument bound "port" (config.get "ldap_port") with
  | .error u => .error u
  | .ok port =>
    match numberArgument bound "connect_timeout" (config.get "connect_timeout") with
    | .error u => .error u
    | .ok timeout =>
      match Settings.make (saidSettings bound config password port timeout) with
      | .error .twoSecurityLayers => .error .twoSecurityLayers
      | .ok s => .ok s

end OtpRegistrar.Registration
