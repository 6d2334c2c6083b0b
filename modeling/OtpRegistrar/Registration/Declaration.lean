/-
The command that registers and deregisters devices: its arguments, the constraints between them, and
its help.
-/
import OtpRegistrar.Arguments.Constraint
import OtpRegistrar.Help.Entry
namespace OtpRegistrar.Registration

/-- The name of the command. -/
def command : Text := "register-yubikey-otp-device"

/-- An argument with a value. -/
def valueArgument (spelling : String) (aliases : List String) (name : String) : Argument :=
  ⟨spelling, aliases.map Text.ofString, name, none, false, false, false⟩

/-- An argument with a value that is never shown. -/
def secretArgument (spelling : String) (aliases : List String) (name : String) : Argument :=
  { valueArgument spelling aliases name with sensitive := true }

/-- An argument with a path. -/
def fileArgument (spelling : String) (aliases : List String) (name : String) : Argument :=
  { valueArgument spelling aliases name with isFile := true }

/-- An argument without a value. -/
def flagArgument (spelling : String) (aliases : List String) (name : String) : Argument :=
  { valueArgument spelling aliases name with flag := some "True" }

/-- The arguments about the device and its user. -/
def deviceArguments : List Argument :=
  [flagArgument "--deregister" ["--de-register"] "deregister",
   valueArgument "--otp" [] "otp",
   valueArgument "--authID" ["--authenticationID", "--auth-id", "--authentication-id"] "auth_id",
   secretArgument "--userPassword" ["--user-password"] "user_password",
   fileArgument "--userPasswordFile" ["--user-password-file"] "user_password_file",
   flagArgument "--promptForUserPassword" ["--prompt-for-user-password"] "prompt_for_user_password"]

/-- The arguments about the connection. -/
def connectionArguments : List Argument :=
  [valueArgument "--hostname" [] "hostname",
   valueArgument "--port" [] "port",
   valueArgument "--bindDN" ["--bind-dn"] "bind_dn",
   secretArgument "--bindPassword" ["--bind-password"] "bind_password",
   fileArgument "--bindPasswordFile" ["--bind-password-file"] "bind_password_file",
   flagArgument "--promptForBindPassword" ["--prompt-for-bind-password"] "prompt_for_bind_password",
   flagArgument "--useSSL" ["--use-ssl"] "use_ssl",
   flagArgument "--useStartTLS" ["--use-start-tls"] "use_start_tls",
   flagArgument "--trustAll" ["--trust-all"] "trust_all",
   fileArgument "--caCertFile" ["--ca-cert-file"] "ca_cert_file",
   valueArgument "--connectTimeout" ["--connect-timeout"] "connect_timeout"]

/-- All arguments. -/
def arguments : List Argument := deviceArguments ++ connectionArguments

/-- At most one argument of a group may be given. -/
def exclusive : List (Text × List Text) :=
  [("user password", ["user_password", "user_password_file", "prompt_for_user_password"]),
   ("bind password", ["bind_password", "bind_password_file", "prompt_for_bind_password"]),
   ("security", ["use_ssl", "use_start_tls"])]

/-- A password needs someone whose password it is. -/
def dependent : List (Text × List Text) :=
  [("user_password", ["auth_id"]),
   ("user_password_file", ["auth_id"]),
   ("prompt_for_user_password", ["auth_id"]),
   ("bind_password", ["bind_dn"]),
   ("bind_password_file", ["bind_dn"]),
   ("prompt_for_bind_password", ["bind_dn"])]

/-- The page that the command shows as its help. -/
def page : Help.Page where
  listsGlobal := true
  usage := some "Usage: register-yubikey-otp-device [--deregister] [--otp <otp>] [--authID <auth_id>] [--userPassword <password>|--userPasswordFile <file>|--promptForUserPassword] [connection options]"
  description := some "Register a YubiKey OTP device with the account of a user so it may be used for UNBOUNDID-YUBIKEY-OTP authentication, or deregister one or all YubiKey OTP devices of that account."
  options :=
    [("--deregister", "Deregister the YubiKey OTP device given with --otp. Without --otp all YubiKey OTP devices of the user are deregistered."),
     ("--otp <otp>", "A one-time password generated by the YubiKey OTP device to register or deregister."),
     ("--authID <auth_id>", "The authentication ID (e.g. \"u:jdoe\" or \"dn:uid=jdoe,ou=People,dc=example,dc=com\") of the user. If omitted the device is registered for the user authenticated on the connection."),
     ("--userPassword <password>", "The static password of the user given with --authID."),
     ("--userPasswordFile <file>", "Read the static password of the user given with --authID from the first line of <file>."),
     ("--promptForUserPassword", "Prompt for the static password of the user given with --authID."),
     ("--hostname <host>", "The directory server to connect to."),
     ("--port <port>", "The port of the directory server."),
     ("--bindDN <dn>", "The DN to bind with."),
     ("--bindPassword <password>", "The password of the bind DN."),
     ("--bindPasswordFile <file>", "Read the password of the bind DN from the first line of <file>."),
     ("--promptForBindPassword", "Prompt for the password of the bind DN."),
     ("--useSSL", "Use SSL to connect to the directory server."),
     ("--useStartTLS", "Use StartTLS to secure the connection."),
     ("--trustAll", "Trust any server certificate."),
     ("--caCertFile <file>", "CA certificate(s) to verify the server certificate."),
     ("--connectTimeout <seconds>", "Connect timeout in seconds.")]
  examples :=
    [("--hostname server.example.com --port 389 --bindDN uid=admin,dc=example,dc=com --bindPassword adminPassword --authenticationID u:test.user --userPassword testUserPassword --otp abcdefghijklmnopqrstuvwxyzabcdefghijklmnopqr",
      "Register a YubiKey OTP device for user u:test.user."),
     ("--hostname server.example.com --port 389 --bindDN uid=admin,dc=example,dc=com --bindPassword adminPassword --deregister --authenticationID dn:uid=test.user,ou=People,dc=example,dc=com",
      "Deregister all YubiKey OTP devices of the user uid=test.user,ou=People,dc=example,dc=com.")]

/-- The constraints between the arguments, exclusive sets first. -/
def constraints : List Constraint := Constraint.declared exclusive dependent

/-- Names with lists of names, as the register keeps them. -/
def groupsValue (groups : List (Text × List Text)) : Value :=
  .list (groups.map fun (name, names) => .list [.text name, .list (names.map .text)])

/-- What the register keeps about the command. -/
def entry : Help.Entry :=
  Help.Entry.ofPage page ++
    [(Help.Entry.syntaxPart, .text (Argument.toSyntax arguments)),
     (Help.Entry.exclusivePart, groupsValue exclusive),
     (Help.Entry.dependentPart, groupsValue dependent)]

/-- The command as a parser that has read nothing yet. -/
def parser : Parser := ⟨arguments, constraints, []⟩

/-- How the command is used, an error at the end if there is one. -/
def usage (error : Option Text) : Text :=
  page.render Help.Registry.standardOptions command error

end OtpRegistrar.Registration
