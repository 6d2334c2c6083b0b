/-
Where and how to connect to the directory server.

Of a switch it matters alone whether its value counts as true. TLS from the start and TLS by an
upgrade exclude each other, so no settings ask for both.
-/
import OtpRegistrar.Directory.Address
import OtpRegistrar.FileTree
import OtpRegistrar.Value.Shown
namespace OtpRegistrar

/-- How the certificate of a server is checked, and the file with the authorities that vouch for it;
null stands for none. -/
structure Tls where
  verified : Bool
  caFile : Value

namespace Tls

/-- The name of a way to check certificates. -/
def modeName (t : Tls) : Text := if t.verified then "CERT_REQUIRED" else "CERT_NONE"

/-- What a server with TLS uses if nothing else is said. -/
def unchecked : Tls := ⟨false, .null⟩

/-- Why there are no such TLS settings. -/
inductive Flaw where
  /-- The file of authorities is not there. -/
  | missingFile
  /-- What is given cannot name a file. -/
  | notFile
  deriving DecidableEq

/-- The kind of the failure to find a file of authorities. -/
def missingName : Text := "LDAPSSLConfigurationError"

/-- What is said of a file of authorities that is not there. -/
def missingMessage : Text := "invalid CA public key file"

/-- Is there an open channel with the number? Those for output and for errors always are. -/
def isChannel (n : Int) : Bool := n == 1 || n == 2

/-- Is there a file of authorities? It is given by its path, or by the number of a channel. -/
def hasFile (files : FileTree) : Value → Except Flaw Bool
  | .text path => .ok (files.exists? path)
  | v =>
    match v.whole? with
    | some n => .ok (isChannel n)
    | none => .error .notFile

/-- TLS settings with a file of authorities; what does not count as true stands for none. -/
def make (files : FileTree) (verified : Bool) (caFile : Value) : Except Flaw Tls :=
  if !caFile.truthy then .ok ⟨verified, .null⟩
  else
    match hasFile files caFile with
    | .error f => .error f
    | .ok there => if there then .ok ⟨verified, caFile⟩ else .error .missingFile

end Tls

/-- Settings of a connection. All of them keep the value they were given; what is not said has a
default. -/
structure Settings where
  host : Value := .text "localhost"
  port : Value := .null
  useSsl : Value := .bool false
  useStartTls : Value := .bool false
  trustAll : Value := .bool false
  caFile : Value := .null
  bindDn : Value := .null
  /-- The password to bind with, as text or as the bytes that were read. -/
  bindPassword : Value := .null
  timeout : Value := .null

namespace Settings

/-- Why there are no such settings. -/
inductive Flaw where
  | twoSecurityLayers
  deriving DecidableEq

/-- What is shown of a flaw. -/
def Flaw.message : Flaw → Text
  | .twoSecurityLayers => "SSL and StartTLS cannot be used together."

/-- The settings for what was said: a port that was not said is put in. -/
def make (said : Settings) : Except Flaw Settings :=
  if said.useSsl.truthy && said.useStartTls.truthy then .error .twoSecurityLayers
  else
    match said.port with
    | .null => .ok { said with port := .int (Endpoint.defaultPort said.useSsl.truthy) }
    | _ => .ok said

/-- The URI that stands for the server in messages. -/
def uri (s : Settings) : Text := Endpoint.uriOf s.host.shown s.port.shown s.useSsl.truthy

/-- What is shown of settings; the password is not. -/
def shown (s : Settings) : Text :=
  "<ConnectionSettings " ++ s.uri ++ " start_tls=" ++ s.useStartTls.shown ++ " bind_dn=" ++
    s.bindDn.shown ++ ">"

/-- Do the settings ask for TLS in any way? -/
def asksTls (s : Settings) : Bool := s.useSsl.truthy || s.useStartTls.truthy

/-- The TLS settings: none if TLS is not asked for. -/
def tls (files : FileTree) (s : Settings) : Except Tls.Flaw (Option Tls) :=
  if s.asksTls then (Tls.make files (!s.trustAll.truthy) s.caFile).map some else .ok none

end Settings

end OtpRegistrar
