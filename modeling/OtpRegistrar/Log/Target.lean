/-
Where the system log listens, and the facilities it knows.
-/
import OtpRegistrar.Log.Registry
import OtpRegistrar.Number.Integer
import OtpRegistrar.Text.Casing
namespace OtpRegistrar.Syslog

/-- The address that a text stands for: a host with a port behind the last colon, or a socket. -/
def Address.ofText (t : Text) : Except Integer.Flaw Address :=
  match Text.splitLast? (.char ':') t with
  | none => .ok (.socket t)
  | some (host, port) => (Integer.read port).map (.remote host)

/-- The number of a facility, by its name in any case. -/
def facility? (name : Text) : Option Nat :=
  (facilities.find? fun (n, _) => Text.ofString n = name.lower).map (·.2)

end OtpRegistrar.Syslog
