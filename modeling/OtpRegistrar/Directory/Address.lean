/-
Where a directory server listens.

A host is given as a name, an address or a URL. A URL decides about TLS, whatever was asked for, and
a port in the host replaces the one given beside it. What comes out is the end that a connection is
made to, under the name that stands for it.
-/
import OtpRegistrar.Directory.IPv6
import OtpRegistrar.Number.Integer
import OtpRegistrar.Text.Casing
import OtpRegistrar.Text.Utf8
import OtpRegistrar.Value.Shown
namespace OtpRegistrar

/-- The end that a connection is made to: host, port (null for a local socket), whether TLS is on
from the start, and the name of it all. -/
structure Endpoint where
  host : Text
  port : Value
  secure : Bool
  name : Text

namespace Endpoint

/-- Why a host and a port make no end of a connection. -/
inductive Flaw where
  | portNotNumber
  | portOutOfRange
  | notAddress
  | badUrl
  /-- The port in a URL has more digits than are read; this is no matter of the directory client. -/
  | unreadablePort (f : Integer.Flaw)
  deriving DecidableEq

/-- The kind of a flaw. -/
def Flaw.name : Flaw → Text
  | portNotNumber | portOutOfRange => "LDAPInvalidPortError"
  | notAddress | badUrl => "LDAPInvalidServerError"
  | unreadablePort _ => "bad value"

/-- What is said of a flaw; of a text that is no address, nothing. -/
def Flaw.message : Flaw → Text
  | portNotNumber => "port must be an integer"
  | portOutOfRange => "Source port must in range from 0 to 65535"
  | notAddress => []
  | badUrl => "invalid URL in server name"
  | unreadablePort f => f.message

/-- How a host is written. -/
inductive Scheme where
  | plain
  | ldap
  | ldaps
  /-- A socket on the same machine. -/
  | ldapi
  deriving DecidableEq

/-- The scheme of a host without surrounding blanks, and what stands behind it. -/
def splitScheme (host : Text) : Scheme × Text :=
  let lower := host.lower
  if lower.startsWith "ldap://" then (.ldap, host.drop 7)
  else if lower.startsWith "ldaps://" then (.ldaps, host.drop 8)
  else if lower.startsWith "ldapi://" then (.ldapi, host.drop 7)
  else (.plain, host)

/-- The value of a hexadecimal digit. -/
def hexValue? : Symbol → Option Nat
  | .char c =>
    if c.isDigit then some (c.toNat - 48)
    else if 'a' ≤ c ∧ c ≤ 'f' then some (c.toNat - 87)
    else if 'A' ≤ c ∧ c ≤ 'F' then some (c.toNat - 55)
    else none
  | .stray _ => none

/-- The bytes of a text of ASCII in which a percent sign with two hexadecimal digits stands for a
byte. -/
def percentBytes : Text → List UInt8
  | .char '%' :: a :: b :: t =>
    match hexValue? a, hexValue? b with
    | some m, some n => UInt8.ofNat (16 * m + n) :: percentBytes t
    | _, _ => 37 :: percentBytes (a :: b :: t)
  | s :: t => Text.symbolBytes s ++ percentBytes t
  | [] => []
termination_by t => t.length

/-- A text decoded whose ASCII run before it is given, last symbol first. -/
def percentDecodedFrom (run : Text) : Text → Text
  | [] => Text.decodeLossy (percentBytes run.reverse)
  | s :: t =>
    if s.code < 128 then percentDecodedFrom (s :: run) t
    else Text.decodeLossy (percentBytes run.reverse) ++ s :: percentDecodedFrom [] t

/-- A percent-encoded text decoded. What is not ASCII stands for itself and ends a run of bytes;
bytes that spell nothing are replaced. -/
def percentDecoded (t : Text) : Text := percentDecodedFrom [] t

/-- Does the text hold more than one colon? -/
def manyColons (t : Text) : Bool := 1 < t.count (.char ':')

/-- The host and the port that a host text stands for; no port leaves the given one. -/
def splitPort (url : Bool) (host : Text) : Except Flaw (Text × Option Int) :=
  if host.count (.char ':') = 1 then
    match Text.splitFirst? (.char ':') host with
    | none => .ok (host, none)
    | some (name, port) =>
      match Integer.read port with
      | .error _ => .error .portNotNumber
      | .ok n => .ok (name, if n = 0 then none else some n)
  else if url && host.startsWith "[" then
    match Text.splitFirst? (.char ']') (host.drop 1) with
    | none => .error .notAddress
    | some (name, rest) =>
      if !IPv6.isAddress name then .error .notAddress
      else
        match rest with
        | [] => .ok (name, none)
        | s :: port =>
          if s ≠ .char ':' then .error .badUrl
          else if port.isEmpty || !port.all (·.decimalValue?.isSome) then .error .portNotNumber
          else
            match Integer.read port with
            | .error f => .error (.unreadablePort f)
            | .ok n => .ok (name, some n)
  else if !url && IPv6.isAddress host then .ok (host, none)
  else if manyColons host then .error .notAddress
  else .ok (host, none)

/-- The port of plain connections and of those with TLS. -/
def defaultPort (secure : Bool) : Int := if secure then 636 else 389

/-- The URI that stands for a host and a port. -/
def uriOf (host port : Text) (secure : Bool) : Text :=
  (if secure then "ldaps" else "ldap") ++ "://" ++ host ++ ":" ++ port

/-- The name of an end: an IPv6 address stands in brackets. -/
def nameOf (host : Text) (port : Value) (secure : Bool) : Text :=
  uriOf (if IPv6.isAddress host then "[" ++ host ++ "]" else host) port.shown secure

/-- The end of a connection by network; a port that does not count as true stands for the default.
-/
def remote (host : Text) (port : Value) (secure : Bool) : Except Flaw Endpoint :=
  let port := if port.truthy then port else .int (defaultPort secure)
  match port.whole? with
  | none => .error .portNotNumber
  | some n =>
    if 0 ≤ n ∧ n < 65535 then .ok ⟨host, port, secure, nameOf host port secure⟩
    else .error .portOutOfRange

/-- The end that a host and a port stand for; `secure` is what was asked for. -/
def resolve (host : Text) (port : Value) (secure : Bool) : Except Flaw Endpoint :=
  let host := host.strip
  match splitScheme host with
  | (.ldapi, path) => .ok ⟨percentDecoded path, .null, false, host⟩
  | (scheme, rest) =>
    let secure := match scheme with
      | .ldap => false
      | .ldaps => true
      | _ => secure
    match splitPort (scheme != .plain) rest with
    | .error e => .error e
    | .ok (name, stated) => remote name ((stated.map Value.int).getD port) secure

end Endpoint

end OtpRegistrar
