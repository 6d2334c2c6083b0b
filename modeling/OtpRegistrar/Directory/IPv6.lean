/-
The written form of IPv6 addresses.

Eight groups of one to four hexadecimal digits stand between colons. Two colons in a row, once at
most, stand for the groups that are left out, of which there has to be one. The last two groups may
be written as an IPv4 address.
-/
import OtpRegistrar.Text.Basic
namespace OtpRegistrar.IPv6

/-- Is the symbol a decimal digit of ASCII? -/
def isDigit : Symbol → Bool
  | .char c => c.isDigit
  | .stray _ => false

/-- Is the symbol a hexadecimal digit? -/
def isHexDigit : Symbol → Bool
  | .char c => c.isDigit || ('a' ≤ c && c ≤ 'f') || ('A' ≤ c && c ≤ 'F')
  | .stray _ => false

/-- Is the text a group of hexadecimal digits? -/
def isGroup (t : Text) : Bool := 1 ≤ t.length && t.length ≤ 4 && t.all isHexDigit

/-- The value of decimal digits. -/
def decimal (t : Text) : Nat := t.foldl (fun n s => 10 * n + (s.code - 48)) 0

/-- Is the text a number from 0 to 255 without leading zeros? -/
def isOctet (t : Text) : Bool :=
  1 ≤ t.length && t.length ≤ 3 && t.all isDigit &&
    (t.length == 1 || t.head? != some (.char '0')) && decimal t ≤ 255

/-- Is the text an IPv4 address? -/
def isIPv4 (t : Text) : Bool :=
  let parts := Text.splitOn (.char '.') t
  parts.length == 4 && parts.all isOctet

/-- How many groups the parts between colons stand for, if they are well formed; only the last part
may be an IPv4 address, and only if `mixed` says so. -/
def groupCount? (mixed : Bool) : List Text → Option Nat
  | [] => some 0
  | [part] =>
    if isGroup part then some 1 else if mixed && isIPv4 part then some 2 else none
  | part :: parts => if isGroup part then (groupCount? mixed parts).map (· + 1) else none

/-- How many groups a text stands for; an empty text stands for none. -/
def groups? (mixed : Bool) (t : Text) : Option Nat :=
  if t.isEmpty then some 0 else groupCount? mixed (Text.splitOn (.char ':') t)

/-- What stands before and behind the first two colons in a row. -/
def splitGap? : Text → Option (Text × Text)
  | .char ':' :: .char ':' :: t => some ([], t)
  | s :: t => (splitGap? t).map fun (before, behind) => (s :: before, behind)
  | [] => none

/-- Is the text an IPv6 address? -/
def isAddress (t : Text) : Bool :=
  match splitGap? t with
  | none => groups? true t == some 8
  | some (before, behind) =>
    match groups? false before, groups? true behind with
    | some m, some n => m + n ≤ 7
    | _, _ => false

end OtpRegistrar.IPv6
