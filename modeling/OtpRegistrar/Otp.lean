/-
One-time passwords of YubiKey devices.

Such a password is written in modhex, sixteen letters that sit on the same keys in most keyboard
layouts, and consists of the public identity of the device, up to sixteen letters, and thirty-two
letters that change with every use.
-/
import OtpRegistrar.Text.Basic
namespace OtpRegistrar.Otp

/-- Why a text is no one-time password or no modhex. -/
inductive Flaw where
  | lengthMismatch
  | malformed
  | notModhex (s : Symbol)
  deriving DecidableEq

/-- What is shown of a flaw. -/
def Flaw.message : Flaw → Text
  | .lengthMismatch => "OTP length mismatch."
  | .malformed => "OTP does not match expected syntax."
  | .notModhex s => "\"" ++ [s] ++ "\": Character is not a valid modhex string"

/-- The modhex letters, by value. -/
def modhexLetters : List Char :=
  ['c', 'b', 'd', 'e', 'f', 'g', 'h', 'i', 'j', 'k', 'l', 'n', 'r', 't', 'u', 'v']

/-- The value of a modhex letter. -/
def modhexValue? : Symbol → Option Nat
  | .char c => modhexLetters.idxOf? c
  | .stray _ => none

/-- Is the symbol a modhex letter? -/
def isModhex (s : Symbol) : Bool := (modhexValue? s).isSome

/-- The hexadecimal digits of a modhex text. -/
def toHex : Text → Except Flaw Text
  | [] => .ok []
  | s :: t =>
    match modhexValue? s with
    | none => .error (.notModhex s)
    | some n => (toHex t).map (.char (Nat.digitChar n) :: ·)

/-- The number of letters that change with every use. -/
def variableLength : Nat := 32

/-- The most letters of a public identity. -/
def identityLimit : Nat := 16

/-- The text that the form of a password is checked on: one line feed at the very end is not looked
at. -/
def withoutFinalNewline (t : Text) : Text :=
  if t.getLast? = some (.char '\n') then t.dropLast else t

/-- The public identity in a one-time password: what stands before the last thirty-two letters. -/
def publicId (otp : Text) : Except Flaw Text :=
  if otp.length ≤ variableLength ∨ identityLimit + variableLength < otp.length then
    .error .lengthMismatch
  else
    let letters := withoutFinalNewline otp
    if letters.all isModhex ∧ variableLength ≤ letters.length then
      .ok (letters.take (letters.length - variableLength))
    else .error .malformed

end OtpRegistrar.Otp
