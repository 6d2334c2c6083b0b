/-
Whole numbers in decimal.

Writing has one form. Reading is generous: blanks around the number, a sign, an underscore between
two digits and the decimal digits of every script are taken; a number of more than 4300 digits is
refused.
-/
import OtpRegistrar.Text.Blank
import OtpRegistrar.Text.Quoted
namespace OtpRegistrar

namespace Symbol

/-- The code points of the zeros of Unicode 14; the nine code points behind each are the other
digits. -/
def decimalZeros : List Nat :=
  [48, 1632, 1776, 1984, 2406, 2534, 2662, 2790, 2918, 3046, 3174, 3302, 3430, 3558, 3664, 3792,
   3872, 4160, 4240, 6112, 6160, 6470, 6608, 6784, 6800, 6992, 7088, 7232, 7248, 42528, 43216,
   43264, 43472, 43504, 43600, 44016, 65296, 66720, 68912, 69734, 69872, 69942, 70096, 70384,
   70736, 70864, 71248, 71360, 71472, 71904, 72016, 72784, 73040, 73120, 92768, 92864, 93008,
   120782, 120792, 120802, 120812, 120822, 123200, 123632, 125264, 130032]

/-- The value of a decimal digit of any script. -/
def decimalValue? : Symbol → Option Nat
  | char c =>
    (decimalZeros.find? fun z => z ≤ c.toNat && c.toNat < z + 10).map (c.toNat - ·)
  | stray _ => none

/-- May the symbol surround a number? The information separators of ASCII may not. -/
def isNumberBlank (s : Symbol) : Bool := s.isAsciiBlank || (s.code > 127 && s.isBlank)

end Symbol

namespace Integer

/-- The digits of a natural number. -/
def digitsOf (n : Nat) : Text := (Nat.toDigits 10 n).map .char

/-- The decimal form: an optional minus, then digits without a leading zero. -/
def text : Int → Text
  | .ofNat n => digitsOf n
  | .negSucc n => .char '-' :: digitsOf (n + 1)

/-- The number that digits spell, the highest first. -/
def ofDigits (digits : List Nat) : Nat := digits.foldl (fun n d => 10 * n + d) 0

/-- Why a text is no number. -/
inductive Flaw where
  /-- The text is not of the form of a number. -/
  | malformed (t : Text)
  /-- The number has more digits than are read. -/
  | tooLong (digits : Nat)
  deriving DecidableEq

/-- The most digits that are read. -/
def digitLimit : Nat := 4300

/-- What is shown of a number that cannot be read; a long text is shown in part. -/
def Flaw.message : Flaw → Text
  | .malformed t => "invalid literal for int() with base 10: " ++ t.quoted.take 200
  | .tooLong n =>
    "Exceeds the limit (" ++ digitsOf digitLimit ++
      " digits) for integer string conversion: value has " ++ digitsOf n ++
      " digits; use sys.set_int_max_str_digits() to increase the limit"

/-- The digits of a text that holds nothing else; an underscore may stand between two of them. -/
def readDigits? : Text → Option (List Nat)
  | [] => none
  | s :: t =>
    match s.decimalValue? with
    | none => none
    | some d =>
      match t with
      | [] => some [d]
      | u :: rest =>
        if u = .char '_' then (readDigits? rest).map (d :: ·)
        else (readDigits? (u :: rest)).map (d :: ·)

/-- The sign of a number and what stands behind it. -/
def splitSign : Text → Bool × Text
  | .char '-' :: t => (true, t)
  | .char '+' :: t => (false, t)
  | t => (false, t)

/-- May the symbol stand in the run of digits of a number? -/
def isDigitOrUnderscore (s : Symbol) : Bool := s.decimalValue?.isSome || s == .char '_'

/-- Reads a whole number. Its digits are counted before what stands behind them is looked at. -/
def read (t : Text) : Except Flaw Int :=
  let (negative, body) := splitSign (t.dropWhile Symbol.isNumberBlank)
  match readDigits? (body.takeWhile isDigitOrUnderscore) with
  | none => .error (.malformed t)
  | some digits =>
    if digits.length > digitLimit then .error (.tooLong digits.length)
    else if (body.dropWhile isDigitOrUnderscore).all Symbol.isNumberBlank then
      .ok (if negative then -(ofDigits digits : Int) else ofDigits digits)
    else .error (.malformed t)

end Integer

end OtpRegistrar
