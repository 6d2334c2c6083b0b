/-
The quoted form of a text: what error messages and listings show of a value.

The text stands between single quotes, or between double quotes if that saves escaping a single
quote. A backslash, the quote in use and everything unprintable are escaped, so the quoted form of
any text is one printable line.
-/
import OtpRegistrar.Text.Basic
import OtpRegistrar.Text.Table.Unprintable
namespace OtpRegistrar.Text

/-- The lower-case hexadecimal digit of a number below 16. -/
def hexDigit (n : Nat) : Char := Nat.digitChar (n % 16)

/-- The last `width` hexadecimal digits of a number. -/
def hexDigits : (width : Nat) → Nat → List Char
  | 0, _ => []
  | width + 1, n => hexDigits width (n / 16) ++ [hexDigit n]

/-- The shortest numeric escape of a code point. -/
def escapeCode (n : Nat) : List Char :=
  if n < 0x100 then '\\' :: 'x' :: hexDigits 2 n
  else if n < 0x10000 then '\\' :: 'u' :: hexDigits 4 n
  else '\\' :: 'U' :: hexDigits 8 n

/-- Does the character stand for itself between quotes, escapes for quotes left aside? -/
def isPrintable (c : Char) : Bool :=
  if c.toNat < 128 then 32 ≤ c.toNat && c.toNat < 127
  else !inRanges Table.unprintable c.toNat

/-- One symbol between the given quotes. -/
def quoteSymbol (quote : Char) : Symbol → List Char
  | .char c =>
    if c = quote ∨ c = '\\' then ['\\', c]
    else if c = '\t' then ['\\', 't']
    else if c = '\n' then ['\\', 'n']
    else if c = '\r' then ['\\', 'r']
    else if isPrintable c then [c]
    else escapeCode c.toNat
  | .stray low => escapeCode (Symbol.code (.stray low))

/-- The quotes for a text: double ones only around a single quote and no double one. -/
def quoteFor (t : Text) : Char :=
  if t.contains (.char '\'') && !t.contains (.char '"') then '"' else '\''

/-- The quoted form of a text. -/
def quoted (t : Text) : Text :=
  let quote := quoteFor t
  .char quote :: (t.flatMap (quoteSymbol quote)).map .char ++ [.char quote]

/-- The quoted form of bytes, marked as bytes; only printable ASCII stands for itself. -/
def quotedBytes (bs : List UInt8) : Text :=
  let chars : Text := bs.map fun b => .char (Char.ofNat b.toNat)
  let quote := quoteFor chars
  let one (b : UInt8) : List Char :=
    if b.toNat < 128 then quoteSymbol quote (.char (Char.ofNat b.toNat)) else escapeCode b.toNat
  .char 'b' :: .char quote :: (bs.flatMap one).map .char ++ [.char quote]

end OtpRegistrar.Text
