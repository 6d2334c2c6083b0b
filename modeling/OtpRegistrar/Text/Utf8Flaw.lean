/-
What is shown of bytes that are not UTF-8 and of texts that cannot be written as UTF-8.
-/
import OtpRegistrar.Text.Utf8
import OtpRegistrar.Number.Integer
namespace OtpRegistrar.Text

/-- The place of a run of `count` items: one position, or the first and the last. -/
def placeText (position count : Nat) : Text :=
  if count ≤ 1 then Integer.digitsOf position
  else Integer.digitsOf position ++ "-" ++ Integer.digitsOf (position + count - 1)

/-- What is shown of a cause. -/
def DecodeCause.message : DecodeCause → Text
  | .startByte => "invalid start byte"
  | .continuationByte => "invalid continuation byte"
  | .endOfData => "unexpected end of data"

/-- What is shown of bytes that are not UTF-8. -/
def DecodeFlaw.message (f : DecodeFlaw) : Text :=
  let what : Text := match f.bytes with
    | [b] => "byte 0x" ++ ((hexDigits 2 b.toNat).map .char : Text)
    | _ => "bytes"
  "'utf-8' codec can't decode " ++ what ++ " in position " ++
    placeText f.position f.bytes.length ++ ": " ++ f.cause.message

/-- What is shown of a text that cannot be written as UTF-8. -/
def EncodeFlaw.message (f : EncodeFlaw) : Text :=
  let what : Text := match f.symbols with
    | [s] => "character " ++ quoted [s]
    | _ => "characters"
  "'utf-8' codec can't encode " ++ what ++ " in position " ++
    placeText f.position f.symbols.length ++ ": surrogates not allowed"

end OtpRegistrar.Text
