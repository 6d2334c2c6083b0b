/-
White space.

The class is Unicode's `White_Space` with the four information separators U+001C to U+001F: what
trimming a line and cutting a text into words count as a gap. A smaller class, the six blanks of
ASCII, is what may surround a number.
-/
import OtpRegistrar.Text.Basic
namespace OtpRegistrar

/-- White space of any kind. -/
def Symbol.isBlank : Symbol → Bool
  | .char c => Text.inRanges
      [(9, 13), (28, 32), (133, 133), (160, 160), (5760, 5760), (8192, 8202), (8232, 8233),
       (8239, 8239), (8287, 8287), (12288, 12288)] c.toNat
  | .stray _ => false

/-- The blanks of ASCII: tab, line feed, vertical tab, form feed, carriage return and space. -/
def Symbol.isAsciiBlank : Symbol → Bool
  | .char c => (9 ≤ c.toNat && c.toNat ≤ 13) || c.toNat == 32
  | .stray _ => false

namespace Text

/-- The text without white space at its start. -/
def stripLeft (t : Text) : Text := t.dropWhile Symbol.isBlank

/-- The text without white space at its end. -/
def stripRight (t : Text) : Text := (t.reverse.dropWhile Symbol.isBlank).reverse

/-- The text without white space at either end. -/
def strip (t : Text) : Text := stripRight (stripLeft t)

/-- The text without the given symbol at its end, however often it stands there. -/
def stripRightOf (s : Symbol) (t : Text) : Text := (t.reverse.dropWhile (· == s)).reverse

/-- The word being read and the words behind it. -/
def wordsFrom (word : Text) : Text → List Text
  | [] => if word.isEmpty then [] else [word.reverse]
  | s :: t =>
    if s.isBlank then
      if word.isEmpty then wordsFrom [] t else word.reverse :: wordsFrom [] t
    else wordsFrom (s :: word) t

/-- The words of a text: its longest stretches without white space. -/
def words (t : Text) : List Text := wordsFrom [] t

end Text

end OtpRegistrar
