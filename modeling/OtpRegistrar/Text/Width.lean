/-
How many columns of a terminal one symbol fills, and how tabs fill up to the next stop.

A tab goes to the next multiple of eight symbols, whatever columns these fill; the symbols are
counted from the start of a line or from the last carriage return.
-/
import OtpRegistrar.Text.Basic
import OtpRegistrar.Text.Table.Joining
import OtpRegistrar.Text.Table.Width
namespace OtpRegistrar

namespace Symbol

/-- Is the symbol a control character? -/
def isControl (s : Symbol) : Bool := s.code < 32 || (127 ≤ s.code && s.code < 160)

/-- The columns that the symbol fills by itself. -/
def width (s : Symbol) : Nat :=
  match s with
  | .stray _ => 1
  | .char c =>
    if s.isControl then 0
    else if c.toNat < 0x300 then 1
    else if Text.inRanges Text.Table.zeroWidth c.toNat then 0
    else if Text.inRanges Text.Table.wide c.toNat then 2
    else 1

/-- Does the symbol take a column behind a base? -/
def isSpacingMark (s : Symbol) : Bool := Text.inRanges Text.Table.spacingMark s.code

/-- Is the symbol a picture that a tone of skin may follow? -/
def isPictograph (s : Symbol) : Bool := Text.inRanges Text.Table.pictograph s.code

/-- Is the symbol shown in one column unless something asks for a picture? -/
def isTextPictograph (s : Symbol) : Bool := Text.inRanges Text.Table.textPictograph s.code

/-- Does the symbol join the consonants around it? -/
def isVirama (s : Symbol) : Bool := Text.inRanges Text.Table.virama s.code

/-- Is the symbol a consonant that can be joined? -/
def isConsonant (s : Symbol) : Bool := Text.inRanges Text.Table.consonant s.code

/-- Is the symbol a letter of a flag? -/
def isRegional (s : Symbol) : Bool := 0x1F1E6 ≤ s.code && s.code ≤ 0x1F1FF

/-- Is the symbol a tone of skin? -/
def isSkinTone (s : Symbol) : Bool := 0x1F3FB ≤ s.code && s.code ≤ 0x1F3FF

end Symbol

namespace Text

/-- Tabs become blanks up to the next stop; `column` symbols stand before on the line. -/
def expandTabs (column : Nat) : Text → Text
  | [] => []
  | s :: t =>
    if s = .char '\t' then
      let gap := 8 - column % 8
      blanks gap ++ expandTabs (column + gap) t
    else s :: expandTabs (if s = .char '\n' ∨ s = .char '\r' then 0 else column + 1) t

end Text

end OtpRegistrar
