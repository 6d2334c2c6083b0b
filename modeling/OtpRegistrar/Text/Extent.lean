/-
How far a line reaches on a terminal.

A line is drawn from its start by a pen. Symbols move the pen by their width; a backspace, a
carriage return and some control sequences move it about, and other control sequences leave it where
it is. The extent of the line is the greatest column that the pen has come to. What a symbol fills
may depend on its neighbours: letters of flags stand in pairs, tones of skin belong to pictures,
marks and joined consonants to their bases, and a joiner hides what stands behind it.
-/
import OtpRegistrar.Text.Width
namespace OtpRegistrar

namespace Text

/-! ### Control sequences -/

/-- The symbol that starts a control sequence. -/
def escape : Symbol := .char '\x1b'

/-- Is the code of a symbol within the bounds? -/
def within (first last : Nat) (s : Symbol) : Bool := first ≤ s.code && s.code ≤ last

/-- The number of symbols up to the end of a string of control: a bell, or an escape symbol and a
backslash. -/
def stringLength? : Text → Option Nat
  | [] => none
  | s :: t =>
    if s = .char '\x07' then some 1
    else if s = escape then if t.head? = some (.char '\\') then some 2 else none
    else (stringLength? t).map (· + 1)

/-- The number of symbols of a control sequence behind its bracket: parameters, intermediate symbols
and one that ends it. -/
def parametersLength? (t : Text) : Option Nat :=
  let parameters := t.takeWhile (within 0x30 0x3F)
  let behind := t.drop parameters.length
  let between := behind.takeWhile (within 0x20 0x2F)
  match behind.drop between.length with
  | [] => none
  | s :: _ =>
    if within 0x40 0x7E s then some (parameters.length + between.length + 1) else none

/-- The number of symbols of the control sequence behind an escape symbol; zero if there is none. -/
def sequenceLength : Text → Nat
  | [] => 0
  | s :: t =>
    let whole? : Option Nat :=
      if s = .char '[' then parametersLength? t
      else if s = .char ']' ∨ s = .char '_' ∨ s = .char 'P' ∨ s = .char '^' then stringLength? t
      else none
    match whole? with
    | some n => n + 1
    | none =>
      if s = .char '(' ∨ s = .char ')' then if t.isEmpty then 0 else 2
      else if within 0x40 0x5F s then 1
      else if s = .char '7' ∨ s = .char '8' ∨ s = .char '=' ∨ s = .char '>' ∨ s = .char 'g' then 1
      else 0

/-- A movement of the pen on its line. -/
inductive Movement where
  | right (columns : Nat)
  | left (columns : Nat)
  | toColumn (column : Nat)
  deriving DecidableEq

/-- The movement that the control sequence behind an escape symbol asks for. Without a number it is
by one column, or to the first. -/
def movement? : Text → Option Movement
  | [] => none
  | s :: t =>
    if s = .char '[' then
      let digits := t.takeWhile (within 0x30 0x39)
      let n := if digits.isEmpty then 1 else digits.foldl (fun n s => 10 * n + (s.code - 48)) 0
      match t.drop digits.length with
      | .char 'C' :: _ => some (.right n)
      | .char 'D' :: _ => some (.left n)
      | .char 'G' :: _ => some (.toColumn (n - 1))
      | _ => none
    else none

/-- The text without control sequences; `skip` symbols of one are still to come. -/
def withoutSequences (skip : Nat) : Text → Text
  | [] => []
  | s :: t =>
    match skip with
    | n + 1 => withoutSequences n t
    | 0 => if s = escape then withoutSequences (sequenceLength t) t else s :: withoutSequences 0 t

/-- Does the text move the pen other than by filling columns? -/
def movesPen : Text → Bool
  | [] => false
  | s :: t =>
    s == .char '\x08' || s == .char '\r' || (s == escape && (movement? t).isSome) || movesPen t

end Text

/-- Where a pen stands, and what it remembers of the symbols before. -/
structure Pen where
  column : Nat := 0
  /-- The greatest column so far. -/
  reach : Nat := 0
  /-- The last symbol that filled columns of its own. -/
  base : Option Symbol := none
  /-- May a mark still belong to the base? -/
  isOpen : Bool := false
  /-- Does the base stand directly before? -/
  isNext : Bool := false
  /-- Is an odd number of letters of flags directly before? -/
  halfFlag : Bool := false
  /-- Does a sign that joins consonants stand before? -/
  joins : Bool := false
  /-- Are joined consonants waiting for the column that they take together? -/
  owes : Bool := false
  /-- The symbols that are passed over. -/
  skip : Nat := 0

namespace Pen

open Text (escape sequenceLength movement?)

/-- The pen moved to a column. -/
def moveTo (p : Pen) (column : Nat) : Pen := { p with column, reach := max p.reach column }

/-- The pen moved on its line. -/
def move (p : Pen) : Text.Movement → Pen
  | .right n => p.moveTo (p.column + n)
  | .left n => p.moveTo (p.column - n)
  | .toColumn n => p.moveTo n

/-- The pen with a new base. -/
def withBase (p : Pen) (s : Symbol) : Pen :=
  { p with base := some s, isOpen := true, isNext := true, joins := false }

/-- Is the base shown in one column unless something asks for a picture? -/
def hasTextPictograph (p : Pen) : Bool := p.base.any (·.isTextPictograph)

/-- May a tone of skin belong to the base? -/
def hasPictograph (p : Pen) : Bool := p.base.any fun s => s.isPictograph || s.isRegional

/-- A symbol drawn for itself or as a mark of the base. -/
def draw (p : Pen) (s : Symbol) : Pen :=
  if 0 < s.width then
    ({ p with owes := false }.moveTo (p.column + s.width + if p.owes then 1 else 0)).withBase s
  else if p.isOpen && s.isSpacingMark then
    { p.moveTo (p.column + 1) with isOpen := false, joins := false, owes := false }
  else { p with joins := s.isVirama }

/-- The symbol asks for a picture. In loose drawing it may stand apart from its base, and shuts it;
otherwise it has to follow the base directly, as `isNext` says. -/
def askPicture (loose isNext : Bool) (p : Pen) (s : Symbol) : Pen :=
  let wider := if p.hasTextPictograph then p.moveTo (p.column + 1) else p
  if loose then if p.isOpen then { wider with isOpen := false } else p.draw s
  else if isNext then wider
  else p

/-- The pen after a symbol that stands before the given text. -/
def step (loose : Bool) (p : Pen) (s : Symbol) (t : Text) : Pen :=
  let q := { p with isNext := false, halfFlag := s.isRegional && !p.halfFlag }
  if 0 < p.skip then { q with skip := p.skip - 1 }
  else if s = escape then
    let q := { q with skip := sequenceLength t }
    match movement? t with
    | some m => q.move m
    | none => q
  else if s = .char '\x08' then q.moveTo (q.column - 1)
  else if s = .char '\r' then q.moveTo 0
  else if s.isControl then q
  else if s = .char '\u200d' then if q.joins then q else { q with skip := 1 }
  else if s = .char '\ufe0f' then q.askPicture loose p.isNext s
  else if s.isRegional && p.halfFlag then { q with base := some s }
  else if s.isSkinTone && q.hasPictograph then q
  else if q.joins && s.isConsonant then { q.withBase s with owes := true }
  else q.draw s

/-- The pen after a line. -/
def trace (loose : Bool) (p : Pen) : Text → Pen
  | [] => if p.owes then p.moveTo (p.column + 1) else p
  | s :: t => trace loose (p.step loose s t) t

end Pen

namespace Text

/-- The length up to which a line is drawn symbol by symbol in any case. -/
def shortLine : Nat := 20

/-- The greatest column that a line reaches. A longer line that moves the pen only by filling
columns is drawn loosely, without its control symbols. -/
def extent (line : Text) : Nat :=
  if line.length ≤ shortLine || movesPen line then (Pen.trace false {} line).reach
  else (Pen.trace true {} ((withoutSequences 0 line).filter (!·.isControl))).reach

end Text

end OtpRegistrar
