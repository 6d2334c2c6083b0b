/-
Laying out a value on lines of eighty columns.

A value that fits into what is left of its line stands there as it is. Otherwise a list takes one
line an item and a dictionary one line an entry, indented below the opening bracket, and a long text
is cut at line ends and behind white space. Keys are shown in increasing order.
-/
import OtpRegistrar.Value.Shown
import OtpRegistrar.Text.Blank
namespace OtpRegistrar.Value

/-- The columns of a line. -/
def lineWidth : Int := 80

/-! ### Keys in order -/

/-- Does one key come before another? Texts and numbers are compared among themselves; keys that
cannot be compared are ordered by the names of their types. -/
def keyLess (a b : Value) : Bool :=
  match a, b with
  | text s, text t => Text.less s t
  | a, b =>
    match a.ratio?, b.ratio? with
    | some (m, d), some (n, e) => m * e < n * d
    | _, _ => Text.less a.kind.shown b.kind.shown

mutual
/-- The value with the keys of all its dictionaries in order. -/
def sortKeys : Value → Value
  | list items => list (sortItems items)
  | dict entries => dict ((sortEntries entries).mergeSort fun a b => !keyLess b.1 a.1)
  | v => v
/-- The items with the keys of their dictionaries in order. -/
def sortItems : List Value → List Value
  | [] => []
  | x :: xs => sortKeys x :: sortItems xs
/-- The entries with the keys of the dictionaries below them in order. -/
def sortEntries : List (Value × Value) → List (Value × Value)
  | [] => []
  | (k, v) :: rest => (k, sortKeys v) :: sortEntries rest
end

/-! ### Cutting a long text -/

/-- Does the symbol end a line? -/
def endsLine : Symbol → Bool
  | .char c => Text.inRanges [(10, 13), (28, 30), (133, 133), (8232, 8233)] c.toNat
  | .stray _ => false

/-- The lines of a text with their ends; a carriage return takes a line feed behind it along. -/
def linesWithEnds (line : Text) : Text → List Text
  | [] => if line.isEmpty then [] else [line.reverse]
  | s :: t =>
    if s = .char '\r' ∧ t.head? = some (.char '\n') then linesWithEnds (s :: line) t
    else if endsLine s then (s :: line).reverse :: linesWithEnds [] t
    else linesWithEnds (s :: line) t

/-- The pieces of a line: each a word and the white space behind it. -/
def pieces (piece : Text) : Text → List Text
  | [] => if piece.isEmpty then [] else [piece.reverse]
  | s :: t =>
    match piece with
    | last :: _ =>
      if last.isBlank && !s.isBlank then piece.reverse :: pieces [s] t
      else pieces (s :: piece) t
    | [] => pieces [s] t

/-- Fills lines of `width` columns with pieces, the last one having `lastWidth`. -/
def fill (width lastWidth : Int) (current : Text) : List Text → List Text
  | [] => if current.isEmpty then [] else [current.quoted]
  | piece :: rest =>
    let limit := if rest.isEmpty then lastWidth else width
    if ((current ++ piece).quoted.length : Int) > limit then
      (if current.isEmpty then [] else [current.quoted]) ++ fill width lastWidth piece rest
    else fill width lastWidth (current ++ piece) rest

/-- The quoted chunks of the lines of a text; the last line leaves `allowance` columns free. -/
def chunks (width : Int) (allowance : Nat) : List Text → List Text
  | [] => []
  | line :: rest =>
    let lastWidth := if rest.isEmpty then width - allowance else width
    (if (line.quoted.length : Int) ≤ lastWidth then [line.quoted]
    else fill width lastWidth [] (pieces [] line)) ++ chunks width allowance rest

/-! ### Placing a value -/

/-- A line end and the indentation of the next line. -/
def lineBreak (indent : Nat) : Text := Text.newline ++ Text.blanks indent

mutual
/-- The value placed at column `indent`, with `allowance` columns needed behind it. -/
def place (indent allowance : Nat) (v : Value) : Text :=
  if (v.quoted.length : Int) ≤ lineWidth - indent - allowance then v.quoted
  else match v with
    | list items => "[" ++ placeItems (indent + 1) (allowance + 1) items ++ "]"
    | dict entries => "\x7b" ++ placeEntries (indent + 1) (allowance + 1) entries ++ "\x7d"
    | text (s :: t) =>
      Text.join (lineBreak indent)
        (chunks (lineWidth - indent) allowance (linesWithEnds [] (s :: t)))
    | v => v.quoted
/-- List items, one a line. -/
def placeItems (indent allowance : Nat) : List Value → Text
  | [] => []
  | x :: [] => place indent allowance x
  | x :: y :: rest =>
    place indent 1 x ++ "," ++ lineBreak indent ++ placeItems indent allowance (y :: rest)
/-- Dictionary entries, one a line. -/
def placeEntries (indent allowance : Nat) : List (Value × Value) → Text
  | [] => []
  | (k, v) :: [] =>
    k.quoted ++ ": " ++ place (indent + k.quoted.length + 2) allowance v
  | (k, v) :: e :: rest =>
    k.quoted ++ ": " ++ place (indent + k.quoted.length + 2) 1 v ++ "," ++ lineBreak indent ++
      placeEntries indent allowance (e :: rest)
end

/-- The value laid out from column zero, keys in order. -/
def laidOut (v : Value) : Text := place 0 0 v.sortKeys

end OtpRegistrar.Value
