/-
Cutting and padding a text into a field of a template.

A layout gives the least width, the most symbols that are shown, and where the padding goes. It is
written the way templates write it: fill and alignment, then width, then a point and the limit. What
makes sense for numbers alone (a sign, grouping, another form) is read, and refused for a text.
-/
import OtpRegistrar.Number.Integer
namespace OtpRegistrar.Text

/-- Where a text stands in a wider field. -/
inductive Alignment where
  | left
  | right
  | center
  /-- Padding behind a sign; only numbers have one. -/
  | afterSign
  deriving DecidableEq

/-- The alignment that a symbol stands for. -/
def Alignment.ofSymbol? : Symbol → Option Alignment
  | .char '<' => some left
  | .char '>' => some right
  | .char '^' => some center
  | .char '=' => some afterSign
  | _ => none

/-- How a text is laid out in a field. -/
structure Padding where
  fill : Symbol
  alignment : Alignment
  width : Nat
  limit : Option Nat

/-- Why a layout cannot be used for a text. -/
inductive Padding.Flaw where
  | tooManyDigits
  | missingLimit
  | twoGroupings
  | malformed (layout : Text)
  | grouping (mark : Symbol) (type : Symbol)
  | unknownType (type : Symbol)
  | sign
  | blankSign
  | negativeZero
  | alternateForm
  | alignment
  deriving DecidableEq

/-- A symbol as messages show it: printable ASCII as itself, all else by its code point. -/
def shownSymbol (s : Symbol) (low high : Nat) : Text :=
  if low < s.code ∧ s.code < high then [s]
  else "\\x" ++ ((Nat.toDigits 16 s.code).map .char : Text)

/-- What is shown of an unusable layout. -/
def Padding.Flaw.message : Padding.Flaw → Text
  | .tooManyDigits => "Too many decimal digits in format string"
  | .missingLimit => "Format specifier missing precision"
  | .twoGroupings => "Cannot specify both ',' and '_'."
  | .malformed layout => "Invalid format specifier '" ++ layout ++ "' for object of type 'str'"
  | .grouping mark type =>
    "Cannot specify '" ++ [mark] ++ "' with '" ++ shownSymbol type 32 127 ++ "'."
  | .unknownType type =>
    "Unknown format code '" ++ shownSymbol type 32 128 ++ "' for object of type 'str'"
  | .sign => "Sign not allowed in string format specifier"
  | .blankSign => "Space not allowed in string format specifier"
  | .negativeZero => "Negative zero coercion (z) not allowed in string format specifier"
  | .alternateForm => "Alternate form (#) not allowed in string format specifier"
  | .alignment => "'=' alignment not allowed in string format specifier"

/-- The largest number that a layout may hold. -/
def layoutNumberLimit : Nat := 9223372036854775807

/-- The number at the start of a layout, if there is one, and what stands behind it. -/
def takeNumber (t : Text) : Except Padding.Flaw (Option Nat × Text) :=
  let digits := (t.takeWhile fun s => s.decimalValue?.isSome).filterMap Symbol.decimalValue?
  let n := Integer.ofDigits digits
  if digits.isEmpty then .ok (none, t)
  else if layoutNumberLimit < n then .error .tooManyDigits
  else .ok (some n, t.drop digits.length)

/-- The mark at the start of a text taken off, if it is there. -/
def takeSymbol (s : Symbol) (t : Text) : Bool × Text :=
  match t with
  | [] => (false, [])
  | s' :: rest => if s' = s then (true, rest) else (false, t)

/-- The fill and the alignment at the start of a layout. -/
def takeAlignment (t : Text) : Option Symbol × Option Alignment × Text :=
  match t with
  | fill :: a :: rest =>
    match Alignment.ofSymbol? a with
    | some alignment => (some fill, some alignment, rest)
    | none =>
      match Alignment.ofSymbol? fill with
      | some alignment => (none, some alignment, a :: rest)
      | none => (none, none, t)
  | [a] =>
    match Alignment.ofSymbol? a with
    | some alignment => (none, some alignment, [])
    | none => (none, none, t)
  | [] => (none, none, [])

/-- The sign at the start of a layout. -/
def takeSignMark (t : Text) : Option Symbol × Text :=
  match t with
  | s :: rest =>
    if s = .char '+' ∨ s = .char '-' ∨ s = .char ' ' then (some s, rest) else (none, t)
  | [] => (none, [])

/-- The marks that group the digits of a number. -/
def takeGrouping (t : Text) : Except Padding.Flaw (Option Symbol × Text) :=
  let (comma, t) := takeSymbol (.char ',') t
  let (underscore, t) := takeSymbol (.char '_') t
  if comma && underscore then .error .twoGroupings
  else if underscore && t.head? = some (.char ',') then .error .twoGroupings
  else .ok (if comma then some (.char ',') else if underscore then some (.char '_') else none, t)

/-- The types that may group their digits by the given mark. -/
def groupingTypes (mark : Symbol) : Text :=
  ofString "deEfFgG%" ++ if mark = .char '_' then ofString "boxX" else []

/-- The limit behind a point. -/
def takeLimit (t : Text) : Except Padding.Flaw (Option Nat × Text) :=
  match takeSymbol (.char '.') t with
  | (false, t) => .ok (none, t)
  | (true, t) =>
    match takeNumber t with
    | .error e => .error e
    | .ok (none, _) => .error .missingLimit
    | .ok (limit, t) => .ok (limit, t)

/-- The type at the end of a layout; a text is of the type `s`. -/
def takeType (layout t : Text) : Except Padding.Flaw Symbol :=
  match t with
  | [] => .ok (.char 's')
  | [type] => .ok type
  | _ => .error (.malformed layout)

/-- Reads a layout for a text. -/
def Padding.read (layout : Text) : Except Padding.Flaw Padding := do
  let (fill, alignment, t) := takeAlignment layout
  let (sign, t) := takeSignMark t
  let (negativeZero, t) := takeSymbol (.char 'z') t
  let (alternate, t) := takeSymbol (.char '#') t
  let (zeros, t) := if fill.isNone then takeSymbol (.char '0') t else (false, t)
  let (width, t) ← takeNumber t
  let (grouping, t) ← takeGrouping t
  let (limit, t) ← takeLimit t
  let type ← takeType layout t
  match grouping with
  | some mark => if !(groupingTypes mark).contains type then throw (.grouping mark type)
  | none => pure ()
  if type != .char 's' then throw (.unknownType type)
  match sign with
  | some s => throw (if s = .char ' ' then .blankSign else .sign)
  | none => pure ()
  if negativeZero then throw .negativeZero
  if alternate then throw .alternateForm
  if alignment = some .afterSign then throw .alignment
  let fill := fill.getD (.char (if zeros then '0' else ' '))
  return ⟨fill, alignment.getD .left, width.getD 0, limit⟩

/-- Lays a text out. -/
def Padding.apply (p : Padding) (t : Text) : Text :=
  let t := match p.limit with | some n => t.take n | none => t
  let gap := p.width - t.length
  let before := match p.alignment with
    | .left | .afterSign => 0
    | .right => gap
    | .center => gap / 2
  List.replicate before p.fill ++ t ++ List.replicate (gap - before) p.fill

end OtpRegistrar.Text
