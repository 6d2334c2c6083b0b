/-
Texts with places for values.

A place stands between braces: the name of a value, then optionally `!` and a conversion, then a
colon and a layout, which may hold places itself. A brace that is text is written twice. The pieces
of a template are filled in from left to right, and the first flaw met is the one reported, be it in
the form of a place or in what it asks for.
-/
import OtpRegistrar.Text.Padding
import OtpRegistrar.Value.Part
namespace OtpRegistrar.Template

/-- Why a template cannot be filled in. -/
inductive Flaw where
  | loneOpening
  | loneClosing
  | openingInName
  | endBeforeConversion
  | noColonBehindConversion
  | unclosedLayout
  | unclosedPlace
  | unknownConversion (s : Symbol)
  | emptyPart
  | badPart
  | tooDeep
  | tooManyDigits
  | layout (f : Text.Padding.Flaw)
  /-- The place asks for a value by number, and there are none. -/
  | noPosition
  /-- No value has the name. -/
  | unknownName (name : Text)
  /-- The value has no such part, or takes no layout. -/
  | part (f : Part.Flaw)
  deriving DecidableEq

/-- What is shown of a flaw in the form of a template; the other flaws show nothing. -/
def Flaw.message : Flaw → Text
  | .loneOpening => "Single '\x7b' encountered in format string"
  | .loneClosing => "Single '\x7d' encountered in format string"
  | .openingInName => "unexpected '\x7b' in field name"
  | .endBeforeConversion => "end of string while looking for conversion specifier"
  | .noColonBehindConversion => "expected ':' after conversion specifier"
  | .unclosedLayout => "unmatched '\x7b' in format spec"
  | .unclosedPlace => "expected '\x7d' before end of string"
  | .unknownConversion s => "Unknown conversion specifier " ++ Text.shownSymbol s 32 127
  | .emptyPart => "Empty attribute in format string"
  | .badPart => "Only '.' or '[' may follow ']' in format field specifier"
  | .tooDeep => "Max string recursion exceeded"
  | .tooManyDigits => Text.Padding.Flaw.tooManyDigits.message
  | .layout f => f.message
  | .noPosition | .unknownName _ | .part _ => []

/-- A place for a value: what it asks for, the conversion, and the layout. -/
structure Place where
  name : Text
  conversion : Option Symbol
  layout : Text

/-- A piece of a template; a broken one ends it. -/
inductive Piece where
  | plain (t : Text)
  | place (p : Place)
  | broken (f : Flaw)

/-! ### Reading -/

/-- The symbol that opens a place. -/
def opening : Symbol := .char '\x7b'

/-- The symbol that closes a place. -/
def closing : Symbol := .char '\x7d'

/-- The name at the start of a place, with the symbol that ends it and what stands behind; brackets
hide all symbols up to the closing one. -/
def takeName (bracketed : Bool) : Text → Except Flaw (Text × Symbol × Text)
  | [] => .error .unclosedPlace
  | s :: t =>
    if bracketed && s != .char ']' then
      (takeName true t).map fun (name, stop) => (s :: name, stop)
    else if s = opening then .error .openingInName
    else if s = closing ∨ s = .char ':' ∨ s = .char '!' then .ok ([], s, t)
    else (takeName (s = .char '[') t).map fun (name, stop) => (s :: name, stop)

/-- The layout up to the brace that closes the place; `depth` further braces are open. -/
def takeLayout (depth : Nat) : Text → Except Flaw (Text × Text)
  | [] => .error .unclosedLayout
  | s :: t =>
    if s = closing ∧ depth = 0 then .ok ([], t)
    else
      let depth := if s = opening then depth + 1 else if s = closing then depth - 1 else depth
      (takeLayout depth t).map fun (layout, rest) => (s :: layout, rest)

/-- The place behind an opening brace, and what stands behind it. -/
def takePlace (t : Text) : Except Flaw (Place × Text) :=
  match takeName false t with
  | .error e => .error e
  | .ok (name, stop, t) =>
    if stop = closing then .ok (⟨name, none, []⟩, t)
    else if stop = .char ':' then
      (takeLayout 0 t).map fun (layout, rest) => (⟨name, none, layout⟩, rest)
    else
      match t with
      | [] => .error .endBeforeConversion
      | conversion :: [] =>
        (takeLayout 0 []).map fun (layout, rest) => (⟨name, some conversion, layout⟩, rest)
      | conversion :: s :: t =>
        if s = closing then .ok (⟨name, some conversion, []⟩, t)
        else if s = .char ':' then
          (takeLayout 0 t).map fun (layout, rest) => (⟨name, some conversion, layout⟩, rest)
        else .error .noColonBehindConversion

/-- The pieces of a template, of which at most `fuel` are read. -/
def piecesFrom : (fuel : Nat) → Text → List Piece
  | 0, _ | _, [] => []
  | fuel + 1, s :: t =>
    if s = opening then
      match t with
      | [] => [.broken .loneOpening]
      | s' :: rest =>
        if s' = opening then .plain [opening] :: piecesFrom fuel rest
        else
          match takePlace t with
          | .error f => [.broken f]
          | .ok (p, rest) => .place p :: piecesFrom fuel rest
    else if s = closing then
      match t with
      | [] => [.broken .loneClosing]
      | s' :: rest =>
        if s' = closing then .plain [closing] :: piecesFrom fuel rest
        else [.broken .loneClosing]
    else .plain [s] :: piecesFrom fuel t

/-- The pieces of a template; every piece takes a symbol at least. -/
def pieces (t : Text) : List Piece := piecesFrom t.length t

/-! ### Filling in -/

/-- The first name of a place, and the steps that are asked of its value. -/
def splitName (t : Text) : Text × Text :=
  (t.takeWhile fun s => s != .char '.' && s != .char '[',
   t.dropWhile fun s => s != .char '.' && s != .char '[')

/-- The position that the rest of a key spells, `n` being spelt before it. Digits are taken one at a
time, so a number that grows too great is a flaw whatever stands behind it. -/
def positionFrom (n : Nat) : Text → Except Flaw (Option Nat)
  | [] => .ok (some n)
  | s :: t =>
    match s.decimalValue? with
    | none => .ok none
    | some d =>
      if Text.layoutNumberLimit < 10 * n + d then .error .tooManyDigits
      else positionFrom (10 * n + d) t

/-- The position that a key spells, if it is one. -/
def position? (key : Text) : Except Flaw (Option Nat) :=
  if key.isEmpty then .ok none else positionFrom 0 key

/-- Follows the steps that are asked of a part. -/
def follow : (fuel : Nat) → Part → Text → Except Flaw Part
  | 0, p, _ | _, p, [] => .ok p
  | fuel + 1, p, s :: t =>
    if s = .char '.' then
      let (name, rest) := splitName t
      if name.isEmpty then .error .emptyPart
      else
        match p.named name with
        | .error f => .error (.part f)
        | .ok p => follow fuel p rest
    else if s = .char '[' then
      let key := t.takeWhile (· != .char ']')
      match position? key with
      | .error f => .error f
      | .ok position =>
        if key.isEmpty then .error .emptyPart
        else
          match p.item position with
          | .error f => .error (.part f)
          | .ok p => follow fuel p ((t.dropWhile (· != .char ']')).drop 1)
    else .error .badPart

/-- The part of a value that a place asks for. -/
def partOf (values : List (Text × Value)) (name : Text) : Except Flaw Part :=
  let (first, steps) := splitName name
  match position? first with
  | .error f => .error f
  | .ok position =>
    if first.isEmpty || position.isSome then .error .noPosition
    else
      match values.find? (·.1 == first) with
      | none => .error (.unknownName first)
      | some (_, v) => follow steps.length (.value v) steps

/-- The quoted form in ASCII: every other character is escaped. -/
def quotedAscii (p : Part) : Text :=
  p.quoted.flatMap fun s =>
    if s.code < 128 then [s] else (Text.escapeCode s.code).map .char

/-- The part as its conversion shows it. -/
def converted (p : Part) : Option Symbol → Except Flaw Part
  | none => .ok p
  | some (.char 's') => .ok (.value (.text p.shown))
  | some (.char 'r') => .ok (.value (.text p.quoted))
  | some (.char 'a') => .ok (.value (.text (quotedAscii p)))
  | some s => .error (.unknownConversion s)

/-- The part laid out; only texts take a layout. -/
def laidOut (p : Part) (layout : Text) : Except Flaw Text :=
  if layout.isEmpty then .ok p.shown
  else
    match p with
    | .value (.text t) =>
      match Text.Padding.read layout with
      | .error f => .error (.layout f)
      | .ok p => .ok (p.apply t)
    | _ => .error (.part .wrongType)

/-- Fills in the places of a template; layouts hold places themselves, `depth` levels of them. -/
def fill (values : List (Text × Value)) : (depth : Nat) → Text → Except Flaw Text
  | 0, _ => .error .tooDeep
  | depth + 1, t =>
    let piece (p : Piece) : Except Flaw Text :=
      match p with
      | .plain t => .ok t
      | .broken f => .error f
      | .place p => do
        let part ← partOf values p.name
        let part ← converted part p.conversion
        let layout ←
          if p.layout.contains opening then fill values depth p.layout else pure p.layout
        laidOut part layout
    (pieces t).foldl (fun done p => do return (← done) ++ (← piece p)) (.ok [])

/-- The template with its values filled in; a layout may hold places, but not places with such a
layout again. -/
def render (values : List (Text × Value)) (t : Text) : Except Flaw Text := fill values 2 t

end OtpRegistrar.Template
