/-
Text as the operating system hands it over.

Command lines, file names and prompt answers are bytes that are mostly, but not always, UTF-8. A
text is a list of symbols: a character, or one stray byte that is part of no UTF-8 sequence. Keeping
the stray bytes apart lets every later stage say exactly when a text can be sent to a server (no
stray byte) and still show it, compare it and split it like any other text.
-/
namespace OtpRegistrar

/-- One position of a text: a character, or the byte `128 + low` that no UTF-8 sequence covers. -/
inductive Symbol where
  | char (c : Char)
  | stray (low : Fin 128)
  deriving DecidableEq, Inhabited

/-- A text is the list of its symbols. -/
abbrev Text := List Symbol

namespace Symbol

/-- The order key of a symbol: its code point; stray bytes sit among the low surrogates. -/
def code : Symbol → Nat
  | char c => c.toNat
  | stray low => 0xDC80 + low

/-- The symbol with the given code point, if it is one. -/
def ofCode (n : Nat) : Symbol :=
  if h : 0xDC80 ≤ n ∧ n < 0xDD00 then stray ⟨n - 0xDC80, by omega⟩ else char (Char.ofNat n)

/-- The stray byte as it stood in the source. -/
def strayByte (low : Fin 128) : UInt8 := UInt8.ofNat (128 + low)

end Symbol

namespace Text

/-- The text of a string; no symbol of it is stray. -/
def ofString (s : String) : Text := s.toList.map .char

instance : Coe String Text := ⟨ofString⟩

/-- The string of a text that holds no stray bytes. -/
def toString? (t : Text) : Option String :=
  let char? : Symbol → Option Char
    | .char c => some c
    | .stray _ => none
  (t.mapM char?).map String.ofList

/-- The line feed, as a text. -/
def newline : Text := [.char '\n']

/-- `n` blanks. -/
def blanks (n : Nat) : Text := List.replicate n (.char ' ')

/-! ### Order -/

/-- Texts compare symbol by symbol, by code point; a text comes before its extensions. -/
def less : Text → Text → Bool
  | _, [] => false
  | [], _ :: _ => true
  | a :: s, b :: t => if a.code < b.code then true else if b.code < a.code then false else less s t

/-- Texts in increasing order. -/
def sort (ts : List Text) : List Text := ts.mergeSort fun a b => !less b a

/-! ### Taking apart and putting together -/

/-- The parts of a text between the occurrences of a symbol; always at least one part. -/
def splitOn (sep : Symbol) : Text → List Text
  | [] => [[]]
  | s :: t =>
    if s = sep then [] :: splitOn sep t
    else match splitOn sep t with
      | [] => [[s]]
      | part :: parts => (s :: part) :: parts

/-- What stands before and behind the first occurrence of a symbol. -/
def splitFirst? (sep : Symbol) : Text → Option (Text × Text)
  | [] => none
  | s :: t =>
    if s = sep then some ([], t)
    else (splitFirst? sep t).map fun (before, behind) => (s :: before, behind)

/-- What stands before and behind the last occurrence of a symbol. -/
def splitLast? (sep : Symbol) (t : Text) : Option (Text × Text) :=
  (splitFirst? sep t.reverse).map fun (behind, before) => (before.reverse, behind.reverse)

/-- The parts with `sep` between neighbours. -/
def join (sep : Text) : List Text → Text
  | [] => []
  | [part] => part
  | part :: parts => part ++ sep ++ join sep parts

/-- Does the text begin with the given one? -/
def startsWith (t start : Text) : Bool := start.isPrefixOf t

/-- Does the text end with the given one? -/
def endsWith (t finish : Text) : Bool := finish.isSuffixOf t

/-- Every occurrence of one symbol becomes another. -/
def exchange (old new : Symbol) (t : Text) : Text := t.map fun s => if s = old then new else s

/-- All occurrences of a symbol are taken out. -/
def without (old : Symbol) (t : Text) : Text := t.filter (· ≠ old)

/-! ### Membership in tables of code points -/

/-- Does a list of closed ranges hold the number? -/
def inRanges (ranges : List (Nat × Nat)) (n : Nat) : Bool :=
  ranges.any fun (first, last) => first ≤ n && n ≤ last

end Text

end OtpRegistrar
