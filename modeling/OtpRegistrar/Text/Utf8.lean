/-
UTF-8, after the table of well-formed sequences in the Unicode standard.

The bytes are fed one at a time to a machine that knows what the current sequence still owes. A byte
it refuses is a flaw, with its place and its cause; a reader that may not fail keeps the bytes of a
refused sequence as stray symbols instead. Writing fails only at a stray symbol.
-/
import OtpRegistrar.Text.Basic
namespace OtpRegistrar.Text

/-! ### Reading -/

/-- A sequence that has begun: the bits so far, the continuation bytes owed, the bounds of the next
one, and the bytes taken, last one first. -/
structure Sequence where
  bits : Nat
  owed : Nat
  low : Nat
  high : Nat
  taken : List UInt8

/-- What one byte does. -/
inductive Feed where
  | complete (c : Char)
  | pending (s : Sequence)
  | refused

/-- The bits that a lead byte brings, how many bytes it asks for, and the bounds of the next one. -/
def lead? (b : Nat) : Option (Nat × Nat × Nat × Nat) :=
  if 0xC2 ≤ b ∧ b ≤ 0xDF then some (b - 0xC0, 1, 0x80, 0xBF)
  else if b = 0xE0 then some (0, 2, 0xA0, 0xBF)
  else if b = 0xED then some (0xD, 2, 0x80, 0x9F)
  else if 0xE1 ≤ b ∧ b ≤ 0xEF then some (b - 0xE0, 2, 0x80, 0xBF)
  else if b = 0xF0 then some (0, 3, 0x90, 0xBF)
  else if 0xF1 ≤ b ∧ b ≤ 0xF3 then some (b - 0xF0, 3, 0x80, 0xBF)
  else if b = 0xF4 then some (4, 3, 0x80, 0x8F)
  else none

/-- A byte at the start of a sequence. -/
def firstByte (b : UInt8) : Feed :=
  if b.toNat < 0x80 then .complete (Char.ofNat b.toNat)
  else match lead? b.toNat with
    | some (bits, owed, low, high) => .pending ⟨bits, owed, low, high, [b]⟩
    | none => .refused

/-- A byte inside a sequence. -/
def Sequence.next (s : Sequence) (b : UInt8) : Feed :=
  if s.low ≤ b.toNat ∧ b.toNat ≤ s.high then
    let bits := s.bits * 64 + b.toNat % 64
    if s.owed ≤ 1 then .complete (Char.ofNat bits)
    else .pending ⟨bits, s.owed - 1, 0x80, 0xBF, b :: s.taken⟩
  else .refused

/-- Why bytes are not UTF-8. -/
inductive DecodeCause where
  | startByte
  | continuationByte
  | endOfData
  deriving DecidableEq

/-- Where and why bytes are not UTF-8: the place of the first refused byte and the refused bytes. -/
structure DecodeFlaw where
  position : Nat
  bytes : List UInt8
  cause : DecodeCause
  deriving DecidableEq

/-- Reads from `position` on, inside the given sequence if there is one; the bytes of a sequence
that the end cuts short are left over. -/
def decodePart (position : Nat) :
    Option Sequence → List UInt8 → Except DecodeFlaw (Text × List UInt8)
  | none, [] => .ok ([], [])
  | some s, [] => .ok ([], s.taken.reverse)
  | none, b :: bs =>
    match firstByte b with
    | .complete c => (decodePart (position + 1) none bs).map fun (t, rest) => (.char c :: t, rest)
    | .pending s => decodePart (position + 1) (some s) bs
    | .refused => .error ⟨position, [b], .startByte⟩
  | some s, b :: bs =>
    match s.next b with
    | .complete c => (decodePart (position + 1) none bs).map fun (t, rest) => (.char c :: t, rest)
    | .pending s' => decodePart (position + 1) (some s') bs
    | .refused => .error ⟨position - s.taken.length, s.taken.reverse, .continuationByte⟩

/-- The text that the bytes spell, or their first flaw; a sequence cut short by the end is one. -/
def decode (bs : List UInt8) : Except DecodeFlaw Text :=
  match decodePart 0 none bs with
  | .error e => .error e
  | .ok (t, []) => .ok t
  | .ok (_, rest) => .error ⟨bs.length - rest.length, rest, .endOfData⟩

/-- The byte as a stray symbol; a byte of ASCII is a character. -/
def ofByte (b : UInt8) : Symbol :=
  if h : 128 ≤ b.toNat then .stray ⟨b.toNat - 128, by have := b.toNat_lt; omega⟩
  else .char (Char.ofNat b.toNat)

/-- The bytes of an unfinished sequence as stray symbols. -/
def strays : Option Sequence → Text
  | none => []
  | some s => s.taken.reverse.map ofByte

/-- Reads inside the given sequence if there is one, refused bytes becoming stray symbols. -/
def ofBytesFrom : Option Sequence → List UInt8 → Text
  | s, [] => strays s
  | s, b :: bs =>
    match (match s with | none => firstByte b | some s => s.next b) with
    | .complete c => .char c :: ofBytesFrom none bs
    | .pending s' => ofBytesFrom (some s') bs
    | .refused =>
      strays s ++
        match s with
        | none => ofByte b :: ofBytesFrom none bs
        | some _ =>
          match firstByte b with
          | .complete c => .char c :: ofBytesFrom none bs
          | .pending s' => ofBytesFrom (some s') bs
          | .refused => ofByte b :: ofBytesFrom none bs

/-- The text of bytes of the operating system: what is not UTF-8 stays as stray symbols. -/
def ofBytes (bs : List UInt8) : Text := ofBytesFrom none bs

/-- The character that stands for bytes that are not UTF-8. -/
def replacement : Symbol := .char '\ufffd'

/-- Reads inside the given sequence if there is one; every refused sequence becomes one replacement.
-/
def decodeLossyFrom : Option Sequence → List UInt8 → Text
  | none, [] => []
  | some _, [] => [replacement]
  | s, b :: bs =>
    match (match s with | none => firstByte b | some s => s.next b) with
    | .complete c => .char c :: decodeLossyFrom none bs
    | .pending s' => decodeLossyFrom (some s') bs
    | .refused =>
      replacement ::
        match s with
        | none => decodeLossyFrom none bs
        | some _ =>
          match firstByte b with
          | .complete c => .char c :: decodeLossyFrom none bs
          | .pending s' => decodeLossyFrom (some s') bs
          | .refused => replacement :: decodeLossyFrom none bs

/-- The text of bytes in which every refused sequence is replaced. -/
def decodeLossy (bs : List UInt8) : Text := decodeLossyFrom none bs

/-! ### Writing -/

/-- The bytes of one symbol as they stood in the source. -/
def symbolBytes : Symbol → List UInt8
  | .char c => String.utf8EncodeChar c
  | .stray low => [Symbol.strayByte low]

/-- The bytes that a text came from. -/
def toBytes (t : Text) : List UInt8 := t.flatMap symbolBytes

/-- Is the symbol a stray byte? -/
def isStray : Symbol → Bool
  | .char _ => false
  | .stray _ => true

/-- Where a text is not UTF-8: the place of its first stray symbol and the run that begins there. -/
structure EncodeFlaw where
  position : Nat
  symbols : Text
  deriving DecidableEq

/-- The UTF-8 bytes of a text; stray symbols have none. -/
def encode (t : Text) : Except EncodeFlaw (List UInt8) :=
  match t.dropWhile (!isStray ·) with
  | [] => .ok (toBytes t)
  | s :: rest =>
    .error ⟨(t.takeWhile (!isStray ·)).length, s :: rest.takeWhile isStray⟩

/-- Can the text be written as UTF-8? -/
def isUtf8 (t : Text) : Bool := t.all (!isStray ·)

end OtpRegistrar.Text
