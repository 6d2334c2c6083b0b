/-
Lines of a file.

A carriage return, a line feed and the pair of both end a line alike. A whole file is decoded at
once. The first line alone is looked for block by block, so that nothing behind the block in which
it ends is ever looked at; a flaw is placed relative to the block in which it shows, the bytes
carried over from the block before included.
-/
import OtpRegistrar.Text.Utf8
namespace OtpRegistrar.Text

/-- The text with every line end as a line feed. -/
def unifyLineEnds : Text → Text
  | [] => []
  | .char '\r' :: .char '\n' :: t => .char '\n' :: unifyLineEnds t
  | .char '\r' :: t => .char '\n' :: unifyLineEnds t
  | s :: t => s :: unifyLineEnds t

/-- The text of a whole file. -/
def decodeFile (bs : List UInt8) : Except DecodeFlaw Text := (decode bs).map unifyLineEnds

/-- The bytes of a block. -/
def blockSize : Nat := 8192

/-- The bytes in blocks, the last one perhaps shorter. -/
def blocks (bs : List UInt8) : List (List UInt8) :=
  if _ : bs.length = 0 then []
  else bs.take blockSize :: blocks (bs.drop blockSize)
termination_by bs.length
decreasing_by simp only [List.length_drop, blockSize]; omega

/-- What is carried from one block to the next: bytes of an unfinished sequence, and whether a
carriage return waits for what follows it. -/
structure Carry where
  bytes : List UInt8
  held : Bool

/-- Do the bytes begin a sequence of three that would spell a surrogate? -/
def beginsSurrogate : List UInt8 → Bool
  | [lead, next] => lead == 0xED && 0xA0 ≤ next && next ≤ 0xBF
  | _ => false

/-- The text in bytes that more may follow, and the bytes that are left over. The first two of three
bytes that spell a surrogate are left over too: they are refused only when the third is looked for.
-/
def decodeSoFar (bs : List UInt8) : Except DecodeFlaw (Text × List UInt8) :=
  match decodePart 0 none bs with
  | .ok outcome => .ok outcome
  | .error e =>
    if beginsSurrogate (bs.drop e.position) then
      (decodePart 0 none (bs.take e.position)).map fun (t, _) => (t, bs.drop e.position)
    else .error e

/-- The text of the next block with its line ends unified, and what is carried on. -/
def decodeBlock (carry : Carry) (block : List UInt8) : Except DecodeFlaw (Text × Carry) :=
  (decodeSoFar (carry.bytes ++ block)).map fun (t, bytes) =>
    if t.isEmpty then ([], ⟨bytes, carry.held⟩)
    else
      let t := if carry.held then .char '\r' :: t else t
      if t.getLast? = some (.char '\r') then (unifyLineEnds t.dropLast, ⟨bytes, true⟩)
      else (unifyLineEnds t, ⟨bytes, false⟩)

/-- The end of the last line, which no block follows: nothing may be left over. -/
def decodeEnd (carry : Carry) : Except DecodeFlaw Text := decode carry.bytes

/-- The line that begins in the given blocks, without its end. -/
def lineOfBlocks (carry : Carry) : List (List UInt8) → Except DecodeFlaw Text
  | [] => decodeEnd carry
  | block :: rest =>
    match decodeBlock carry block with
    | .error e => .error e
    | .ok (t, carry) =>
      let line := t.takeWhile (· != .char '\n')
      if line.length < t.length then .ok line else (lineOfBlocks carry rest).map (line ++ ·)

/-- The first line of a file, without its end. -/
def firstLine (bs : List UInt8) : Except DecodeFlaw Text := lineOfBlocks ⟨[], false⟩ (blocks bs)

end OtpRegistrar.Text
