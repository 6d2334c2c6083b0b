/-
The basic encoding rules of ASN.1, as far as requests need them: elements with a one-byte tag and a
definite length.

A length below 128 is one byte. A greater one is a byte that counts the length bytes, then these,
the highest first and no more than needed. The reader takes any definite length, also one that is
longer than needed, and gives back what stands behind the element.
-/
namespace OtpRegistrar.Ber

/-- The bytes of a number, the highest first, without leading zeros; zero has none. -/
def numberBytes (n : Nat) : List UInt8 :=
  if _ : n = 0 then [] else numberBytes (n / 256) ++ [UInt8.ofNat (n % 256)]
termination_by n
decreasing_by omega

/-- The bytes of a length. -/
def lengthBytes (n : Nat) : List UInt8 :=
  if n < 128 then [UInt8.ofNat n]
  else
    let bytes := numberBytes n
    UInt8.ofNat (128 + bytes.length) :: bytes

/-- An element: tag, length, content. -/
def element (tag : UInt8) (content : List UInt8) : List UInt8 :=
  tag :: (lengthBytes content.length ++ content)

/-- The tag of a sequence. -/
def sequenceTag : UInt8 := 0x30

/-- The tag of the primitive element with the given number in a context. -/
def contextTag (n : Nat) : UInt8 := UInt8.ofNat (0x80 + n)

/-! ### Reading -/

/-- The number that bytes spell, the highest first. -/
def numberOf (bytes : List UInt8) : Nat := bytes.foldl (fun n b => 256 * n + b.toNat) 0

/-- A length and what stands behind it. -/
def readLength : List UInt8 → Option (Nat × List UInt8)
  | [] => none
  | b :: rest =>
    if b.toNat < 128 then some (b.toNat, rest)
    else
      let count := b.toNat - 128
      if count = 0 ∨ rest.length < count then none
      else some (numberOf (rest.take count), rest.drop count)

/-- An element, as its tag and its content, and what stands behind it. -/
def readElement : List UInt8 → Option ((UInt8 × List UInt8) × List UInt8)
  | [] => none
  | tag :: rest =>
    match readLength rest with
    | none => none
    | some (n, rest) =>
      if rest.length < n then none else some ((tag, rest.take n), rest.drop n)

/-- The elements of which bytes consist, of which at most `fuel` are read. -/
def readElementsFrom : (fuel : Nat) → List UInt8 → Option (List (UInt8 × List UInt8))
  | _, [] => some []
  | 0, _ :: _ => none
  | fuel + 1, bytes =>
    match readElement bytes with
    | none => none
    | some (e, rest) => (readElementsFrom fuel rest).map (e :: ·)

/-- The elements of which bytes consist; every element takes two bytes at least. -/
def readElements (bytes : List UInt8) : Option (List (UInt8 × List UInt8)) :=
  readElementsFrom bytes.length bytes

/-- The elements inside the one sequence of which bytes consist. -/
def readSequence (bytes : List UInt8) : Option (List (UInt8 × List UInt8)) :=
  match readElement bytes with
  | some ((tag, content), []) => if tag = sequenceTag then readElements content else none
  | _ => none

end OtpRegistrar.Ber
