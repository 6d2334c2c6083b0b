/-
Numbers of the binary64 format, exactly.

A finite number is a sign and `m * 2 ^ e`. Rounding goes to the nearest number, a tie to the even
one, and is computed on whole numbers, so that reading a decimal and writing the shortest one that
reads back are functions one can reason about.
-/
import OtpRegistrar.Text.Basic
import OtpRegistrar.Number.Integer
namespace OtpRegistrar

/-- A binary64 number; a finite one is `± m * 2 ^ e` with `m < 2 ^ 53` and `-1074 ≤ e`. -/
inductive Double where
  | nan
  | infinite (negative : Bool)
  | finite (negative : Bool) (m : Nat) (e : Int)
  deriving DecidableEq, Inhabited

namespace Double

/-- The least exponent. -/
def minExponent : Int := -1074

/-- The greatest exponent. -/
def maxExponent : Int := 971

/-- The least mantissa of a number that is not close to zero: `2 ^ 52`. -/
def hiddenBit : Nat := Nat.pow 2 52

/-- Zero with a sign. -/
def zero (negative : Bool) : Double := finite negative 0 minExponent

/-! ### Rounding -/

/-- The whole number nearest to `num / den`; a tie goes to the even one. -/
def roundDiv (num den : Nat) : Nat :=
  let q := num / den
  let r := num % den
  if 2 * r < den then q
  else if den < 2 * r then q + 1
  else if q % 2 = 0 then q
  else q + 1

/-- The quotient `num / den / b ^ e` as a numerator and a denominator. -/
def scale (b num den : Nat) (e : Int) : Nat × Nat :=
  match e with
  | .ofNat k => (num, den * Nat.pow b k)
  | .negSucc k => (num * Nat.pow b (k + 1), den)

/-- The binary64 number nearest to `num / den`. -/
def ofRatio (negative : Bool) (num den : Nat) : Double :=
  if num = 0 then zero negative
  else
    let guess : Int := num.log2 - den.log2 - 52
    let (n, d) := scale 2 num den guess
    let e := max minExponent (if n < d * hiddenBit then guess - 1 else guess)
    let (n, d) := scale 2 num den e
    let m := roundDiv n d
    let (m, e) := if m = 2 * hiddenBit then (hiddenBit, e + 1) else (m, e)
    if maxExponent < e then infinite negative else finite negative m e

/-- The binary64 number nearest to `digits * 10 ^ e`. -/
def ofDecimal (negative : Bool) (digits : Nat) (e : Int) : Double :=
  let places : Int := (Nat.toDigits 10 digits).length
  if digits = 0 then zero negative
  else if 310 < places + e then infinite negative
  else if places + e < -330 then zero negative
  else
    match e with
    | .ofNat k => ofRatio negative (digits * Nat.pow 10 k) 1
    | .negSucc k => ofRatio negative digits (Nat.pow 10 (k + 1))

/-! ### Reading -/

/-- The run of ASCII digits at the start of a list of characters, and the rest. -/
def takeDigits (cs : List Char) : List Char × List Char :=
  (cs.takeWhile Char.isDigit, cs.dropWhile Char.isDigit)

/-- The number that a list of ASCII digits spells. -/
def digitsValue (cs : List Char) : Nat := Integer.ofDigits (cs.map fun c => c.toNat - 48)

/-- The exponent part: nothing, or `e` with an optional sign and digits. -/
def readExponent? : List Char → Option Int
  | [] => some 0
  | c :: cs =>
    if c.toLower ≠ 'e' then none
    else
      let (negative, cs) : Bool × List Char :=
        match cs with
        | '-' :: cs => (true, cs)
        | '+' :: cs => (false, cs)
        | cs => (false, cs)
      match takeDigits cs with
      | (d :: ds, []) =>
        let n := digitsValue (d :: ds)
        some (if negative then -n else n)
      | _ => none

/-- The characters of a text without stray bytes. -/
def chars? (t : Text) : Option (List Char) :=
  t.mapM fun
    | .char c => some c
    | .stray _ => none

/-- The sign in front of a decimal and what stands behind it. -/
def takeSign : List Char → Bool × List Char
  | '-' :: cs => (true, cs)
  | '+' :: cs => (false, cs)
  | cs => (false, cs)

/-- Reads a decimal number: digits with an optional point and exponent, `inf` or `nan`. -/
def ofText? (t : Text) : Option Double :=
  match chars? t with
  | none => none
  | some cs =>
    let (negative, body) := takeSign cs
    let lower := body.map Char.toLower
    if lower = "nan".toList then some nan
    else if lower = "inf".toList ∨ lower = "infinity".toList then some (infinite negative)
    else
      let (whole, rest) := takeDigits body
      let (fraction, rest) : List Char × List Char :=
        match rest with
        | '.' :: rest => takeDigits rest
        | rest => ([], rest)
      if (whole ++ fraction).isEmpty then none
      else (readExponent? rest).map fun e =>
        ofDecimal negative (digitsValue (whole ++ fraction)) (e - fraction.length)

/-! ### Writing -/

/-- The number of digits before the point of `num / den`, at most zero below one: the least `k` with
`num / den < 10 ^ k`, looked for upwards from `k`. -/
def magnitudeFrom : (fuel : Nat) → (num den : Nat) → Int → Int
  | 0, _, _, k => k
  | fuel + 1, num, den, k =>
    let (n, d) := scale 10 num den k
    if n < d then k else magnitudeFrom fuel num den (k + 1)

/-- The least `k` with `num / den < 10 ^ k`. -/
def magnitude (num den : Nat) : Int :=
  let bits : Int := num.log2 - den.log2
  magnitudeFrom 8 num den (Int.fdiv (bits * 30103) 100000 - 2)

/-- The two decimals of `n` digits next to `num / den`, the nearer one first. -/
def neighbours (num den : Nat) (k : Int) (n : Nat) : List Nat :=
  let (a, b) := scale 10 num den (k - n)
  let low := a / b
  if low = roundDiv a b then [low, low + 1] else [low + 1, low]

/-- The shortest decimal that reads back as `± m * 2 ^ e`: digits `d` and point `k`, for
`0.d * 10 ^ k`. -/
def shortest (negative : Bool) (m : Nat) (e : Int) : List Char × Int :=
  let (num, den) := scale 2 m 1 (-e)
  let k := magnitude num den
  let found := (List.range 17).findSome? fun i =>
    (neighbours num den k (i + 1)).findSome? fun d =>
      if ofDecimal negative d (k - (i + 1)) = finite negative m e then
        some (d, (i + 1 : Nat))
      else none
  match found with
  | none => ([], 0)
  | some (d, n) =>
    let ds := Nat.toDigits 10 d
    ((ds.reverse.dropWhile (· == '0')).reverse, k + ((ds.length : Int) - n))

/-- The exponent of ten with a sign and at least two digits. -/
def exponentText (x : Int) : List Char :=
  let ds := Nat.toDigits 10 x.natAbs
  'e' :: (if x < 0 then '-' else '+') :: (if ds.length < 2 then '0' :: ds else ds)

/-- Digits with a point: positional for exponents from -4 to 15, else with an exponent. -/
def layout (ds : List Char) (k : Int) : List Char :=
  if -4 < k ∧ k ≤ 16 then
    if k ≤ 0 then '0' :: '.' :: List.replicate (-k).toNat '0' ++ ds
    else
      let whole := k.toNat
      if ds.length ≤ whole then ds ++ List.replicate (whole - ds.length) '0' ++ ['.', '0']
      else ds.take whole ++ '.' :: ds.drop whole
  else
    match ds with
    | [] => []
    | d :: rest =>
      d :: (if rest.isEmpty then [] else '.' :: rest) ++ exponentText (k - 1)

/-- The shortest text of a number; a whole number below `10 ^ 16` ends in `.0`. -/
def text : Double → Text
  | nan => "nan"
  | infinite negative => if negative then "-inf" else "inf"
  | finite negative m e =>
    let body := if m = 0 then ['0', '.', '0'] else
      let (ds, k) := shortest negative m e
      layout ds k
    ((if negative then ['-'] else []) ++ body).map .char

/-! ### Comparing with whole numbers -/

/-- The number as a quotient of whole numbers with a positive denominator, if it is finite. -/
def ratio? : Double → Option (Int × Nat)
  | finite negative m e =>
    let (num, den) := scale 2 m 1 (-e)
    some (if negative then -(num : Int) else num, den)
  | _ => none

end Double

end OtpRegistrar
