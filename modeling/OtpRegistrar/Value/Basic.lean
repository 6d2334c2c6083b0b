/-
Values whose type is known only at run time: what configuration variables hold, what a directory
server answers and what a message may show.

A dictionary keeps its entries in the order in which their keys first came. Numbers and truth values
are one family: `true`, `1` and `1.0` are the same key.
-/
import OtpRegistrar.Number.Double
namespace OtpRegistrar

/-- A value of any type. -/
inductive Value where
  | null
  | bool (b : Bool)
  | int (n : Int)
  | float (x : Double)
  | text (t : Text)
  | bytes (bs : List UInt8)
  | list (items : List Value)
  | dict (entries : List (Value × Value))
  /-- A configured logger, by its name. -/
  | logger (name : Text)
  deriving Inhabited

namespace Value

/-- The value of an optional text; an absent one is null. -/
def ofText? : Option Text → Value
  | none => null
  | some t => text t

/-- The text of a text value. -/
def text? : Value → Option Text
  | text t => some t
  | _ => none

/-- The number of a whole-number value. -/
def int? : Value → Option Int
  | int n => some n
  | _ => none

/-- The number of a value that counts as a whole one: a truth value is zero or one. -/
def whole? : Value → Option Int
  | int n => some n
  | bool b => some (if b then 1 else 0)
  | _ => none

/-- What a value that can be gone through holds: the symbols of a text, the bytes, the items, or the
keys. -/
def items? : Value → Option (List Value)
  | text t => some (t.map fun s => text [s])
  | bytes bs => some (bs.map fun b => int b.toNat)
  | list items => some items
  | dict entries => some (entries.map (·.1))
  | _ => none

/-- Does the value count as true? Null, false, zero and everything empty do not. -/
def truthy : Value → Bool
  | null => false
  | bool b => b
  | int n => n != 0
  | float (.finite _ m _) => m != 0
  | float _ => true
  | text t => !t.isEmpty
  | bytes bs => !bs.isEmpty
  | list items => !items.isEmpty
  | dict entries => !entries.isEmpty
  | logger _ => true

/-- The value itself if it counts as true, else null. -/
def orNull (v : Value) : Value := if v.truthy then v else null

/-! ### Equality -/

/-- A number as a quotient of whole numbers, if the value is a finite one. -/
def ratio? : Value → Option (Int × Nat)
  | bool b => some (if b then 1 else 0, 1)
  | int n => some (n, 1)
  | float x => x.ratio?
  | _ => none

/-- Are two values the same number? Infinities equal themselves, and what is no number equals
none. -/
def sameNumber (a b : Value) : Bool :=
  match a.ratio?, b.ratio? with
  | some (m, d), some (n, e) => m * e == n * d
  | none, none =>
    match a, b with
    | float (.infinite s), float (.infinite t) => s == t
    | _, _ => false
  | _, _ => false

mutual
/-- Equality of values: numbers by value, dictionaries without regard to order. -/
def same : Value → Value → Bool
  | null, null => true
  | text s, text t => s == t
  | bytes s, bytes t => s == t
  | list xs, list ys => sameItems xs ys
  | dict xs, dict ys => xs.length == ys.length && sameEntries xs ys
  | logger s, logger t => s == t
  | a, b => sameNumber a b
/-- Equality of lists of values, item by item. -/
def sameItems : List Value → List Value → Bool
  | [], [] => true
  | x :: xs, y :: ys => same x y && sameItems xs ys
  | _, _ => false
/-- Is every entry of the first dictionary found in the second? -/
def sameEntries : List (Value × Value) → List (Value × Value) → Bool
  | [], _ => true
  | (k, v) :: rest, ys =>
    ys.any (fun (k', v') => same k k' && same v v') && sameEntries rest ys
end

/-- May the value be a key? Lists and dictionaries may not. -/
def isKey : Value → Bool
  | list _ | dict _ => false
  | _ => true

/-! ### Dictionaries -/

/-- The value stored under a key. -/
def lookup (key : Value) (entries : List (Value × Value)) : Option Value :=
  (entries.find? fun (k, _) => same k key).map (·.2)

/-- Stores a value under a key; a key that is there keeps its place. -/
def insert (key value : Value) : List (Value × Value) → List (Value × Value)
  | [] => [(key, value)]
  | (k, v) :: rest => if same k key then (k, value) :: rest else (k, v) :: insert key value rest

/-- The dictionary of the entries; of entries with one key the last value counts. -/
def dictOf (entries : List (Value × Value)) : Value :=
  dict (entries.foldl (fun acc (k, v) => insert k v acc) [])

end Value

end OtpRegistrar
