/-
The parts of values that can be asked for.

A text has its symbols by position. Every value has its kind, and a kind has a name, a home and the
kinds that it belongs to. Nothing else of a value can be asked for.
-/
import OtpRegistrar.Value.Shown
namespace OtpRegistrar

/-- What asking for parts of a value can come to. -/
inductive Part where
  | value (v : Value)
  | kind (k : Value.Kind)
  | row (ks : List Value.Kind)

namespace Part

/-- Why there is no such part. -/
inductive Flaw where
  /-- Nothing has the name. -/
  | noSuchName
  /-- There are no positions, or the part takes no layout. -/
  | wrongType
  /-- The position lies behind the end. -/
  | badPosition
  deriving DecidableEq

/-- The kind of a part. -/
def kindOf : Part → Value.Kind
  | value v => v.kind
  | kind _ => .kind
  | row _ => .row

/-- What a kind has under a name. -/
def ofKind (k : Value.Kind) (name : Text) : Except Flaw Part :=
  let is (known : String) : Bool := name == Text.ofString known
  if is "__name__" || is "__qualname__" then .ok (value (.text k.name))
  else if is "__module__" then .ok (value (.text k.home))
  else if is "__mro__" then .ok (row k.lineage)
  else if is "__bases__" then .ok (row k.parent?.toList)
  else if is "__base__" then .ok ((k.parent?.map kind).getD (value .null))
  else .error .noSuchName

/-- What a part has under a name. -/
def named (p : Part) (name : Text) : Except Flaw Part :=
  if name = Text.ofString "__class__" then .ok (kind p.kindOf)
  else
    match p with
    | kind k => ofKind k name
    | _ => .error .noSuchName

/-- What stands at a position of a part; a key that is no position finds nothing. -/
def item (p : Part) (position : Option Nat) : Except Flaw Part :=
  let at? (found : Nat → Option Part) : Except Flaw Part :=
    match position with
    | none => .error .wrongType
    | some n =>
      match found n with
      | some p => .ok p
      | none => .error .badPosition
  match p with
  | value (.text t) => at? fun n => t[n]?.map fun s => value (.text [s])
  | row ks => at? fun n => ks[n]?.map kind
  | _ => .error .wrongType

/-- What is shown of a row of kinds; a row of one ends with a comma. -/
def shownRow : List Value.Kind → Text
  | [k] => "(" ++ k.shown ++ ",)"
  | ks => "(" ++ Text.join ", " (ks.map (·.shown)) ++ ")"

/-- The quoted form of a part. -/
def quoted : Part → Text
  | value v => v.quoted
  | kind k => k.shown
  | row ks => shownRow ks

/-- What is shown of a part. -/
def shown : Part → Text
  | value v => v.shown
  | p => p.quoted

end Part

end OtpRegistrar
