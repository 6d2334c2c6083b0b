/-
Enumerations of named integer codes.

A member is found by its code, by its exact name, or by any accepted spelling of its name. Where two
members accept one spelling, the later member has it. A name whose code is taken is an alias: it can
be looked up exactly, and is no member of its own.
-/
import OtpRegistrar.NamedCode.Spelling
import OtpRegistrar.Value.Shown
namespace OtpRegistrar

/-- A name and the code it stands for. -/
structure NamedCode where
  name : Text
  code : Int
  deriving DecidableEq, Inhabited

/-- An enumeration: its title, its members in order of declaration, and its aliases. -/
structure Enumeration where
  title : Text
  members : List NamedCode
  aliases : List (Text × NamedCode)

namespace Enumeration

/-- Why a look-up or a check fails. -/
inductive Flaw where
  | unknownCode (title : Text) (code : Value)
  | unknownName (title name : Text)
  | notDense (title : Text) (codes : List Int)

/-- What is shown of a flaw. -/
def Flaw.message : Flaw → Text
  | .unknownCode title code => "Unknown " ++ title ++ " code: " ++ code.shown
  | .unknownName title name => "Unknown " ++ title ++ " name: " ++ name
  | .notDense title codes =>
    "Codes of " ++ title ++ " are not dense: " ++ (Value.list (codes.map .int)).quoted

/-- The member with the given code. -/
def byCode? (e : Enumeration) (code : Value) : Option NamedCode :=
  e.members.find? fun m => Value.same (.int m.code) code

/-- The member with exactly the given name, aliases included. -/
def byName? (e : Enumeration) (name : Text) : Option NamedCode :=
  match e.members.find? (·.name = name) with
  | some m => some m
  | none => (e.aliases.find? (·.1 = name)).map (·.2)

/-- The last member that accepts the given spelling. -/
def bySpelling? (e : Enumeration) (t : Text) : Option NamedCode :=
  e.members.reverse.find? fun m => (NamedCode.spellings m.name).contains t

/-- The member with the given code, or the reason why there is none. -/
def byCode (e : Enumeration) (code : Value) : Except Flaw NamedCode :=
  match e.byCode? code with
  | some m => .ok m
  | none => .error (.unknownCode e.title code)

/-- The member with exactly the given name, or the reason why there is none. -/
def byName (e : Enumeration) (name : Text) : Except Flaw NamedCode :=
  match e.byName? name with
  | some m => .ok m
  | none => .error (.unknownName e.title name)

/-- Every accepted spelling with the member it leads to, in increasing order. -/
def spellingMap (e : Enumeration) : List (Text × NamedCode) :=
  let all := Text.sort (e.members.flatMap fun m => NamedCode.spellings m.name).eraseDups
  all.filterMap fun t => (e.bySpelling? t).map fun m => (t, m)

/-- Are the codes `0, 1, 2, …` in some order? -/
def checkDense (e : Enumeration) : Except Flaw Unit :=
  let codes := e.members.map (·.code)
  if codes.mergeSort (· ≤ ·) = (List.range codes.length).map Int.ofNat then .ok ()
  else .error (.notDense e.title codes)

/-- Adds a name; one whose code is taken becomes an alias. -/
def declare (e : Enumeration) (name : Text) (code : Int) : Enumeration :=
  match e.members.find? (·.code = code) with
  | some m => { e with aliases := e.aliases ++ [(name, m)] }
  | none => { e with members := e.members ++ [⟨name, code⟩] }

/-- The enumeration of the given names, in order; none if a name is used twice. -/
def ofPairs? (title : Text) (pairs : List (Text × Int)) : Option Enumeration :=
  if (pairs.map (·.1)).Nodup then
    some (pairs.foldl (fun e (name, code) => e.declare name code) ⟨title, [], []⟩)
  else none

end Enumeration

end OtpRegistrar
