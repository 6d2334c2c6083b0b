/-
What a registration comes to: the code of the operation, or of what failed before it.
-/
import OtpRegistrar.NamedCode.Table
import OtpRegistrar.Failure.Defect
namespace OtpRegistrar.Registration

/-- What a registration comes to; a code of the server need not be a known one. -/
inductive Outcome where
  | known (code : NamedCode)
  | other (code : Value)

namespace Outcome

/-- The outcome for a code. -/
def ofCode (code : Value) : Outcome :=
  match ResultCode.enumeration.byCode? code with
  | some m => known m
  | none => other code

/-- The code of an outcome. -/
def code : Outcome → Value
  | known m => .int m.code
  | other v => v

/-- The status that a process ends with; only a number can become one. -/
def exitStatus (o : Outcome) : Except Defect Value :=
  match ResultCode.exitStatus? o.code with
  | some status => .ok status
  | none => .error .wrongType

end Outcome

end OtpRegistrar.Registration
