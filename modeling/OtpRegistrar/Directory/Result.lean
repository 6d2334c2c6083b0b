/-
What came of an extended operation.

A result is read off the answer of the server that the connection holds, or stands for the failure
that ended the operation. A failure is never a success, whatever the server may have meant, unless
it carries the code of success itself.
-/
import OtpRegistrar.Failure.Defect
import OtpRegistrar.Failure.Raised
import OtpRegistrar.NamedCode.Table
namespace OtpRegistrar

/-! ### The answer that a connection holds -/

namespace ServerAnswer

/-- The code in an answer; an answer without a code that counts has the code of a failed
connection. -/
def code (answer : Value) : Value :=
  match answer.field "result" with
  | .ok v => if v.truthy then v else .int ResultCode.connectError.code
  | .error _ => .int ResultCode.connectError.code

/-- What is said when there is no answer. -/
def noAnswer : Text := "No response from server."

/-- What an answer says: its description, with its message if it has one. -/
def message (answer : Value) : Value :=
  match answer.field "description", answer.field "message" with
  | .ok description, .ok message =>
    if message.truthy then .text (description.shown ++ ": " ++ message.shown) else description
  | _, _ => .text noAnswer

/-- The answer of a server that has done what it was asked for. -/
def success : Value :=
  .dict
    [(.text "result", .int 0), (.text "description", .text "success"), (.text "message", .text []),
     (.text "dn", .text []), (.text "referrals", .null), (.text "responseName", .null),
     (.text "responseValue", .null)]

end ServerAnswer

/-! ### Results -/

/-- The result of an extended operation. -/
structure ExtendedResult where
  code : Value
  diagnostic : Value
  matchedDn : Value
  referrals : Value
  responseName : Value
  responseValue : Value

namespace ExtendedResult

/-- The result with a code and a message, and nothing else. -/
def ofCode (code diagnostic : Value) : ExtendedResult :=
  ⟨code, diagnostic, .null, .null, .null, .null⟩

/-- The result that an answer stands for; it has to hold a code. -/
def ofAnswer (answer : Value) : Except Defect ExtendedResult :=
  match answer.field "result" with
  | .error e => .error e
  | .ok code => .ok
    { code
      diagnostic := answer.fieldOrNull "message"
      matchedDn := answer.fieldOrNull "dn"
      referrals := answer.fieldOrNull "referrals"
      responseName := answer.fieldD "responseName"
      responseValue := answer.fieldD "responseValue" }

/-- The result that a failure stands for. -/
def ofRaised (r : Raised) : ExtendedResult :=
  match r.detail with
  | .answer result _ dn message => { ofCode result message.orNull with matchedDn := dn.orNull }
  | _ =>
    match r.family with
    | .communication | .system => ofCode (.int ResultCode.serverDown.code) (.text r.shown)
    | _ => ofCode (.int ResultCode.localError.code) (.text r.shown)

/-- Was the operation a success? -/
def success (r : ExtendedResult) : Bool := Value.same r.code (.int ResultCode.success.code)

/-- The description of the code, or the code itself if it is not known. -/
def description (r : ExtendedResult) : Text :=
  match ResultCode.enumeration.byCode? r.code with
  | some m => ResultCode.description m
  | none => r.code.shown

/-- The texts that a value holds; it may hold nothing else. -/
def textsOf (v : Value) : Except Defect (List Text) :=
  match v.items?.bind fun items => items.mapM Value.text? with
  | some ts => .ok ts
  | none => .error .wrongType

/-- What is shown of a result: the code and whatever else it holds. -/
def shown (r : ExtendedResult) : Except Defect Text := do
  let part (v : Value) (before after : Text) : Text :=
    if v.truthy then before ++ v.shown ++ after else []
  let referrals ←
    if r.referrals.truthy then
      (textsOf r.referrals).map fun ts =>
        ", referralURLs=\x7b'" ++ Text.join "', '" ts ++ "'\x7d"
    else .ok []
  return "ExtendedResult(resultCode=" ++ ResultCode.shown r.code ++
    part r.diagnostic ", diagnosticMessage='" "'" ++
    part r.matchedDn ", matchedDN='" "'" ++
    referrals ++
    part r.responseName ", responseOID='" "'" ++ ")"

end ExtendedResult

end OtpRegistrar
