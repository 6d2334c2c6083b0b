/-
Requests to register or deregister a device.

A request is an extended operation: an object identifier and a value. The value is a sequence of up
to three elements, told apart by their tags: the user, the static password and the one-time
password. An element that is not given is left out, and an empty one is sent. Only a request to
deregister may do without a one-time password; it then is about all devices of the user.
-/
import OtpRegistrar.Directory.Ber
import OtpRegistrar.NamedCode.Table
import OtpRegistrar.Text.Utf8
namespace OtpRegistrar

/-- A request about the devices of a user. -/
structure DeviceRequest where
  operation : DeviceOperation
  authId : Option Text
  staticPassword : Option (List UInt8)
  otp : Option Text
  deriving DecidableEq

namespace DeviceRequest

/-- Why there is no such request, or none that can be sent. -/
inductive Flaw where
  /-- Nothing to register was given. -/
  | nothingToRegister
  /-- A text of the request is not UTF-8. -/
  | notUtf8 (f : Text.EncodeFlaw)
  /-- A request to register lacks its one-time password. -/
  | withoutOtp
  deriving DecidableEq

/-- The request for what was given. -/
def make (authId : Option Text) (staticPassword : Option (List UInt8)) (otp : Option Text)
    (deregister : Bool) : Except Flaw DeviceRequest :=
  if deregister then
    .ok ⟨if otp.isNone then .deregisterAll else .deregister, authId, staticPassword, otp⟩
  else if otp.isNone then .error .nothingToRegister
  else .ok ⟨.register, authId, staticPassword, otp⟩

/-- The identifier of the operation to register. -/
def registerOid : Text := "1.3.6.1.4.1.30221.2.6.54"

/-- The identifier of the operation to deregister. -/
def deregisterOid : Text := "1.3.6.1.4.1.30221.2.6.55"

/-- The identifier of the extended operation. -/
def oid (r : DeviceRequest) : Text :=
  if r.operation = .register then registerOid else deregisterOid

/-- What is shown of a request; the static password is not. -/
def shown (r : DeviceRequest) : Text :=
  "DeviceRequest(operation=" ++ r.operation.name ++
    ", auth_id=" ++ (Value.ofText? r.authId).quoted ++
    ", otp=" ++ (Value.ofText? r.otp).quoted ++ ")"

/-- The element for something that may not be given. -/
def optionalElement (n : Nat) : Option (List UInt8) → List UInt8
  | none => []
  | some content => Ber.element (Ber.contextTag n) content

/-- The UTF-8 bytes of a text that may not be given. -/
def encodeText : Option Text → Except Flaw (Option (List UInt8))
  | none => .ok none
  | some t =>
    match Text.encode t with
    | .ok bytes => .ok (some bytes)
    | .error f => .error (.notUtf8 f)

/-- The sequence of the three elements. -/
def sequenceOf (authId staticPassword otp : Option (List UInt8)) : List UInt8 :=
  Ber.element Ber.sequenceTag
    (optionalElement 0 authId ++ optionalElement 1 staticPassword ++ optionalElement 2 otp)

/-- The value of the extended operation. -/
def value (r : DeviceRequest) : Except Flaw (List UInt8) :=
  match encodeText r.authId with
  | .error e => .error e
  | .ok authId =>
    match encodeText r.otp with
    | .error e => .error e
    | .ok otp =>
      if r.operation = .register ∧ otp = none then .error .withoutOtp
      else .ok (sequenceOf authId r.staticPassword otp)

/-- The three contents in a value; the elements have to stand in order, each once at most. -/
def fieldsOf (value : List UInt8) :
    Option (Option (List UInt8) × Option (List UInt8) × Option (List UInt8)) :=
  match Ber.readSequence value with
  | none => none
  | some elements =>
    let take (n : Nat) (es : List (UInt8 × List UInt8)) :
        Option (List UInt8) × List (UInt8 × List UInt8) :=
      match es with
      | (tag, content) :: rest =>
        if tag = Ber.contextTag n then (some content, rest) else (none, es)
      | [] => (none, [])
    let (authId, rest) := take 0 elements
    let (staticPassword, rest) := take 1 rest
    let (otp, rest) := take 2 rest
    if rest.isEmpty then some (authId, staticPassword, otp) else none

end DeviceRequest

end OtpRegistrar
