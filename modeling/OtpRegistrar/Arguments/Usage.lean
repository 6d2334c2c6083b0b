/-
What can be wrong with the arguments of an invocation.
-/
import OtpRegistrar.Value.Shown
namespace OtpRegistrar

/-- Why the arguments of an invocation are refused. -/
inductive Usage where
  | unknownParameter (word : Text)
  | unknownOption (option : Text)
  | repeated (option : Text)
  | takesNoValue (option : Text)
  | needsValue (option : Text)
  | incomplete (options : List Text)
  | exclusive (group : Text) (options : List Text)
  | dependent (option : Text) (prerequisites : List Text)
  | notUtf8 (option : Text)
  | nothingToRegister (option : Text)
  | badNumber (option : Text) (value : Value)
  | twoSecurityLayers

namespace Usage

/-- What is shown of a refusal. -/
def message : Usage → Text
  | unknownParameter w => "Unknown parameter: " ++ w
  | unknownOption o => "Unknown option: " ++ o
  | repeated o => "Option given more than once: " ++ o
  | takesNoValue o => "Option does not take a value: " ++ o
  | needsValue o => "Option requires value: " ++ o
  | incomplete os => "Command incomplete: Missing options: " ++ Text.join ", " os
  | exclusive g os =>
    "Only one of the " ++ g ++ " arguments may be given: " ++ Text.join ", " os
  | dependent o ps =>
    "The " ++ o ++ " argument requires " ++ Text.join " or " ps ++ " to be given too."
  | notUtf8 o => "Invalid value for " ++ o ++ ": Not valid UTF-8."
  | nothingToRegister o =>
    "No OTP to register: The " ++ o ++ " argument is required unless --deregister is given."
  | badNumber o v => "Invalid value for " ++ o ++ ": " ++ v.shown
  | twoSecurityLayers => "SSL and StartTLS cannot be used together."

end Usage

end OtpRegistrar
