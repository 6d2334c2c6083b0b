/-
Reading a password from its source.
-/
import OtpRegistrar.Host.Basic
namespace OtpRegistrar.Action

/-- The bytes of a password file. -/
def readPasswordFile (path : Text) : Action (List UInt8) := ofFunction fun h =>
  let h := h.note (.passwordFileRead path)
  if FileTree.hasNul path then (.error .nulInPath, h)
  else
    match h.files.read path with
    | .error e => (.error (.password (.unreadableFile path e.message)), h)
    | .ok content => ((PasswordSource.ofFile path content).mapError .password, h)

/-- What the user answers; a script of answers that has come to its end is the end of the input. -/
def ask (question : Text) : Action Text := ofFunction fun h =>
  let h := h.note (.prompted question)
  match h.prompts with
  | [] => (.error (.raised (Raised.ofName "EOFError" .nothing)), h)
  | .typed t :: rest => (.ok t, { h with prompts := rest })
  | .failed r :: rest => (.error (.raised r), { h with prompts := rest })

/-- The password that the user types. -/
def readPrompt (account : Option Text) (question : Text) : Action (List UInt8) := do
  match ← attempt (ask question) with
  | .ok t => orFail (PasswordSource.ofText t) .password
  | .error f =>
    if f.family == .endOfInput || f.isSystem then
      fail (.password (.unanswered account f.shown))
    else fail f

/-- The bytes of the password of a source; nothing if none is needed. -/
def readPassword : PasswordSource → Action (Option (List UInt8))
  | .none => pure none
  | .inline t => some <$> orFail (PasswordSource.ofText t) .password
  | .file path => some <$> readPasswordFile path
  | .prompt account question => some <$> readPrompt account question
  | .unsettled => fail .notSettled

end OtpRegistrar.Action
