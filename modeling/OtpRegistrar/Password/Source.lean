/-
Where a password comes from.

A password comes from one place alone: the command line, the first line of a file, or a prompt.
Where several are named, the first of these counts. What is shown of a source never tells the
password.
-/
import OtpRegistrar.Failure.Raised
import OtpRegistrar.Text.Lines
import OtpRegistrar.Text.Template
import OtpRegistrar.Text.Utf8Flaw
namespace OtpRegistrar

/-- The place a password comes from. -/
inductive PasswordSource where
  /-- No password is needed. -/
  | none
  | inline (password : Text)
  | file (path : Text)
  | prompt (account : Option Text) (question : Text)
  /-- A place that has not been settled; it cannot be read. -/
  | unsettled
  deriving DecidableEq

namespace PasswordSource

/-- Why a password cannot be read. -/
inductive Flaw where
  | notUtf8
  | unreadableFile (path reason : Text)
  | emptyFile (path : Text)
  | unanswered (account : Option Text) (reason : Text)
  deriving DecidableEq

/-- What is shown of a flaw. -/
def Flaw.message : Flaw → Text
  | notUtf8 => "Password is not valid UTF-8."
  | unreadableFile path reason => "Unable to read password file: " ++ path ++ ": " ++ reason
  | emptyFile path => "Password file is empty: " ++ path
  | unanswered account reason =>
    "Unable to read password for " ++ (Value.ofText? account).shown ++ ": " ++ reason

/-- The kind of a source, by the name that listings show. -/
def name : PasswordSource → Text
  | none => "NoPassword"
  | inline _ => "InlinePassword"
  | file _ => "PasswordFile"
  | prompt _ _ => "PasswordPrompt"
  | unsettled => "PasswordSource"

/-- What is shown of a source. -/
def shown : PasswordSource → Text
  | file path => "<PasswordFile " ++ path ++ ">"
  | prompt account _ => "<PasswordPrompt " ++ (Value.ofText? account).shown ++ ">"
  | source => "<" ++ source.name ++ ">"

/-- The question that a source asks, if it asks one. -/
def question? : PasswordSource → Option Text
  | prompt _ question => some question
  | _ => Option.none

/-- The question for the password of a user. -/
def userQuestion : Text := "Enter the static password for user \x7baccount\x7d: "

/-- The question for the password of a bind. -/
def bindQuestion : Text := "Enter the bind password for \x7baccount\x7d: "

/-- The source for what was given. The question is a template that may name the account. -/
def choose (password path : Option Text) (asked : Bool) (account : Option Text)
    (question : Text) : Except Template.Flaw PasswordSource :=
  match password, path with
  | some p, _ => .ok (inline p)
  | Option.none, some path => .ok (file path)
  | Option.none, Option.none =>
    if asked then
      (Template.render [("account", Value.ofText? account)] question).map (prompt account)
    else .ok none

/-- The password in the first line of a file. -/
def ofFile (path : Text) (content : List UInt8) : Except Flaw (List UInt8) :=
  match Text.firstLine content with
  | .error f => .error (.unreadableFile path f.message)
  | .ok [] => .error (.emptyFile path)
  | .ok line => .ok (Text.toBytes line)

/-- The bytes of a password that was typed or given. -/
def ofText (password : Text) : Except Flaw (List UInt8) :=
  match Text.encode password with
  | .ok bytes => .ok bytes
  | .error _ => .error .notUtf8

end PasswordSource

end OtpRegistrar
