/-
Taking off the delimiters around a text.
-/
import OtpRegistrar.Text.Basic
namespace OtpRegistrar.Delimited

/-- Why delimiters cannot be taken off. -/
inductive Flaw where
  | start (delimiter : Text)
  | finish (delimiter : Text)
  deriving DecidableEq

/-- What is shown of a flaw. -/
def Flaw.message : Flaw → Text
  | .start d => "String does not start with: " ++ d
  | .finish d => "String does not end with: " ++ d

/-- The text between two delimiters; an empty closing one asks for nothing. The delimiters are
looked for one at a time, so they may share symbols, and then nothing stands between them. -/
def strip (start finish t : Text) : Except Flaw Text :=
  if !t.startsWith start then .error (.start start)
  else if !t.endsWith finish then .error (.finish finish)
  else .ok ((t.drop start.length).take (t.length - finish.length - start.length))

/-- The text between two delimiters, if they are there. -/
def strip? (start finish t : Text) : Option Text := (strip start finish t).toOption

/-- The text behind a mark, and whether the mark is there. -/
def takeMark (mark t : Text) : Bool × Text :=
  match strip? mark [] t with
  | some rest => (true, rest)
  | none => (false, t)

end OtpRegistrar.Delimited
