/-
Announcing the parts of the program as they are loaded.

A setting outside of the configuration asks for it, since parts are loaded before there is one. Only
one exact text turns it on. Parts that merely hold other parts are not announced, nor is the one
that starts the program.
-/
import OtpRegistrar.Text.Basic
namespace OtpRegistrar.Announcement

/-- The text that turns announcements on. -/
def on : Text := "True"

/-- The parts that are not announced. -/
def silentParts : List Text := ["command", "lib.ldap", "lib.classes"]

/-- The line that announces a part. -/
def line (part : Text) : Text := "Loading module: ykdevice." ++ part ++ Text.newline

/-- What is shown when a part is loaded under a setting. -/
def ofPart (setting part : Text) : Text :=
  if setting = on ∧ !silentParts.contains part then line part else []

end OtpRegistrar.Announcement
