/-
The spellings under which a name is accepted.

A name may be typed as it is, with dashes for underscores, with underscores for dashes or without
either, and each of these as it is, in upper case or in lower case.
-/
import OtpRegistrar.Text.Casing
namespace OtpRegistrar.NamedCode

/-- A name with its separators as they are, as dashes, as underscores and left out. -/
def separatorVariants (name : Text) : List Text :=
  [name,
   name.exchange (.char '_') (.char '-'),
   name.exchange (.char '-') (.char '_'),
   Text.without (.char '-') (Text.without (.char '_') name)]

/-- All accepted spellings of a name; some may be equal. -/
def spellings (name : Text) : List Text :=
  (separatorVariants name).flatMap fun t => [t, t.upper, t.lower]

/-- The accepted spellings of a name in increasing order, each once. -/
def sortedSpellings (name : Text) : List Text := Text.sort (spellings name).eraseDups

end OtpRegistrar.NamedCode
