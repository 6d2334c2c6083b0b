/-
Failures of the surroundings: what a directory connection, a prompt or the operating system may
raise.

A failure has a kind with a name, and kinds form families; what the program does about a failure
depends on the family alone. An answer of the server that reports an error is a family of its own
and carries the code of the answer.
-/
import OtpRegistrar.Value.Shown
namespace OtpRegistrar

/-- The failures that the program itself knows. -/
inductive OwnKind where
  | general
  | alreadyRegistered
  | unknownConstant
  | argument
  | showHelp
  | passwordRead
  | directory
  | connectionFailed
  deriving DecidableEq

namespace OwnKind

/-- The name of a kind. -/
def name : OwnKind → Text
  | general => "YKDeviceException"
  | alreadyRegistered => "AlreadyRegistered"
  | unknownConstant => "UnknownConstant"
  | argument => "ArgumentException"
  | showHelp => "ShowHelp"
  | passwordRead => "PasswordReadError"
  | directory => "LDAPError"
  | connectionFailed => "ConnectionFailed"

/-- All kinds. -/
def all : List OwnKind :=
  [general, alreadyRegistered, unknownConstant, argument, showHelp, passwordRead, directory,
   connectionFailed]

end OwnKind

/-- What the program tells apart among failures. -/
inductive Family where
  /-- Failures of the program itself. -/
  | own (kind : OwnKind)
  /-- The server answered, and reported an error. -/
  | operationResult
  /-- The connection to the server broke. -/
  | communication
  /-- Any other failure of the directory client. -/
  | directory
  /-- The operating system refused. -/
  | system
  /-- A value was not acceptable. -/
  | value
  /-- The end of the input came where an answer was needed. -/
  | endOfInput
  /-- A key was missing. -/
  | key
  /-- Something failed at run time. -/
  | runtime
  /-- A defect: a missing attribute, a wrong type and the like. -/
  | defect
  deriving DecidableEq

/-- Does the directory client raise failures of the family? -/
def Family.isDirectory : Family → Bool
  | operationResult | communication | directory => true
  | _ => false

/-- What a failure carries. -/
inductive Detail where
  | nothing
  | message (t : Text)
  | numbered (errno : Int) (t : Text)
  | coded (t : Text) (code : Value)
  | answer (result description dn message : Value)

/-- A failure of the surroundings. -/
structure Raised where
  name : Text
  family : Family
  detail : Detail

namespace Raised

/-- The failures of the directory client that break a connection. -/
def communicationNames : List String :=
  ["LDAPCommunicationError", "LDAPSocketOpenError", "LDAPSocketSendError",
   "LDAPSocketReceiveError", "LDAPSocketCloseError", "LDAPSessionTerminatedByServerError",
   "LDAPReferralError", "LDAPUnknownResponseError", "LDAPUnknownRequestError"]

/-- Failures that are no concern of the directory client, with their families. -/
def generalNames : List (String × Family) :=
  [("OSError", .system), ("TimeoutError", .system), ("ConnectionResetError", .system),
   ("ConnectionRefusedError", .system), ("ConnectionAbortedError", .system),
   ("BrokenPipeError", .system), ("FileNotFoundError", .system), ("PermissionError", .system),
   ("IsADirectoryError", .system), ("NotADirectoryError", .system),
   ("InterruptedError", .system), ("BlockingIOError", .system),
   ("ValueError", .value), ("UnicodeError", .value), ("KeyError", .key), ("EOFError", .endOfInput),
   ("RuntimeError", .runtime), ("NotImplementedError", .runtime), ("RecursionError", .runtime)]

/-- Classes of error answers by result code. -/
def answerNames : List (Int × String) :=
  [(1, "OperationsError"), (2, "ProtocolError"), (3, "TimeLimitExceeded"),
   (4, "SizeLimitExceeded"), (7, "AuthMethodNotSupported"), (8, "StrongerAuthRequired"),
   (10, "Referral"), (11, "AdminLimitExceeded"), (12, "UnavailableCriticalExtension"),
   (13, "ConfidentialityRequired"), (14, "SASLBindInProgress"), (16, "NoSuchAttribute"),
   (17, "UndefinedAttributeType"), (18, "InappropriateMatching"), (19, "ConstraintViolation"),
   (20, "AttributeOrValueExists"), (21, "InvalidAttributeSyntax"), (32, "NoSuchObject"),
   (33, "AliasProblem"), (34, "InvalidDNSyntax"), (36, "AliasDereferencingProblem"),
   (48, "InappropriateAuthentication"), (49, "InvalidCredentials"),
   (50, "InsufficientAccessRights"), (51, "Busy"), (52, "Unavailable"),
   (53, "UnwillingToPerform"), (54, "LoopDetected"), (64, "NamingViolation"),
   (65, "ObjectClassViolation"), (66, "NotAllowedOnNotLeaf"), (67, "NotAllowedOnRDN"),
   (68, "EntryAlreadyExists"), (69, "ObjectClassModsProhibited"), (71, "AffectMultipleDSAS"),
   (80, "Other"), (113, "LCUPResourcesExhausted"), (114, "LCUPSecurityViolation"),
   (115, "LCUPInvalidData"), (116, "LCUPUnsupportedScheme"), (117, "LCUPReloadRequired"),
   (118, "Canceled"), (119, "NoSuchOperation"), (120, "TooLate"), (121, "CannotCancel"),
   (122, "AssertionFailed"), (123, "AuthorizationDenied"), (4096, "ESyncRefreshRequired")]

/-- The name of the general kind of error answers. -/
def answerName : Text := "LDAPOperationResult"

/-- The name of the kind of error answers with a code. -/
def answerNameOf (kind : String) : Text := "LDAP" ++ Text.ofString kind ++ "Result"

/-- Does a name stand for a kind of error answers? -/
def namesAnswer (name : Text) : Bool :=
  name == answerName || answerNames.any fun (_, kind) => answerNameOf kind == name

/-- The family of a kind of failure, by its name. -/
def familyOf (name : Text) : Family :=
  match OwnKind.all.find? (·.name = name) with
  | some kind => .own kind
  | none =>
    match generalNames.find? fun (n, _) => Text.ofString n = name with
    | some (_, family) => family
    | none =>
      if communicationNames.any fun n => Text.ofString n = name then .communication
      else if namesAnswer name then .operationResult
      else if name.startsWith "LDAP" then .directory
      else .defect

/-- The failure for an error answer; a code with a kind of its own is named after it. -/
def ofAnswer (result description dn message : Value) : Raised :=
  let name : Text := match answerNames.find? fun (code, _) => Value.same (.int code) result with
    | some (_, kind) => answerNameOf kind
    | none => answerName
  ⟨name, .operationResult, .answer result description dn message⟩

/-- Kinds that the operating system's error numbers stand for. -/
def systemNames : List (Int × String) :=
  [(1, "PermissionError"), (2, "FileNotFoundError"), (3, "ProcessLookupError"),
   (4, "InterruptedError"), (10, "ChildProcessError"), (11, "BlockingIOError"),
   (13, "PermissionError"), (17, "FileExistsError"), (20, "NotADirectoryError"),
   (21, "IsADirectoryError"), (32, "BrokenPipeError"), (103, "ConnectionAbortedError"),
   (104, "ConnectionResetError"), (108, "BrokenPipeError"), (110, "TimeoutError"),
   (111, "ConnectionRefusedError"), (114, "BlockingIOError"), (115, "BlockingIOError")]

/-- The name for an error number of the operating system. -/
def systemName (errno : Int) : Text :=
  match systemNames.find? (·.1 = errno) with
  | some (_, name) => name
  | none => "OSError"

/-- What an error answer carries that is made of something else: its parts in their order. -/
def answerDetail : Detail → Detail
  | .nothing => .answer .null .null .null .null
  | .message t => .answer (.text t) .null .null .null
  | .numbered errno t => .answer (.int errno) (.text t) .null .null
  | .coded t code => .answer (.text t) code .null .null
  | .answer result description dn message => .answer result description dn message

/-- A failure of a named kind. -/
def ofName (name : Text) (detail : Detail) : Raised :=
  let family := familyOf name
  match family, detail with
  | .operationResult, detail => ⟨name, family, answerDetail detail⟩
  | _, .numbered errno _ =>
    ⟨if name = Text.ofString "OSError" then systemName errno else name, family, detail⟩
  | _, _ => ⟨name, family, detail⟩

/-- Is the text of a failure its message in quotes? A missing key is shown so. -/
def quotesMessage (r : Raised) : Bool := r.family = .key || r.name == "LDAPKeyError"

/-- Failures of a socket in use, which are failures of the operating system as well. -/
def socketNames : List String := ["LDAPSocketSendError", "LDAPSocketReceiveError"]

/-- Did the operating system refuse? -/
def isSystem (r : Raised) : Bool :=
  r.family = .system || socketNames.any fun n => Text.ofString n = r.name

/-- A part of the text of an error answer; one that does not count as true is shown as null. -/
def answerPart (v : Value) : Text := v.orNull.shown

/-- The text of a failure; it may be empty. -/
def text (r : Raised) : Text :=
  match r.detail with
  | .nothing => []
  | .message t | .coded t _ =>
    if r.quotesMessage then t.quoted
    else if r.name = Text.ofString "LDAPMaximumRetriesError" then "LDAPMaximumRetriesError: " ++ t
    else t
  | .numbered errno t => "[Errno " ++ Integer.text errno ++ "] " ++ t
  | .answer result description dn message =>
    Text.join " - " ([r.name, answerPart result, answerPart description, answerPart dn,
      answerPart message, Value.null.shown, Value.null.shown])

/-- What is shown of a failure: its text, or its name if it has none. -/
def shown (r : Raised) : Text := if r.text.isEmpty then r.name else r.text

/-- The code that a failure carries. -/
def code? (r : Raised) : Option Value :=
  match r.detail with
  | .coded _ code => some code
  | _ => none

end Raised

end OtpRegistrar
