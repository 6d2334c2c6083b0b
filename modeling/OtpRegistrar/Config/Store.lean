/-
Configuration variables.

Every variable is registered with the types it may hold before it can be assigned. Null is always
allowed, and a truth value is never taken for a number. A variable may be set by a parameter of the
configuration file, and those named on the command line are remembered so that a file cannot
override them.
-/
import OtpRegistrar.Value.Shown
namespace OtpRegistrar

/-- A type that a variable may have. -/
inductive VarType where
  | text
  | int
  | bool
  | float
  | list
  | dict
  /-- A value of any type. -/
  | any
  deriving DecidableEq

namespace VarType

/-- Is the value of the type? -/
def accepts : VarType → Value → Bool
  | text, .text _ => true
  | int, .int _ => true
  | bool, .bool _ => true
  | float, .float _ => true
  | list, .list _ => true
  | dict, .dict _ => true
  | any, _ => true
  | _, _ => false

/-- The name of a type, as error messages give it. -/
def name : VarType → Text
  | text => "<class 'str'>"
  | int => "<class 'int'>"
  | bool => "<class 'bool'>"
  | float => "<class 'float'>"
  | list => "<class 'list'>"
  | dict => "<class 'dict'>"
  | any => "None"

/-- The names of several types. -/
def names (types : List VarType) : Text := "[" ++ Text.join ", " (types.map name) ++ "]"

end VarType

/-- The variables: their types, their values, the file parameters that set them, and the ones that
the command line has set. -/
structure Config where
  types : List (Text × List VarType)
  values : List (Text × Value)
  parameters : List (Text × Text)
  overridden : List Text

namespace Config

/-- Why the configuration is not usable. -/
inductive Flaw where
  | unknownVariable (name : Text)
  | wrongType (name : Text) (types : List VarType) (value : Text)
  | variableTaken (name : Text)
  | parameterTaken (parameter : Text)
  | missingFile (path : Text)
  | unreadableFile (reason : Text)
  | parameter (name : Text) (cause : Flaw)
  | logging (reason : Text)

/-- What is shown of a flaw. -/
def Flaw.message : Flaw → Text
  | .unknownVariable n => "Unknown config variable: " ++ n
  | .wrongType n types v =>
    "Invalid value type for <" ++ n ++ ">: Need <" ++ VarType.names types ++ ">: Got <" ++ v ++ ">"
  | .variableTaken n => "Config variable already registered: " ++ n
  | .parameterTaken p => "Config file parameter already registered: " ++ p
  | .missingFile p => "Missing config file: " ++ p
  | .unreadableFile e => "Error reading config file: " ++ e
  | .parameter p cause => "Unable to set config parameter: " ++ p ++ ": " ++ cause.message
  | .logging e => "Unable to set up logging: " ++ e

/-- Is something registered that was there before? -/
def Flaw.isTaken : Flaw → Bool
  | .variableTaken _ | .parameterTaken _ => true
  | _ => false

/-! ### Tables from names -/

/-- What a table holds for a name. -/
def find? {α : Type} (table : List (Text × α)) (name : Text) : Option α :=
  (table.find? (·.1 == name)).map (·.2)

/-- Puts a value under a name; a name that is there keeps its place. -/
def put {α : Type} (name : Text) (value : α) : List (Text × α) → List (Text × α)
  | [] => [(name, value)]
  | (n, v) :: rest => if n = name then (n, value) :: rest else (n, v) :: put name value rest

/-! ### Variables -/

/-- The value of a variable, if it has one. -/
def get? (c : Config) (name : Text) : Option Value := find? c.values name

/-- The value of a variable; null if it has none. -/
def get (c : Config) (name : Text) : Value := (c.get? name).getD .null

/-- The text that a variable holds. -/
def text? (c : Config) (name : Text) : Option Text := (c.get name).text?

/-- The number that a variable holds. -/
def int? (c : Config) (name : Text) : Option Int := (c.get name).int?

/-- Does the value of a variable count as true? -/
def flag (c : Config) (name : Text) : Bool := (c.get name).truthy

/-- The name under which the variables that the command line has set are listed. -/
def overriddenName : Text := "command_line_opts"

/-- The names of all registered variables in increasing order. -/
def sortedNames (c : Config) : List Text := Text.sort (c.types.map (·.1))

/-- May a variable of the given types hold the value? -/
def allows (types : List VarType) : Value → Bool
  | .null => true
  | v => types.any (·.accepts v)

/-- Assigns a variable. -/
def set (c : Config) (name : Text) (value : Value) : Except Flaw Config :=
  match find? c.types name with
  | none => .error (.unknownVariable name)
  | some types =>
    if allows types value then .ok { c with values := put name value c.values }
    else .error (.wrongType name types value.kind.shown)

/-- Assigns variables in order, up to the first that cannot be assigned. Every name is noted as set
by the command line before it is assigned. -/
def override (c : Config) : List (Text × Value) → Config × Except Flaw Unit
  | [] => (c, .ok ())
  | (name, value) :: rest =>
    let noted := { c with overridden := c.overridden ++ [name] }
    match noted.set name value with
    | .error e => (noted, .error e)
    | .ok c => c.override rest

/-- Registers a variable with its types, its first value and the file parameter that sets it. What a
failing registration has entered so far stays. -/
def register (c : Config) (name : Text) (types : List VarType) (value : Value)
    (parameter : Option Text) : Config × Except Flaw Unit :=
  if (find? c.types name).isSome then (c, .error (.variableTaken name))
  else
    let typed := { c with types := c.types ++ [(name, types)] }
    match typed.set name value with
    | .error e => (typed, .error e)
    | .ok c =>
      match parameter with
      | none | some [] => (c, .ok ())
      | some p =>
        if (find? c.parameters p).isSome then (c, .error (.parameterTaken p))
        else ({ c with parameters := c.parameters ++ [(p, name)] }, .ok ())

/-! ### Values from a file -/

/-- The value of a file parameter as a variable of the given types takes it: a list is cut at
commas, blanks left out, and a text takes numbers as they are written. -/
def convert (types : List VarType) (value : Value) : Value :=
  if types.contains .list then
    match value with
    | .text t =>
      if t.contains (.char ',') then
        .list ((Text.splitOn (.char ',') (Text.without (.char ' ') t)).map .text)
      else .list [.text t]
    | v => v
  else if types.contains .text then
    match value with
    | .text t => .text t
    | .bool b => .bool b
    | v => .text v.shown
  else value

/-- Is the value of a file parameter passed over? -/
def isVoid (value : Value) : Bool :=
  match value with
  | .null => true
  | v => v.shown.isEmpty

/-- Applies the parameters of a file in order: the configuration with what they set, the names that
no variable has, and the flaw that ended it, if any. -/
def applyFile (c : Config) : List (Text × Value) → Config × List Text × Except Flaw Unit
  | [] => (c, [], .ok ())
  | (parameter, value) :: rest =>
    match find? c.parameters parameter with
    | none =>
      let (c, unknown, outcome) := c.applyFile rest
      (c, parameter :: unknown, outcome)
    | some name =>
      if isVoid value || c.overridden.contains name then c.applyFile rest
      else
        match c.set name (convert ((find? c.types name).getD []) value) with
        | .error e => (c, [], .error (.parameter parameter e))
        | .ok c => c.applyFile rest

/-! ### The variables of the tool -/

/-- The configuration file that is read unless another is named. -/
def defaultFile : Text := "/etc/ykdevice/ykdevice.conf"

/-- The version of the tool. -/
def version : Text := "1.0.0"

/-- The name under which the tool is called. -/
def toolName : Text := "register-yubikey-otp-device"

/-- The variables of the tool with their types, first values and file parameters. -/
def declarations (tool : Value) (file : Text) : List (Text × VarType × Value × Option Text) :=
  [("tool_name", .text, tool, none),
   ("my_version", .text, .text version, none),
   ("config_file", .text, .text file, none),
   ("main_config", .dict, .null, none),
   ("_logger", .any, .null, none),
   ("ldap_host", .text, .text "localhost", some "LDAP_HOST"),
   ("ldap_port", .int, .null, some "LDAP_PORT"),
   ("ldap_bind_dn", .text, .null, some "LDAP_BIND_DN"),
   ("ldap_bind_password_file", .text, .null, some "LDAP_BIND_PASSWORD_FILE"),
   ("ldap_use_ssl", .bool, .bool false, some "LDAP_USE_SSL"),
   ("ldap_use_start_tls", .bool, .bool false, some "LDAP_USE_START_TLS"),
   ("ldap_ca_cert", .text, .null, some "LDAP_CA_CERT"),
   ("ldap_trust_all", .bool, .bool false, some "LDAP_TRUST_ALL"),
   ("connect_timeout", .int, .int 10, some "CONNECT_TIMEOUT"),
   ("loglevel", .text, .text "INFO", some "LOGLEVEL"),
   ("file_logging", .bool, .bool false, some "FILE_LOGGING"),
   ("logfile", .text, .text "/var/log/ykdevice/ykdevice.log", some "LOGFILE"),
   ("syslog_enabled", .bool, .bool false, some "SYSLOG_ENABLED"),
   ("syslog_address", .text, .text "/dev/log", some "SYSLOG_ADDRESS"),
   ("syslog_facility", .text, .text "USER", some "SYSLOG_FACILITY"),
   ("color_logs", .bool, .bool false, some "COLOR_LOGS"),
   ("log_tool_invocation", .bool, .bool true, some "LOG_TOOL_INVOCATION"),
   ("print_tracebacks", .bool, .null, some "TRACEBACKS"),
   ("language", .text, .text "en", some "LANGUAGE"),
   ("locale_dir", .text, .null, none),
   ("debug_enabled", .bool, .bool false, none),
   ("debug_levels", .dict, .dict [], none),
   ("verbose_level", .int, .int 0, none),
   ("show_help", .bool, .bool false, none),
   ("show_version", .bool, .bool false, none)]

/-- The configuration without variables. -/
def empty : Config := ⟨[], [], [], []⟩

/-- Registers variables in order, up to the first that fails. -/
def registerAll (c : Config) : List (Text × VarType × Value × Option Text) → Except Flaw Config
  | [] => .ok c
  | (name, type, value, parameter) :: rest =>
    match c.register name [type] value parameter with
    | (c, .ok ()) => c.registerAll rest
    | (_, .error e) => .error e

/-- The configuration of a tool before anything is read. -/
def make (tool : Value) (file : Text) : Except Flaw Config :=
  empty.registerAll (declarations tool file)

/-- The configuration of the tool under its own name. -/
def fresh (file : Text) : Config :=
  match make (.text toolName) file with
  | .ok c => c
  | .error _ => empty

end Config

end OtpRegistrar
