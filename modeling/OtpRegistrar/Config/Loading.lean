/-
Loading the configuration.

What the command line sets comes first and is remembered; then the file is read, and its parameters
are applied to all variables that the command line has not set. A configuration file has to be there
only if it was named. Parameters that no variable has are reported and passed over.
-/
import OtpRegistrar.Host.Output
namespace OtpRegistrar.Action

/-- Chooses the language of messages. Every message has one wording in all languages, but a language
has to be named. -/
def useLanguage : Value → Action Unit
  | .text _ => pure ()
  | _ => fail (.defect .missingAttribute)

/-- Sets variables that the command line names, in order. -/
def override (options : List (Text × Value)) : Action Unit := ofFunction fun h =>
  let (config, outcome) := h.config.override options
  (outcome.mapError .config, { h with config })

/-- The path of the configuration file. -/
def configPath : Action Text := do
  match ← configured "config_file" with
  | .text path => return path
  | _ => fail (.defect .wrongType)

/-- The content of the configuration file, decoded. -/
def readConfigText (path : Text) (quiet : Bool) : Action Text := do
  let files ← read (·.files)
  let content ← orFail (files.read path) fun e => .config (.unreadableFile e.message)
  if !quiet then say ("Loading config file '" ++ path ++ "'.")
  orFail (Text.decodeFile content) .notUtf8

/-- The parameters of the configuration file; none if it is missing and was not named. -/
def readConfigFile (quiet : Bool) : Action ConfigFile.Entries := do
  let path ← configPath
  let h ← read id
  if h.files.exists? path then
    let t ← readConfigText path quiet
    orFail (ConfigFile.read t) .configFile
  else if h.config.overridden.contains (Text.ofString "config_file") then
    fail (.config (.missingFile path))
  else return []

/-- Parameters as a value. -/
def entriesValue (entries : ConfigFile.Entries) : Value :=
  .dict (entries.map fun (name, value) => (.text name, value))

/-- Reports a parameter that no variable has. -/
def reportUnknown (parameter : Text) : Action Unit := do
  let path ← configured "config_file"
  complain ("Unknown config file parameter: " ++ path.shown ++ ": " ++ parameter)

/-- Applies the parameters of the file. -/
def applyParameters (entries : ConfigFile.Entries) : Action Unit := do
  let config ← read (·.config)
  let (config, unknown, outcome) := config.applyFile entries
  unknown.forM reportUnknown
  change fun h => { h with config }
  orFail outcome .config

/-- Tracebacks are shown only if something says so. -/
def settleTracebacks : Action Unit := do
  match ← configured "print_tracebacks" with
  | .null => configure "print_tracebacks" (.bool false)
  | _ => pure ()

/-- Loads the configuration, with the variables that the command line sets. -/
def loadConfig (options : List (Text × Value)) (quiet : Bool) : Action Unit := do
  useLanguage (.text "en")
  override options
  let entries ← readConfigFile quiet
  configure "main_config" (entriesValue entries)
  applyParameters entries
  settleTracebacks
  useLanguage (← configured "language")

/-- Starts over with the configuration of a tool, and loads it if asked to. -/
def startConfig (tool : Value) (loaded quiet : Bool) : Action Unit := do
  let file ← read (·.defaultConfigFile)
  let config ← orFail (Config.make tool file) .config
  change fun h => { h with config }
  if loaded then loadConfig [] quiet

/-- The configuration of another tool; the one in force stays. -/
def otherConfig (tool : Value) (loaded quiet : Bool) : Action Config := do
  let config ← read (·.config)
  let outcome ← attempt do
    startConfig tool loaded quiet
    read (·.config)
  change fun h => { h with config }
  settle outcome

/-! ### Variables -/

/-- The value of a variable, or the list of those that the command line has set; there has to
be one. -/
def lookUp (name : Text) : Action Value := do
  let config ← read (·.config)
  if name = Config.overriddenName then return .list (config.overridden.map .text)
  match config.get? name with
  | some v => return v
  | none => fail (.defect .missingAttribute)

/-- Assigns a variable, or the list of those that the command line has set. -/
def assign (name : Text) (v : Value) : Action Unit :=
  match v with
  | .list items =>
    if name = Config.overriddenName then
      change fun h =>
        { h with config := { h.config with overridden := items.filterMap Value.text? } }
    else configure name v
  | v => configure name v

/-- Registers a variable. -/
def registerVariable (name : Text) (types : List VarType) (v : Value) (parameter : Option Text) :
    Action Unit := ofFunction fun h =>
  let (config, outcome) := h.config.register name types v parameter
  (outcome.mapError .config, { h with config })

/-- The value that a variable takes from a file parameter with the given value; the variable has to
be registered. -/
def converted (name : Text) (v : Value) : Action Value := do
  let config ← read (·.config)
  match Config.find? config.types name with
  | some types => return Config.convert types v
  | none => fail (.defect .missingKey)

/-! ### Levels of debugging -/

/-- The table of levels. -/
def debugLevels : Action (List (Value × Value)) := do
  match ← configured "debug_levels" with
  | .dict levels => return levels
  | _ => fail (.defect .wrongType)

/-- The level of a slot; zero if nothing has raised it. -/
def debugLevel (slot : Text) : Action Value := do
  return (Value.lookup (.text slot) (← debugLevels)).getD (.int 0)

/-- Sets the level of a slot. -/
def setDebugLevel (slot : Text) (level : Value) : Action Unit := do
  configure "debug_levels" (.dict (Value.insert (.text slot) level (← debugLevels)))

end OtpRegistrar.Action
