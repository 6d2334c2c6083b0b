/-
The command line.

What an invocation does is decided by `Invocation.run` alone. This module looks up the files that an
invocation may name, asks the questions that it leaves open, shows what it shows, and writes the log
files that it has added to. A question is met by beginning again with one more answer: what a run
has done up to a question does not depend on the answer, so whatever was shown stays right. Here is
no transport to a directory server and none to a system log, so opening a connection is refused and
entries for the system log are dropped.
-/
import OtpRegistrar.Invocation
import Std.Time
namespace OtpRegistrar.Terminal

/-! ### The files of an invocation -/

/-- The paths that a token of a command line may hold. -/
def pathsIn (homes : Homes) (token : Text) : List Text :=
  let parts := token :: ((Text.splitFirst? (.char '=') token).map (·.2)).toList
  parts ++ parts.map (CommandLine.expandHome homes)

/-- The paths that the parameters of a configuration file may hold. -/
def pathsOf (content : List UInt8) : List Text :=
  match (Text.decodeFile content).toOption.bind fun t => (ConfigFile.read t).toOption with
  | some entries => entries.filterMap fun (_, v) => v.text?
  | none => []

/-- The paths in all files of a tree. -/
def pathsOfTree (tree : FileTree) : List Text :=
  tree.nodes.flatMap fun (_, node) =>
    match node with
    | .file content => pathsOf content
    | .directory => []

/-- The path of the directory that a path is looked up in. -/
def directoryOf (path : Text) : Text :=
  match Text.splitLast? (.char '/') path with
  | some (directory, _) => directory
  | none => []

/-- The files of a tree that are not in another one as they are. -/
def changedFiles (before after : FileTree) : List (Place × List UInt8) :=
  after.nodes.filterMap fun (place, node) =>
    match node, before.node? place with
    | .file content, some (.file old) => if content = old then none else some (place, content)
    | .file content, _ => some (place, content)
    | .directory, _ => none

/-- Adds what stands at a path to a tree; what cannot be read is left out. -/
def addPath (tree : FileTree) (path : Text) : IO FileTree := do
  let place := Place.ofPath path
  match path.toString? with
  | none => return tree
  | some name =>
    try
      return tree.plant place (.file (← IO.FS.readBinFile name).toList)
    catch _ =>
      try
        if ← (← IO.FS.realPath name).isDir then return tree.plant place .directory
        else return tree
      catch _ => return tree

/-- Adds what stands at several paths, and their directories, to a tree. -/
def addPaths (tree : FileTree) (paths : List Text) : IO FileTree :=
  (paths.flatMap fun path => [directoryOf path, path]).foldlM
    (fun tree path => if path.isEmpty then pure tree else addPath tree path) tree

/-- Writes the files that a run has changed. -/
def writeFiles (before after : FileTree) : IO Unit :=
  (changedFiles before after).forM fun (place, content) =>
    match (place.text before.workingDirectory).toString? with
    | some name => IO.FS.writeBinFile name ⟨content.toArray⟩
    | none => pure ()

/-! ### What is shown, and questions -/

/-- Shows an event of a run. -/
def showEvent : Event → IO Unit
  | .printed t => do (← IO.getStdout).write ⟨(Text.toBytes t).toArray⟩
  | .reported t => do (← IO.getStderr).write ⟨(Text.toBytes t).toArray⟩
  | _ => pure ()

/-- The events up to the question that comes behind the given number of answered ones, and that
question. -/
def openQuestion? : (answered : Nat) → List Event → Option (List Event × Text)
  | 0, .prompted question :: _ => some ([], question)
  | n + 1, .prompted question :: rest =>
    (openQuestion? n rest).map fun (before, next) => (.prompted question :: before, next)
  | n, e :: rest => (openQuestion? n rest).map fun (before, next) => (e :: before, next)
  | _, [] => none

/-- Asks a question; the end of the input is no answer. -/
def ask (question : Text) : IO PromptAnswer := do
  showEvent (.reported question)
  let line ← (← IO.getStdin).getLine
  if line.isEmpty then return .failed (Raised.ofName "EOFError" .nothing)
  let answer := Text.ofString line
  return .typed (if answer.endsWith Text.newline then answer.dropLast else answer)

/-- Every connection is refused. -/
def noTransport : DirectoryServer where
  start := { failure := some (.ofName "LDAPSocketOpenError" (.message "no transport")) }

/-- Runs an invocation with the answers given so far, shows what of its events has not been shown,
and begins again as long as it leaves a question open. -/
def converse (host : Host) (line : List Text) :
    (questions : Nat) → List PromptAnswer → (shown : Nat) → IO (Except Fault Value × Host)
  | 0, answers, shown => do
    let (outcome, after) := (Invocation.run line).runOn { host with prompts := answers }
    (after.events.drop shown).forM showEvent
    return (outcome, after)
  | questions + 1, answers, shown => do
    let (outcome, after) := (Invocation.run line).runOn { host with prompts := answers }
    match openQuestion? answers.length after.events with
    | none =>
      (after.events.drop shown).forM showEvent
      return (outcome, after)
    | some (before, question) =>
      (before.drop shown).forM showEvent
      converse host line questions (answers ++ [← ask question]) (before.length + 1)

/-- The most questions that an invocation asks: one for each password. -/
def questionLimit : Nat := 2

/-! ### The machine -/

/-- A number with two digits. -/
def twoDigits (n : Int) : Text := if n < 10 then "0" ++ Integer.text n else Integer.text n

/-- The time on the clock. -/
def clockTime : IO Text := do
  try
    let now ← Std.Time.PlainDateTime.now
    let date :=
      Integer.text now.year ++ "-" ++ twoDigits now.month.val ++ "-" ++ twoDigits now.day.val
    let minute := twoDigits now.hour.val ++ ":" ++ twoDigits now.minute.val
    return date ++ " " ++ minute ++ ":" ++ twoDigits now.second.val
  catch _ => return "-"

/-- The number of this process. -/
def ownNumber : IO Int := do
  try
    let status ← IO.FS.readFile "/proc/self/stat"
    match Integer.read (((Text.words status).head?).getD []) with
    | .ok n => return n
    | .error _ => return 0
  catch _ => return 0

/-- The home directory of a user in a user database, which has a line of fields for each user. -/
def homeIn (database name : Text) : Option Text :=
  (Text.splitOn (.char '\n') database).findSome? fun line =>
    match Text.splitOn (.char ':') line with
    | user :: _ :: _ :: _ :: _ :: home :: _ => if user = name then some home else none
    | _ => none

/-- The home directories of all users. -/
def homes : IO Homes := do
  let own := (← IO.getEnv "HOME").map Text.ofString
  let database ←
    try pure (Text.ofString (← IO.FS.readFile "/etc/passwd"))
    catch _ => pure []
  return fun name => if name.isEmpty then own else homeIn database name

/-- The escape sequences that terminals know. -/
def palette : Palette where
  level
    | .debug => "\x1b[37m"
    | .info => "\x1b[32m"
    | .warning => "\x1b[33m"
    | .error => "\x1b[31m"
    | .critical => "\x1b[1;31m"
  error := "\x1b[31m"
  reset := "\x1b[0m"

/-- A port has to fit into a word of the machine; nothing else is wrong with an address that no one
looks up. -/
def resolver : Syslog.Resolver := fun _ port =>
  if Int64.minValue.toInt ≤ port ∧ port ≤ Int64.maxValue.toInt then none else some .portTooLarge

/-- The machine as an invocation with the given command line finds it. -/
def machine (line : List Text) : IO Host := do
  let homes ← homes
  let directory : Text := (← IO.currentDir).toString
  let named ← addPaths (FileTree.empty directory)
    (Config.defaultFile :: line.flatMap (pathsIn homes))
  let files ← addPaths named (pathsOfTree named)
  let colors := (← IO.getEnv "FORCE_COLOR").isSome
  let host := Host.fresh files homes Config.defaultFile colors (← ownNumber) (← clockTime)
  return { host with server := noTransport, resolver, screen := ⟨palette, colors⟩ }

/-- The status that a process can end with. -/
def statusOf : Except Fault Value → UInt32
  | .ok (.int n) => UInt32.ofNat n.toNat
  | _ => 1

end OtpRegistrar.Terminal

open OtpRegistrar Terminal in
/-- Runs the program for a command line. -/
def main (arguments : List String) : IO UInt32 := do
  let line := arguments.map Text.ofString
  let host ← machine line
  let (outcome, after) ← converse host line questionLimit [] 0
  writeFiles host.files after.files
  match outcome with
  | .error f => showEvent (.reported (f.name ++ ": " ++ f.text ++ Text.newline))
  | .ok _ => pure ()
  return statusOf outcome
