/-
The files that a run can see.

Names are looked up one component at a time, as the operating system does it, so that a missing
file, a directory and a file in the place of a directory are told apart. A relative path is looked
up from the working directory and an absolute one from the root.
-/
import OtpRegistrar.Text.Utf8Flaw
namespace OtpRegistrar

/-- Why the operating system refuses a file. -/
inductive OsCause where
  | missing
  | notDirectory
  | isDirectory
  | nameTooLong
  deriving DecidableEq

/-- A refusal of the operating system, with the path it is about. -/
structure OsError where
  cause : OsCause
  path : Text
  deriving DecidableEq

namespace OsCause

/-- The number of an error of the operating system. -/
def errno : OsCause → Int
  | missing => 2
  | notDirectory => 20
  | isDirectory => 21
  | nameTooLong => 36

/-- What the operating system says of it. -/
def text : OsCause → Text
  | missing => "No such file or directory"
  | notDirectory => "Not a directory"
  | isDirectory => "Is a directory"
  | nameTooLong => "File name too long"

end OsCause

/-- What is shown of a refusal. -/
def OsError.message (e : OsError) : Text :=
  "[Errno " ++ Integer.text e.cause.errno ++ "] " ++ e.cause.text ++ ": " ++ e.path.quoted

/-- What stands at a path. -/
inductive FileNode where
  | file (content : List UInt8)
  | directory

/-- Where a path leads: some steps below the working directory, or below the root. What lies between
the two is not known, so a step back from the working directory leads to the root. -/
inductive Place where
  | below (steps : List Text)
  | absolute (steps : List Text)
  deriving DecidableEq

namespace Place

/-- The steps that lead to a place from its base. -/
def steps : Place → List Text
  | below steps | absolute steps => steps

/-- The base of a place, without any steps. -/
def base : Place → Place
  | below _ => below []
  | absolute _ => absolute []

/-- A place with other steps from the same base. -/
def withSteps (place : Place) (steps : List Text) : Place :=
  match place with
  | below _ => below steps
  | absolute _ => absolute steps

/-- The name that steps back. -/
def back : Text := ".."

/-- The place a name leads to from another. -/
def child (place : Place) (name : Text) : Place :=
  if name ≠ back then place.withSteps (place.steps ++ [name])
  else if place = below [] then absolute []
  else place.withSteps place.steps.dropLast

/-- The directories that lead to a place, outermost first. -/
def parents (place : Place) : List Place :=
  (List.range (place.steps.length - 1)).map fun n => place.withSteps (place.steps.take (n + 1))

/-- The components of a path, without empty ones and those that stay in place. -/
def components (path : Text) : List Text :=
  (Text.splitOn (.char '/') path).filter fun c => !c.isEmpty && c != Text.ofString "."

/-- The base from which a path is looked up. -/
def baseOf (path : Text) : Place := if path.startsWith "/" then absolute [] else below []

/-- The place that the names in a path lead to, whatever stands on the way. -/
def ofPath (path : Text) : Place := (components path).foldl child (baseOf path)

/-- The absolute path of a place. -/
def text (workingDirectory : Text) (place : Place) : Text :=
  let steps := place.steps.flatMap fun name => .char '/' :: name
  match place with
  | below _ => workingDirectory ++ steps
  | absolute [] => "/"
  | absolute _ => steps

end Place

/-- The nodes that are known, by their places; the two bases are not listed. -/
structure FileTree where
  workingDirectory : Text
  nodes : List (Place × FileNode)

namespace FileTree

/-- A tree without nodes. -/
def empty (workingDirectory : Text) : FileTree := ⟨workingDirectory, []⟩

/-- What stands at a place. -/
def node? (tree : FileTree) (place : Place) : Option FileNode :=
  if place.steps.isEmpty then some .directory else (tree.nodes.find? (·.1 == place)).map (·.2)

/-- The longest name of a file, in bytes. -/
def nameLimit : Nat := 255

/-- The longest path, in bytes. -/
def pathLimit : Nat := 4095

/-- Follows names from a place; each has to be looked up in a directory. -/
def walk (tree : FileTree) (place : Place) : List Text → Except OsCause Place
  | [] => .ok place
  | name :: rest =>
    match tree.node? place with
    | none => .error .missing
    | some (.file _) => .error .notDirectory
    | some .directory =>
      if nameLimit < (Text.toBytes name).length then .error .nameTooLong
      else walk tree (place.child name) rest

/-- The place a path leads to. -/
def resolve (tree : FileTree) (path : Text) : Except OsCause Place :=
  if path.isEmpty then .error .missing
  else if pathLimit < (Text.toBytes path).length then .error .nameTooLong
  else walk tree (Place.baseOf path) (Place.components path)

/-- Does the end of a path ask for a directory? -/
def asksDirectory (path : Text) : Bool := path.endsWith "/" || path.endsWith "/."

/-- Does the path hold the character that ends paths? Then it names no file at all. -/
def hasNul (path : Text) : Bool := path.contains (.char '\x00')

/-- Does anything stand at a path? -/
def exists? (tree : FileTree) (path : Text) : Bool :=
  !hasNul path &&
    match tree.resolve path with
    | .error _ => false
    | .ok place =>
      match tree.node? place with
      | some (.file _) => !asksDirectory path
      | some .directory => true
      | none => false

/-- The content of the file at a path that holds no NUL. -/
def read (tree : FileTree) (path : Text) : Except OsError (List UInt8) :=
  match tree.resolve path with
  | .error cause => .error ⟨cause, path⟩
  | .ok place =>
    match tree.node? place with
    | none => .error ⟨.missing, path⟩
    | some .directory => .error ⟨.isDirectory, path⟩
    | some (.file content) =>
      if asksDirectory path then .error ⟨.notDirectory, path⟩ else .ok content

/-- Puts a node at a place, instead of what was there. -/
def put (tree : FileTree) (place : Place) (node : FileNode) : FileTree :=
  { tree with nodes := tree.nodes.filter (·.1 != place) ++ [(place, node)] }

/-- Puts a node at a place, with the directories that lead to it. -/
def plant (tree : FileTree) (place : Place) (node : FileNode) : FileTree :=
  let withParents := place.parents.foldl
    (fun t p => if (t.node? p).isSome then t else t.put p .directory) tree
  withParents.put place node

/-! ### Files that are appended to -/

/-- Opens a file for appending, creating it if its directory is there; gives its place. Steps back
in the path are undone by name before anything is looked up. -/
def openAppend (tree : FileTree) (path : Text) : Except OsError (FileTree × Place) :=
  let place := Place.ofPath path
  let shown := place.text tree.workingDirectory
  if pathLimit < (Text.toBytes shown).length then .error ⟨.nameTooLong, shown⟩
  else
    match walk tree place.base place.steps with
    | .error cause => .error ⟨cause, shown⟩
    | .ok place =>
      match tree.node? place with
      | some .directory => .error ⟨.isDirectory, shown⟩
      | some (.file _) => .ok (tree, place)
      | none => .ok (tree.put place (.file []), place)

/-- Appends to the file at a place; nothing happens if there is none. -/
def append (tree : FileTree) (place : Place) (bytes : List UInt8) : FileTree :=
  { tree with nodes := tree.nodes.map fun (p, node) =>
      match node with
      | .file content => if p = place then (p, .file (content ++ bytes)) else (p, node)
      | .directory => (p, node) }

end FileTree

end OtpRegistrar
