/-
Hosts that differ in their secrets alone.

A secret is on a host before it is read: in a file, or with the user who is asked
for it.  So two hosts are twins if they are the same but for the contents of files
and for what is answered at a prompt.  Once a secret has been read it is among the
variables that are bound, and it is sent to the server; there the twins may differ
as well, which leaves a parameter for the variables and veils two kinds of events.

Nothing but the content of a file is left out of the files, so whether there is a
file at a path, and whether it can be opened, is the same for both.
-/
import OtpRegistrar.Proofs.Directory.Parallel

namespace OtpRegistrar

/-! ### Files without their contents -/

/-- What stands at a place, without what a file holds. -/
def FileNode.blank : FileNode → FileNode
  | .file _ => .file []
  | .directory => .directory

namespace FileTree

/-- The files without what they hold. -/
def blank (tree : FileTree) : FileTree :=
  { tree with nodes := tree.nodes.map fun (place, node) => (place, node.blank) }

theorem node?_blank (tree : FileTree) (place : Place) :
    tree.blank.node? place = (tree.node? place).map FileNode.blank := by
  unfold node? blank
  split
  · rfl
  · rw [List.find?_map, Option.map_map, Option.map_map]
    rfl

theorem walk_blank (tree : FileTree) (place : Place) (names : List Text) :
    walk tree.blank place names = walk tree place names := by
  induction names generalizing place with
  | nil => rfl
  | cons name rest ih =>
      unfold walk
      rw [node?_blank]
      cases tree.node? place with
      | none => rfl
      | some node =>
          cases node with
          | file content => rfl
          | directory =>
              dsimp only [Option.map_some, FileNode.blank]
              rw [ih]

theorem resolve_blank (tree : FileTree) (path : Text) :
    tree.blank.resolve path = tree.resolve path := by
  unfold resolve
  rw [walk_blank]

theorem exists?_blank (tree : FileTree) (path : Text) :
    tree.blank.exists? path = tree.exists? path := by
  unfold exists?
  rw [resolve_blank]
  cases tree.resolve path with
  | error cause => rfl
  | ok place =>
      dsimp only
      rw [node?_blank]
      cases tree.node? place with
      | none => rfl
      | some node => cases node <;> rfl

theorem put_blank (tree : FileTree) (place : Place) (node : FileNode) :
    (tree.put place node).blank = tree.blank.put place node.blank := by
  unfold put blank
  rw [List.map_append, List.filter_map]
  rfl

/-- A file is opened for appending in the same way whatever the files hold. -/
theorem openAppend_blank (tree : FileTree) (path : Text) :
    tree.blank.openAppend path = (tree.openAppend path).map fun (tree, place) =>
      (tree.blank, place) := by
  unfold openAppend
  dsimp only
  rw [walk_blank]
  show (if pathLimit < (Text.toBytes ((Place.ofPath path).text tree.workingDirectory)).length then _
    else _) = _
  split
  · rfl
  · cases walk tree (Place.ofPath path).base (Place.ofPath path).steps with
    | error cause => rfl
    | ok place =>
        dsimp only
        rw [node?_blank]
        cases tree.node? place with
        | none =>
            dsimp only [Option.map_none, Except.map]
            rw [put_blank]
            rfl
        | some node => cases node <;> rfl

/-- What is appended to a file is left out. -/
theorem append_blank (tree : FileTree) (place : Place) (bytes : List UInt8) :
    (tree.append place bytes).blank = tree.blank := by
  unfold append blank
  rw [List.map_map]
  congr 1
  refine List.map_congr_left fun entry _ => ?_
  obtain ⟨p, node⟩ := entry
  cases node with
  | directory => rfl
  | file content =>
      dsimp only [Function.comp]
      split <;> rfl

end FileTree

/-! ### Twins -/

/-- An event without the secret that it hands on. -/
def Event.veiled : Event → Event
  | .connectionMade user _ => .connectionMade user .null
  | .extendedSent oid _ => .extendedSent oid []
  | e => e

namespace Host

/-- The hosts are the same but for the contents of files, for what is answered at prompts, and for
the secrets in events; what is bound on them is related. -/
structure Twin (B : Bindings → Bindings → Prop) (h h' : Host) : Prop where
  files : h'.files.blank = h.files.blank
  homes : h'.homes = h.homes
  resolver : h'.resolver = h.resolver
  screen : h'.screen = h.screen
  processId : h'.processId = h.processId
  time : h'.time = h.time
  server : h'.server = h.server
  answer : h'.answer = h.answer
  config : h'.config = h.config
  logs : h'.logs = h.logs
  bound : B h.bound h'.bound
  events : h'.events.map Event.veiled = h.events.map Event.veiled

namespace Twin

variable {B : Bindings → Bindings → Prop} {h h' : Host}

/-- Two events that differ in their secrets alone may be noted side by side. -/
theorem noted {e e' : Event} (htwin : Twin B h h') (he : e'.veiled = e.veiled) :
    Twin B (h.note e) (h'.note e') := by
  refine { htwin with events := ?_ }
  show (h'.events ++ [e']).map Event.veiled = (h.events ++ [e]).map Event.veiled
  rw [List.map_append, List.map_append, htwin.events, List.map_singleton, List.map_singleton, he]

/-- Twins stay twins whatever is bound on them next. -/
theorem rebound {B' : Bindings → Bindings → Prop} {bound bound' : Bindings}
    (htwin : Twin B h h') (hbound : B' bound bound') :
    Twin B' { h with bound } { h' with bound := bound' } := { htwin with bound := hbound }

end Twin

/-- **Twins run together.** -/
theorem runsTogether_twin (B : Bindings → Bindings → Prop) :
    RunsTogether (Twin B) fun e e' => e'.veiled = e.veiled where
  config hs := hs.config
  logs hs := hs.logs
  processId hs := hs.processId
  time hs := hs.time
  screen hs := hs.screen
  resolver hs := hs.resolver
  entry hs _ := hs.noted rfl
  setLogs hs logs := { hs with logs := rfl }
  opened path h h' hs := by
    have hopen := FileTree.openAppend_blank h'.files path
    rw [hs.files, FileTree.openAppend_blank] at hopen
    unfold Action.openLogFile
    rw [Action.runOn_ofFunction, Action.runOn_ofFunction]
    split
    · exact ⟨.error _, hs⟩
    · cases hfiles : h.files.openAppend path with
      | error e =>
          rw [hfiles] at hopen
          cases hfiles' : h'.files.openAppend path with
          | error e' =>
              rw [hfiles'] at hopen
              cases hopen
              exact ⟨.error _, hs⟩
          | ok opened' =>
              rw [hfiles'] at hopen
              cases hopen
      | ok opened =>
          rw [hfiles] at hopen
          cases hfiles' : h'.files.openAppend path with
          | error e' =>
              rw [hfiles'] at hopen
              cases hopen
          | ok opened' =>
              rw [hfiles'] at hopen
              obtain ⟨hsame, hplace⟩ := Prod.mk.inj (Except.ok.inj hopen)
              exact ⟨.ok hplace, { hs with files := hsame.symm }⟩
  appended hs place bytes :=
    { hs with files := by rw [FileTree.append_blank, FileTree.append_blank, hs.files] }
  server hs := hs.server
  answer hs := hs.answer
  present hs path := by
    rw [← FileTree.exists?_blank, hs.files, FileTree.exists?_blank]
  noted hs he := hs.noted he
  same _ _ := rfl
  answered hs answer := { hs with answer := rfl }
  configure value h h' hs := by
    unfold Action.configure
    rw [Action.runOn_ofFunction, Action.runOn_ofFunction, hs.config]
    split
    · exact ⟨.ok rfl, { hs with config := rfl }⟩
    · exact ⟨.error _, hs⟩

end Host

end OtpRegistrar
