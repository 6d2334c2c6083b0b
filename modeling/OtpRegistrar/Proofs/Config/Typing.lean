/-
Variables hold what they may, whatever is asked of a configuration.

Values get in by four ways: the first value of a registration, an assignment, an option of
a command line, and a parameter of a file.  Each of them can be closed by the type of the
variable, and then the variable keeps what it had; loading may have assigned others by
then, which stay assigned.

The invariant is `Orderly`, and the induction is on the calls.  What a rejected value
leaves is said of the call that fails, and by the invariant it can be said of any call
behind any others.
-/
import OtpRegistrar.Proofs.Config.Loading

namespace OtpRegistrar

namespace Config

/-! ### What a load leaves -/

section

variable {c c' : Config} {files : FileTree} {options : List (Text × Value)}
  {r : Except Fault Unit} {f : Fault} {name : Text}

theorem Orderly.settles (horderly : c.Orderly) (hsettles : c.Settles c') : c'.Orderly := by
  rcases hsettles with ⟨-, hset⟩ | ⟨-, rfl⟩
  · exact horderly.set hset
  · exact horderly

/-- A load leaves an orderly configuration, however far it comes. -/
theorem Orderly.loading (horderly : c.Orderly) (hloading : c.Loading files options r c') :
    c'.Orderly := by
  cases hloading with
  | refused hoptions => exact horderly.override hoptions
  | unread hoptions hf => exact horderly.override hoptions
  | spoiled hoptions hreads hmain hfile =>
      exact ((horderly.override hoptions).set hmain).applyFile hfile
  | applied hoptions hreads hmain hfile hsettles hr =>
      exact (((horderly.override hoptions).set hmain).applyFile hfile).settles hsettles

/-- A value that a load rejects, be it an option's or a parameter's, leaves the one in place that
the variable had before. -/
theorem Loading.get?_of_rejected (horderly : c.Orderly) (hnames : (options.map (·.1)).Nodup)
    (hloading : c.Loading files options (.error f) c') (hname : f.rejected? = some name) :
    c'.get? name = c.get? name := by
  cases hloading with
  | refused hoptions => exact get?_override_of_rejected hoptions hnames hname
  | unread hoptions hf =>
      rw [hf] at hname
      cases hname
  | applied hoptions hreads hmain hfile hsettles hr =>
      rw [hr f rfl] at hname
      cases hname
  | @spoiled c₁ c₂ _ entries unknown flaw hoptions hreads hmain hfile =>
      have horderly₂ := (horderly.override hoptions).set hmain
      obtain ⟨hmem, hkept⟩ :=
        get?_applyFile_of_rejected hfile horderly₂.single hreads.nodup hname
      -- the file sets neither what the command line has set nor what loading sets by itself
      have hfree : name ∉ c₂.overridden := fun hset => not_mem_assignments_of_overridden hset hmem
      have hother : name ≠ "main_config" := fun heq =>
        horderly₂.not_mem_assignments (.inl heq) hmem
      rw [overridden_set hmain, overridden_override hoptions, List.mem_append, not_or] at hfree
      rw [hkept, get?_set hmain hother, get?_override_of_not_mem hoptions hfree.2]

end

/-! ### Calls -/

/-- The names of a configuration itself, which no variable has: where it keeps its tables, and what
can be asked of it. -/
def ownNames : List Text :=
  ["internal_vars", "config_var_types", "configfile_var_map", overriddenName, "__init__",
    "__setattr__", "register_config_var", "process_config_file_param", "setup_locale", "load",
    "read", "debug_level", "logger", "setup_logger"]

/-- A name that a variable may have. -/
abbrev VariableName : Type := { name : Text // name ∉ ownNames }

/-- Variables with values that a command line sets, each of them once. -/
structure Options where
  entries : List (Text × Value)
  distinct : (entries.map (·.1)).Nodup
  free : ∀ entry ∈ entries, entry.1 ∉ ownNames

/-- What is asked of a configuration. -/
inductive Call where
  | register (name : VariableName) (types : List VarType) (value : Value) (parameter : Option Text)
  | assign (name : VariableName) (value : Value)
  /-- The configuration is loaded where there are the given files. -/
  | load (files : FileTree) (options : Options) (quiet : Bool)
  /-- The level of a slot is asked for, or set if there is one to set. -/
  | debugLevel (slot : Text) (level : Value)

/-- What a call does. -/
def Call.action : Call → Action Unit
  | register name types value parameter => Action.registerVariable name types value parameter
  | assign name value => Action.assign name value
  | load files options quiet => do
    Action.change fun h => { h with files }
    Action.loadConfig options.entries quiet
  | debugLevel slot .null => do
    let _ ← Action.debugLevel slot
  | debugLevel slot level => Action.setDebugLevel slot level

/-- The host after calls have been made one after the other, whatever each has come to. -/
def after (calls : List Call) (h : Host) : Host :=
  calls.foldl (fun h call => (call.action.runOn h).2) h

/-! ### What a call leaves -/

/-- An action leaves an orderly configuration, and a variable whose value it rejects as it was. -/
def Careful {α : Type} (a : Action α) : Prop :=
  ∀ h : Host, h.config.Orderly → (a.runOn h).2.config.Orderly ∧
    ∀ f name, (a.runOn h).1 = .error f → f.rejected? = some name →
      (a.runOn h).2.config.get? name = h.config.get? name

/-- What comes before a careful action may do anything that leaves the configuration. -/
theorem Careful.behind {α β : Type} {a : Action α} {b : α → Action β}
    (hkept : ∀ h, (a.runOn h).2.config = h.config) (hb : ∀ x, Careful (b x)) :
    Careful (a >>= b) := by
  intro h horderly
  have hconfig := hkept h
  rw [Action.runOn_bind]
  rcases hrun : a.runOn h with ⟨r, h'⟩
  rw [hrun] at hconfig
  dsimp only at hconfig ⊢
  cases r with
  | error e =>
      rw [hconfig]
      exact ⟨horderly, fun _ _ _ _ => rfl⟩
  | ok x =>
      have hrest := hb x h' (hconfig ▸ horderly)
      rwa [hconfig] at hrest

theorem Careful.pure {α : Type} (x : α) : Careful (Pure.pure x : Action α) :=
  fun _ horderly => ⟨horderly, fun _ _ _ _ => rfl⟩

theorem careful_configure (name : Text) (value : Value) :
    Careful (Action.configure name value) := by
  intro h horderly
  cases hset : h.config.set name value with
  | ok c =>
      rw [Action.runOn_configure_ok hset]
      exact ⟨horderly.set hset, fun f n hf => nomatch hf⟩
  | error f =>
      rw [Action.runOn_configure_error hset]
      exact ⟨horderly, fun _ _ _ _ => rfl⟩

theorem careful_registerVariable (name : Text) (types : List VarType) (value : Value)
    (parameter : Option Text) :
    Careful (Action.registerVariable name types value parameter) := by
  intro h horderly
  have hrun : (Action.registerVariable name types value parameter).runOn h =
      ((h.config.register name types value parameter).2.mapError .config,
        { h with config := (h.config.register name types value parameter).1 }) := rfl
  rw [hrun]
  refine ⟨horderly.register, fun f n hf hn => ?_⟩
  rcases hregister : h.config.register name types value parameter with ⟨c, outcome⟩
  rw [hregister] at hf
  cases outcome with
  | ok _ => cases hf
  | error flaw =>
      cases hf
      exact get?_register_of_rejected hregister hn

theorem careful_loadConfig {options : List (Text × Value)} (hnames : (options.map (·.1)).Nodup)
    (quiet : Bool) : Careful (Action.loadConfig options quiet) := by
  intro h horderly
  rcases hrun : (Action.loadConfig options quiet).runOn h with ⟨r, h'⟩
  have hloading := Action.loading_of_runOn horderly hrun
  refine ⟨horderly.loading hloading, fun f name hf hname => ?_⟩
  obtain rfl : r = .error f := hf
  exact hloading.get?_of_rejected horderly hnames hname

theorem reads_debugLevels : Action.Keeps Host.Reads Action.debugLevels := by
  unfold Action.debugLevels
  refine Action.Keeps.bind (Action.Keeps.configured _) fun v => ?_
  split
  · exact Action.Keeps.pure _
  · exact Action.Keeps.fail _

theorem reads_debugLevel (slot : Text) : Action.Keeps Host.Reads (Action.debugLevel slot) :=
  Action.Keeps.bind reads_debugLevels fun _ => Action.Keeps.pure _

theorem careful_setDebugLevel (slot : Text) (level : Value) :
    Careful (Action.setDebugLevel slot level) :=
  Careful.behind (fun h => (reads_debugLevels h).config) fun _ => careful_configure _ _

theorem assign_eq_configure {name : Text} (hname : name ∉ ownNames) (value : Value) :
    Action.assign name value = Action.configure name value := by
  have hother : name ≠ overriddenName := by
    rintro rfl
    exact hname (by simp [ownNames])
  unfold Action.assign
  split
  · rw [if_neg hother]
  · rfl

/-- **Every call is careful.** -/
theorem Call.careful (call : Call) : Careful call.action := by
  cases call with
  | register name types value parameter => exact careful_registerVariable name types value parameter
  | assign name value =>
      show Careful (Action.assign name value)
      rw [assign_eq_configure name.property]
      exact careful_configure name value
  | load files options quiet =>
      exact Careful.behind (fun h => rfl) fun _ => careful_loadConfig options.distinct quiet
  | debugLevel slot level =>
      cases level with
      | null =>
          exact Careful.behind (fun h => (reads_debugLevel slot h).config) fun _ => Careful.pure _
      | _ => exact careful_setDebugLevel slot _

/-- However many calls there are, the configuration is orderly behind them. -/
theorem Orderly.after {h : Host} (horderly : h.config.Orderly) (calls : List Call) :
    (Config.after calls h).config.Orderly := by
  induction calls generalizing h with
  | nil => exact horderly
  | cons call rest ih => exact ih (call.careful h horderly).1

/-- A call after others is made on the host that they leave. -/
theorem after_concat (calls : List Call) (call : Call) (h : Host) :
    after (calls ++ [call]) h = (call.action.runOn (after calls h)).2 := by
  simp [after]

/-! ### Types -/

/-- A variable of the given types may hold the value: nothing, or a value of one of the types. A
truth value is of no type but its own. -/
structure MayHold (types : List VarType) (value : Value) : Prop where
  typed : value = .null ∨ ∃ type ∈ types, type.accepts value = true
  truth : ∀ b, value = .bool b → .bool ∈ types ∨ .any ∈ types

theorem mayHold_of_allows {types : List VarType} {value : Value}
    (hallowed : allows types value = true) : MayHold types value where
  typed := by
    unfold allows at hallowed
    split at hallowed
    · exact .inl rfl
    · exact .inr (List.any_eq_true.mp hallowed)
  truth := by
    rintro b rfl
    obtain ⟨type, hmem, haccepts⟩ := List.any_eq_true.mp hallowed
    cases type with
    | bool => exact .inl hmem
    | any => exact .inr hmem
    | _ => cases haccepts

/-- **Whatever is asked of the configuration of a tool, every variable holds what it may**, and a
value that is rejected leaves the one before it in place. Where the value is assigned by itself,
nothing else changes either. -/
theorem stays_typed {tool : Value} {file : Text} {h : Host} (hmake : make tool file = .ok h.config)
    (calls : List Call) :
    (∀ entry ∈ (after calls h).config.values,
      ∃ types, find? (after calls h).config.types entry.1 = some types ∧ MayHold types entry.2) ∧
    (∀ (call : Call) (f : Fault) (name : Text),
      (call.action.runOn (after calls h)).1 = .error f → f.rejected? = some name →
      (after (calls ++ [call]) h).config.get? name = (after calls h).config.get? name) ∧
    ∀ (name : VariableName) (value : Value) (f : Fault),
      ((Call.assign name value).action.runOn (after calls h)).1 = .error f →
      f.rejected? = some name.val ∧ after (calls ++ [.assign name value]) h = after calls h := by
  have horderly := (orderly_of_make hmake).after calls
  refine ⟨fun entry hentry => ?_, fun call f name hf hname => ?_, fun name value f hf => ?_⟩
  · obtain ⟨types, htypes, hallowed⟩ := horderly.typed entry hentry
    exact ⟨types, htypes, mayHold_of_allows hallowed⟩
  · rw [after_concat]
    exact (call.careful _ horderly).2 f name hf hname
  · rw [after_concat]
    have hassign : (Call.assign name value).action = Action.configure name value :=
      assign_eq_configure name.property value
    rw [hassign] at hf ⊢
    cases hset : (after calls h).config.set name value with
    | ok c =>
        rw [Action.runOn_configure_ok hset] at hf
        cases hf
    | error flaw =>
        rw [Action.runOn_configure_error hset] at hf ⊢
        cases hf
        exact ⟨rejected?_of_set hset, rfl⟩

/-- A machine on which the tool has been started and nothing has been read. -/
def startedHost : Host :=
  { Host.plain with config := declared (declarations (.text toolName) "/etc/tool.conf") }

theorem make_startedHost : make (.text toolName) "/etc/tool.conf" = .ok startedHost.config :=
  make_eq rfl "/etc/tool.conf"

/-- The variable of the port. -/
def port : VariableName := ⟨"ldap_port", by decide⟩

/-- Options of which the second is rejected. -/
def misfitOptions : Options where
  entries := [("logfile", .text "log"), (port.val, .bool true)]
  distinct := by decide
  free := by decide

/-- A port that has been assigned is still there after a load that could not set another. -/
theorem stays_typed_rejecting :
    let calls : List Call := [.assign port (.int 636)]
    let call : Call := .load (FileTree.empty "/") misfitOptions true
    make (.text toolName) "/etc/tool.conf" = .ok startedHost.config ∧
      (∃ f, (call.action.runOn (after calls startedHost)).1 = .error f ∧
        f.rejected? = some port.val) ∧
      ((after (calls ++ [call]) startedHost).config.get? port).bind Value.int? = some 636 := by
  intro calls call
  have hrejects : (match (call.action.runOn (after calls startedHost)).1 with
      | .error f => f.rejected? == some port.val
      | .ok _ => false) = true := by decide +kernel
  have hport : ((after calls startedHost).config.get? port).bind Value.int? = some 636 := by
    decide +kernel
  obtain ⟨-, hkept, -⟩ := stays_typed make_startedHost calls
  cases hrun : (call.action.runOn (after calls startedHost)).1 with
  | ok _ =>
      rw [hrun] at hrejects
      cases hrejects
  | error f =>
      rw [hrun] at hrejects
      have hname : f.rejected? = some port.val := by simpa using hrejects
      rw [hkept call f port hrun hname]
      exact ⟨make_startedHost, ⟨f, rfl, hname⟩, hport⟩

end Config

end OtpRegistrar
