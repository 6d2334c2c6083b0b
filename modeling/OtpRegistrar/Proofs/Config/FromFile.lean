/-
What a load sets from its file.

A file can stop a load at any of its parameters.  Where every variable `Takes` what its
parameter says, none does, and the load goes on behind the file; only the language of
messages is chosen then, and by that time all variables are set.  So a variable has the
value that the file gives it in any case, and the load succeeds if there is a language.

Which values are taken does not depend on other values.  It can be told for each parameter
by itself, from the types of the variables, before the file is applied.
-/
import OtpRegistrar.Proofs.Config.Typing
import OtpRegistrar.Proofs.ConfigFile.Framing

namespace OtpRegistrar

namespace Config

/-! ### Values that are taken -/

/-- What the parameter says is passed over, or its variable may hold it. -/
def Takes (c : Config) (entry : Text × Value) : Prop :=
  ∀ name value, c.assignment? entry = some (name, value) →
    ∃ types, find? c.types name = some types ∧ allows types value = true

section

variable {c c' : Config} {name : Text} {value : Value} {entries : List (Text × Value)}

/-- Assignments that are allowed one by one are made one after the other. -/
theorem assignAll_of_allows {assigned : List (Text × Value)}
    (hallowed : ∀ a ∈ assigned,
      ∃ types, find? c.types a.1 = some types ∧ allows types a.2 = true) :
    (c.assignAll assigned).2 = .ok () := by
  induction assigned generalizing c with
  | nil => rfl
  | cons a rest ih =>
      obtain ⟨name, value⟩ := a
      obtain ⟨⟨types, htypes, hfirst⟩, hrest⟩ := List.forall_mem_cons.mp hallowed
      obtain ⟨c₁, hset⟩ := exists_set_of_allows htypes hfirst
      rw [assignAll, hset]
      refine ih fun a ha => ?_
      rw [types_set hset]
      exact hrest a ha

theorem Takes.set {other : Text} {entry : Text × Value} (htaken : c.Takes entry)
    (hset : c.set other value = .ok c') : c'.Takes entry := by
  unfold Takes assignment?
  rw [types_set hset, parameters_set hset, overridden_set hset]
  exact htaken

/-- A file of which everything is taken is applied. -/
theorem applyFile_of_takes (htaken : ∀ entry ∈ entries, c.Takes entry) :
    ∃ c' unknown, c.applyFile entries = (c', unknown, .ok ()) := by
  have hok : (c.assignAll (c.assignments entries)).2 = .ok () := by
    refine assignAll_of_allows fun a ha => ?_
    obtain ⟨entry, hentry, ha⟩ := List.mem_filterMap.mp ha
    exact htaken entry hentry a.1 a.2 ha
  rcases hfile : c.applyFile entries with ⟨c', unknown, outcome⟩
  obtain ⟨-, parameter, houtcome⟩ := eq_of_applyFile hfile
  rw [hok] at houtcome
  exact ⟨c', unknown, by rw [houtcome]; rfl⟩

end

/-- The configuration names a file that is there, and this is its text. -/
def Finds (c : Config) (files : FileTree) (t : Text) : Prop :=
  ∃ path content, c.get "config_file" = .text path ∧ files.exists? path = true ∧
    files.read path = .ok content ∧ Text.decodeFile content = .ok t

end Config

/-! ### A load that nothing stops -/

namespace Action

variable {h : Host} {t : Text} {entries : ConfigFile.Entries}

theorem runOn_readConfigText {path : Text} {content : List UInt8}
    (hcontent : h.files.read path = .ok content) (htext : Text.decodeFile content = .ok t)
    (quiet : Bool) : ∃ h', (readConfigText path quiet).runOn h = (.ok t, h') := by
  have hdecode : ∀ h' : Host, (orFail (Text.decodeFile content) Fault.notUtf8).runOn h' =
      (.ok t, h') := by
    intro h'
    rw [runOn_orFail, htext]
    rfl
  unfold readConfigText
  rw [runOn_bind_ok (runOn_read _ _), hcontent, runOn_bind_ok (runOn_orFail _ _ _)]
  cases quiet with
  | true => exact ⟨h, hdecode h⟩
  | false => exact ⟨_, hdecode _⟩

theorem runOn_readConfigFile (hfinds : h.config.Finds h.files t)
    (hread : ConfigFile.read t = .ok entries) (quiet : Bool) :
    ∃ h', (readConfigFile quiet).runOn h = (.ok entries, h') := by
  obtain ⟨path, content, hpath, hthere, hcontent, htext⟩ := hfinds
  obtain ⟨h', hfile⟩ := runOn_readConfigText hcontent htext quiet
  refine ⟨h', ?_⟩
  unfold readConfigFile
  rw [runOn_bind_ok (runOn_configPath hpath), runOn_bind_ok (runOn_read _ _)]
  dsimp only [id]
  rw [if_pos hthere, runOn_bind_ok hfile, runOn_orFail, hread]
  rfl

/-- **A load of which everything is taken comes to the language of messages**, and by then what the
file says has been applied. -/
theorem runOn_loadConfig {options : List (Text × Value)} {c₁ : Config}
    (horderly : h.config.Orderly) (hoptions : h.config.override options = (c₁, .ok ()))
    (hfinds : c₁.Finds h.files t) (hread : ConfigFile.read t = .ok entries)
    (htaken : ∀ entry ∈ entries, c₁.Takes entry) (quiet : Bool) :
    ∃ c₂ c₃ unknown h', c₁.set "main_config" (entriesValue entries) = .ok c₂ ∧
      c₂.applyFile entries = (c₃, unknown, .ok ()) ∧ c₃.Settles h'.config ∧
      (loadConfig options quiet).runOn h =
        (useLanguage (h'.config.get "language")).runOn h' := by
  have hoverride : (override options).runOn h = (.ok (), { h with config := c₁ }) := by
    rw [runOn_override, hoptions]
    rfl
  have horderly₁ := horderly.override hoptions
  obtain ⟨h₂, hfile⟩ :=
    runOn_readConfigFile (h := { h with config := c₁ }) hfinds hread quiet
  have hkept := reads_readConfigFile quiet { h with config := c₁ }
  rw [hfile] at hkept
  obtain rfl : h₂.config = c₁ := hkept.config
  obtain ⟨c₂, hmain⟩ := Config.exists_set_of_accepts horderly₁.mainConfig
    (show VarType.dict.accepts (entriesValue entries) = true from rfl)
  obtain ⟨c₃, unknown, happlied⟩ :=
    Config.applyFile_of_takes fun entry hentry => (htaken entry hentry).set hmain
  obtain ⟨h₃, happly, hconfig⟩ := runOn_applyParameters entries { h₂ with config := c₂ }
  dsimp only at happly hconfig
  rw [happlied] at happly hconfig
  obtain rfl : h₃.config = c₃ := hconfig
  have horderly₃ := (horderly₁.set hmain).applyFile happlied
  obtain ⟨h₄, hsettle, hsettles⟩ := runOn_settleTracebacks horderly₃
  refine ⟨c₂, h₃.config, unknown, h₄, hmain, happlied, hsettles, ?_⟩
  unfold loadConfig
  rw [runOn_bind_ok (show (useLanguage (.text "en")).runOn h = (.ok (), h) from rfl),
    runOn_bind_ok hoverride, runOn_bind_ok hfile, runOn_bind_ok (runOn_configure_ok hmain),
    runOn_bind_ok happly, runOn_bind_ok hsettle,
    runOn_bind_ok (show (configured "language").runOn h₄ = (.ok _, h₄) from rfl)]

end Action

namespace Config

/-! ### The variable of a parameter -/

/-- A load from a file of the given text may set the variable: the parameter stands for it, no
option has named it, and the options are accepted and leave the file to be found. -/
structure MaySet (c : Config) (files : FileTree) (options : List (Text × Value)) (t : Text)
    (parameter name : Text) (types : List VarType) : Prop where
  parameter : find? c.parameters parameter = some name
  types : find? c.types name = some types
  free : name ∉ c.overridden ++ options.map (·.1)
  accepted : (c.override options).2 = .ok ()
  finds : (c.override options).1.Finds files t

/-- A load leaves the variable with the value, and succeeds if there is then a language for
messages. -/
structure Leaves (r : Except Fault Unit × Host) (name : Text) (value : Value) : Prop where
  value : r.2.config.get? name = some value
  succeeds : ∀ language, r.2.config.get "language" = .text language → r.1 = .ok ()

section

variable {h : Host} {options entries : List (Text × Value)} {t parameter name : Text}
  {types : List VarType} {value : Value}

theorem override_tables (c : Config) (options : List (Text × Value)) :
    (c.override options).1.types = c.types ∧
      (c.override options).1.parameters = c.parameters := by
  obtain ⟨noted, heq, -⟩ := override_eq c options
  rw [heq, assignAll_eq]
  exact ⟨rfl, rfl⟩

/-- **What the file says of a parameter its variable has after the load**, in the type that it has,
if nothing in the file is rejected. -/
theorem MaySet.leaves (hset : h.config.MaySet h.files options t parameter name types)
    (horderly : h.config.Orderly) (hread : ConfigFile.read t = .ok entries)
    (htaken : ∀ entry ∈ entries, (h.config.override options).1.Takes entry)
    (hentry : (parameter, value) ∈ entries) (hvoid : isVoid value = false) (quiet : Bool) :
    Leaves ((Action.loadConfig options quiet).runOn h) name (convert types value) := by
  obtain ⟨htypes, hparameters⟩ := override_tables h.config options
  have hoptions : h.config.override options = ((h.config.override options).1, .ok ()) :=
    Prod.ext rfl hset.accepted
  have hnoted := overridden_override hoptions
  obtain ⟨c₂, c₃, unknown, h', hmain, hfile, hsettles, hrun⟩ :=
    Action.runOn_loadConfig horderly hoptions hset.finds hread htaken quiet
  have horderly₂ := (horderly.override hoptions).set hmain
  have hassigned : (name, convert types value) ∈ c₂.assignments entries := by
    refine mem_assignments_iff.mpr ⟨_, hentry, ?_, hvoid, ?_, ?_⟩
    · rw [parameters_set hmain, hparameters]
      exact hset.parameter
    · rw [overridden_set hmain, hnoted]
      exact hset.free
    · rw [types_set hmain, htypes, hset.types, Option.getD_some]
  have hvalue := get?_applyFile hfile horderly₂.single (ConfigFile.nodup_of_read hread) hassigned
  -- what is decided about tracebacks then concerns a variable that holds nothing
  have hkept : h'.config.get? name = some (convert types value) := by
    rw [hsettles.get?_eq fun _ => ?_, hvalue]
    rw [get_of_get? hvalue]
    exact convert_ne_null hvoid
  rw [hrun]
  obtain ⟨r, hlanguage, -⟩ := Action.runOn_useLanguage (h'.config.get "language") h'
  refine ⟨?_, fun language hsome => ?_⟩
  · rw [hlanguage]
    exact hkept
  · rw [hlanguage] at hsome ⊢
    dsimp only at hsome ⊢
    rw [hsome] at hlanguage
    cases hlanguage
    rfl

/-- **What a line of the file says of a parameter its variable has after the load**, if it may hold
that and nothing that the other lines say is rejected. -/
theorem MaySet.leaves_line (hset : h.config.MaySet h.files options t parameter name types)
    (horderly : h.config.Orderly) (frame : ConfigFile.Frame parameter) {line : Text}
    (hlines : ConfigFile.linesOf t = frame.lines line)
    (hline : ConfigFile.Line.ofText (Text.stripRightOf (.char '\r') line) =
      .assignment parameter value)
    (hothers : ∀ entry ∈ frame.earlier ++ frame.later, entry.1 ≠ parameter →
      (h.config.override options).1.Takes entry)
    (hvoid : isVoid value = false) (hallowed : allows types (convert types value) = true)
    (quiet : Bool) :
    Leaves ((Action.loadConfig options quiet).runOn h) name (convert types value) := by
  obtain ⟨entries, hread, hentry, hall⟩ := frame.read hline hlines
  refine hset.leaves horderly hread (fun entry hmem => ?_) hentry hvoid quiet
  rcases hall entry hmem with rfl | ⟨hother, hmem⟩
  · obtain ⟨htypes, hparameters⟩ := override_tables h.config options
    intro name' value' hassigned
    obtain ⟨hname, -, -, rfl⟩ := assignment?_eq_some_iff.mp hassigned
    rw [hparameters, hset.parameter] at hname
    cases hname
    rw [htypes, hset.types]
    exact ⟨types, rfl, hallowed⟩
  · exact hothers entry hmem hother

end

end Config

end OtpRegistrar
