/-
Who has the last word on a variable, over any number of loads.

A command line comes first, and it is remembered: what one load is told counts for all
that follow, until a later line names the variable again.  A file counts for the load that
reads it, and what neither says stays as it was before the load.

Within a load this is a matter of its steps, which `Loaded` says the outcome of.  From one
load to the next two things have to be carried, and they are what `Remembers` says: the
names that are noted are those that some line has named, and each of them still has the
value of the latest line to do so.
-/
import OtpRegistrar.Invocation
import OtpRegistrar.Proofs.Config.Typing
import OtpRegistrar.Proofs.GlobalOptions

namespace OtpRegistrar.Config

/-! ### One load -/

section

variable {c c₁ c₂ c₃ c' : Config} {files : FileTree} {options entries : List (Text × Value)}
  {name : Text} {value : Value}

/-- Options that say something, and nothing of what loading sets by itself. -/
def Plain (options : List (Text × Value)) : Prop :=
  ∀ option ∈ options, option.2 ≠ .null ∧ option.1 ≠ "main_config"

/-- What a load has set before it decides about tracebacks. -/
structure Applied (c : Config) (options entries : List (Text × Value)) (c' : Config) : Prop where
  noted : c'.overridden = c.overridden ++ options.map (·.1)
  mainConfig : c'.get? "main_config" = some (Action.entriesValue entries)
  option : ∀ (name : Text) (value : Value), (name, value) ∈ options → c'.get? name = some value
  assigned : ∀ (name : Text) (value : Value), (name, value) ∈ c'.assignments entries →
    c'.get? name = some value
  rest : ∀ name : Text, name ∉ options.map (·.1) → name ∉ (c'.assignments entries).map (·.1) →
    name ≠ "main_config" → c'.get? name = c.get? name

/-- What a load that succeeds leaves, with the entries that it has read. -/
structure Loaded (c : Config) (files : FileTree) (options entries : List (Text × Value))
    (c' : Config) : Prop where
  reads : c'.Reads files entries
  noted : c'.overridden = c.overridden ++ options.map (·.1)
  mainConfig : c'.get? "main_config" = some (Action.entriesValue entries)
  option : ∀ (name : Text) (value : Value), (name, value) ∈ options → c'.get? name = some value
  assigned : ∀ (name : Text) (value : Value), (name, value) ∈ c'.assignments entries →
    c'.get? name = some value
  tracebacks : Text.ofString "print_tracebacks" ∉ options.map (·.1) →
    Text.ofString "print_tracebacks" ∉ (c'.assignments entries).map (·.1) →
    c.get "print_tracebacks" = .null → c'.get? "print_tracebacks" = some (.bool false)
  rest : ∀ name : Text, name ∉ options.map (·.1) → name ∉ (c'.assignments entries).map (·.1) →
    name ≠ "main_config" → (name = "print_tracebacks" → c.get name ≠ .null) →
    c'.get? name = c.get? name

theorem ne_null_of_mem_assignments (hmem : (name, value) ∈ c.assignments entries) :
    value ≠ .null := by
  obtain ⟨entry, -, -, hused, -, rfl⟩ := mem_assignments_iff.mp hmem
  exact convert_ne_null hused

/-- The options are assigned, then what is read, and then what the file says. -/
theorem applied_of_steps (horderly : c₂.Orderly) (hnames : (options.map (·.1)).Nodup)
    (hplain : Plain options) (hentries : (entries.map (·.1)).Nodup)
    (hoptions : c.override options = (c₁, .ok ()))
    (hmain : c₁.set "main_config" (Action.entriesValue entries) = .ok c₂) {unknown : List Text}
    (hfile : c₂.applyFile entries = (c₃, unknown, .ok ())) : Applied c options entries c₃ := by
  have hassignments : c₃.assignments entries = c₂.assignments entries := by
    unfold assignments assignment?
    rw [(eq_of_applyFile hfile).1, assignAll_eq]
  have hnoted : c₂.overridden = c.overridden ++ options.map (·.1) := by
    rw [overridden_set hmain, overridden_override hoptions]
  -- what the file leaves alone is as the options have left it
  have hupTo : ∀ name : Text, name ∉ (c₂.assignments entries).map (·.1) →
      name ≠ "main_config" → c₃.get? name = c₁.get? name := fun name hfree hother => by
    rw [get?_applyFile_of_not_mem hfile hfree, get?_set hmain hother]
  refine ⟨?_, ?_, ?_, ?_, ?_⟩
  · rw [overridden_applyFile hfile, hnoted]
  · rw [get?_applyFile_of_not_mem hfile (horderly.not_mem_assignments (.inl rfl)),
      get?_set_self hmain]
  · intro name value hmem
    have hset : name ∈ c₂.overridden :=
      hnoted ▸ List.mem_append_right _ (List.mem_map_of_mem hmem)
    rw [hupTo name (not_mem_assignments_of_overridden hset) (hplain _ hmem).2,
      get?_override hoptions hnames hmem]
  · intro name value hmem
    exact get?_applyFile hfile horderly.single hentries (hassignments ▸ hmem)
  · intro name hnone hfree hother
    rw [hupTo name (hassignments ▸ hfree) hother, get?_override_of_not_mem hoptions hnone]

/-- Deciding about tracebacks leaves everything that has been said. -/
theorem Applied.loaded (happlied : Applied c options entries c₃) (hplain : Plain options)
    (hreads : c₃.Reads files entries) (hsettles : c₃.Settles c') :
    Loaded c files options entries c' := by
  have hassignments : c'.assignments entries = c₃.assignments entries := by
    unfold assignments assignment?
    rw [hsettles.eq]
  have hkept : ∀ name value, value ≠ .null → c₃.get? name = some value →
      c'.get? name = some value := by
    intro name value hsome hvalue
    rw [hsettles.get?_eq fun _ => (get_of_get? hvalue).symm ▸ hsome, hvalue]
  refine ⟨?_, ?_, ?_, ?_, ?_, ?_, ?_⟩
  · exact hreads.congr (get_congr (hsettles.get?_eq fun heq => absurd heq (by decide)))
  · rw [hsettles.eq, happlied.noted]
  · exact hkept _ _ (by simp [Action.entriesValue]) happlied.mainConfig
  · intro name value hmem
    exact hkept name value (hplain _ hmem).1 (happlied.option name value hmem)
  · intro name value hmem
    rw [hassignments] at hmem
    exact hkept name value (ne_null_of_mem_assignments hmem) (happlied.assigned name value hmem)
  · intro hnone hfree hnull
    rw [hassignments] at hfree
    refine hsettles.get?_tracebacks ?_
    rw [get_congr (happlied.rest _ hnone hfree (by decide)), hnull]
  · intro name hnone hfree hother hsome
    rw [hassignments] at hfree
    have hsame := happlied.rest name hnone hfree hother
    rw [hsettles.get?_eq fun heq => (get_congr hsame).symm ▸ hsome heq, hsame]

theorem Loading.loaded (horderly : c.Orderly) (hloading : c.Loading files options (.ok ()) c')
    (hnames : (options.map (·.1)).Nodup) (hplain : Plain options) :
    ∃ entries, Loaded c files options entries c' := by
  cases hloading with
  | @applied c₁ c₂ c₃ _ entries unknown _ hoptions hreads hmain hfile hsettles hr =>
      have horderly₂ := (horderly.override hoptions).set hmain
      have happlied := applied_of_steps horderly₂ hnames hplain hreads.nodup hoptions hmain hfile
      have hfree : Text.ofString "config_file" ∉ (c₂.assignments entries).map (·.1) :=
        horderly₂.not_mem_assignments (.inr rfl)
      have hsame : c₃.get? "config_file" = c₁.get? "config_file" := by
        rw [get?_applyFile_of_not_mem hfile hfree, get?_set hmain (by decide)]
      exact ⟨entries, happlied.loaded hplain (hreads.congr (get_congr hsame)) hsettles⟩

end

/-! ### What lines say -/

/-- A load for a command line, where there are the given files. -/
structure Load where
  line : List Text
  files : FileTree
  quiet : Bool

namespace Load

/-- What the options in front of the line set. Whether the version is asked for is no matter of the
configuration. -/
def options (load : Load) : ConfigFile.Entries :=
  Invocation.configOptions (GlobalOptions.read load.line).1.options

/-- Loads the configuration. -/
def action (load : Load) : Action Unit := do
  Action.change fun h => { h with files := load.files }
  Action.loadConfig load.options load.quiet

theorem nodup_options (load : Load) : (load.options.map (·.1)).Nodup :=
  (GlobalOptions.nodup_read load.line).sublist (List.filter_sublist.map _)

theorem plain_options (load : Load) : Plain load.options := by
  intro option hmem
  obtain ⟨s, hsets⟩ := GlobalOptions.sets_of_mem (List.mem_filter.mp hmem).1
  exact hsets.plain

end Load

/-- The value that the latest line to name a variable gives it. -/
def latest (loads : List Load) (name : Text) : Option Value :=
  loads.reverse.findSome? fun load => find? load.options name

theorem latest_concat (loads : List Load) (load : Load) (name : Text) :
    latest (loads ++ [load]) name = (find? load.options name).or (latest loads name) := by
  unfold latest
  rw [List.reverse_append, List.reverse_singleton, List.singleton_append, List.findSome?_cons]
  cases find? load.options name <;> rfl

theorem exists_option_of_latest {loads : List Load} {name : Text} {value : Value}
    (hlatest : latest loads name = some value) : ∃ load ∈ loads, (name, value) ∈ load.options := by
  obtain ⟨load, hload, hfound⟩ := List.exists_of_findSome?_eq_some hlatest
  exact ⟨load, List.mem_reverse.mp hload, mem_of_find? hfound⟩

/-! ### One load after others -/

/-- The names that some line has named are noted, and they have the values of the latest lines to
name them. -/
structure Remembers (c : Config) (loads : List Load) : Prop where
  orderly : c.Orderly
  noted : ∀ name, name ∈ c.overridden ↔ (latest loads name).isSome = true
  held : ∀ name value, latest loads name = some value → c.get? name = some value

section

variable {c c' : Config} {loads : List Load} {load : Load} {entries : ConfigFile.Entries}

/-- What has been remembered is remembered after one more load, and what its line says with it. -/
theorem Remembers.step (hremembers : c.Remembers loads)
    (hloaded : c.Loaded load.files load.options entries c') (horderly : c'.Orderly) :
    c'.Remembers (loads ++ [load]) := by
  have hnoted : ∀ name, name ∈ c'.overridden ↔ (latest (loads ++ [load]) name).isSome = true := by
    intro name
    rw [hloaded.noted, List.mem_append, hremembers.noted, mem_names_iff, latest_concat,
      Option.isSome_or, Bool.or_eq_true, or_comm]
  refine ⟨horderly, hnoted, fun name value hlatest => ?_⟩
  have hset := (hnoted name).mpr (by rw [hlatest]; rfl)
  rw [latest_concat] at hlatest
  rcases Option.or_eq_some_iff.mp hlatest with hfound | ⟨hnone, hearlier⟩
  · exact hloaded.option name value (mem_of_find? hfound)
  · obtain ⟨earlier, -, hmem⟩ := exists_option_of_latest hearlier
    have hheld := hremembers.held name value hearlier
    rw [hloaded.rest name (find?_eq_none_iff.mp hnone)
      (not_mem_assignments_of_overridden hset) (earlier.plain_options _ hmem).2 fun _ => by
        rw [get_of_get? hheld]; exact (earlier.plain_options _ hmem).1, hheld]

end

/-- A load that succeeds goes through all of its steps. -/
theorem exists_loaded {h h' : Host} {load : Load} (horderly : h.config.Orderly)
    (hrun : load.action.runOn h = (.ok (), h')) :
    ∃ entries, h.config.Loaded load.files load.options entries h'.config ∧
      h'.config.Orderly := by
  unfold Load.action at hrun
  rw [Action.runOn_bind_ok (Action.runOn_change _ _)] at hrun
  have hloading := Action.loading_of_runOn (h := { h with files := load.files }) horderly hrun
  obtain ⟨entries, hloaded⟩ :=
    Loading.loaded horderly hloading load.nodup_options load.plain_options
  exact ⟨entries, hloaded, horderly.loading hloading⟩

/-- **What has been remembered is remembered after any number of loads.** -/
theorem Remembers.run {h h' : Host} {before loads : List Load}
    (hremembers : h.config.Remembers before)
    (hrun : (loads.forM Load.action).runOn h = (.ok (), h')) :
    h'.config.Remembers (before ++ loads) := by
  induction loads generalizing h before with
  | nil =>
      cases hrun
      rwa [List.append_nil]
  | cons load rest ih =>
      rw [List.forM_eq_forM, List.forM_cons] at hrun
      obtain ⟨_, h₁, hload, hrest⟩ := Action.runOn_bind_inv hrun
      obtain ⟨entries, hloaded, horderly⟩ := exists_loaded hremembers.orderly hload
      rw [List.append_cons]
      exact ih (hremembers.step hloaded horderly) hrest

/-! ### Any number of loads -/

/-- No parameter of the file says anything about the variable. -/
def Silent (c : Config) (entries : ConfigFile.Entries) (name : Text) : Prop :=
  ∀ parameter value, (parameter, value) ∈ entries → find? c.parameters parameter = some name →
    isVoid value = true

/-- What a configuration holds after a load in which `entries` were read, where `named` tells what
this or an earlier line has said. -/
structure Precedence (named : Text → Option Value) (entries : ConfigFile.Entries)
    (c c' : Config) : Prop where
  /-- What a line has said counts, whatever the file says. -/
  line : ∀ name value, named name = some value → c'.get? name = some value
  /-- What the file says counts if no line has said anything. -/
  file : ∀ name parameter value, named name = none → (parameter, value) ∈ entries →
    find? c'.parameters parameter = some name → isVoid value = false →
    ∃ types, find? c'.types name = some types ∧ c'.get? name = some (convert types value)
  /-- Tracebacks of which nothing is said are not shown. -/
  tracebacks : named "print_tracebacks" = none → c'.Silent entries "print_tracebacks" →
    c.get "print_tracebacks" = .null → c'.get? "print_tracebacks" = some (.bool false)
  mainConfig : c'.get? "main_config" = some (Action.entriesValue entries)
  /-- Any other variable of which nothing is said is as it was before. -/
  rest : ∀ name, named name = none → c'.Silent entries name → name ≠ "main_config" →
    (name = "print_tracebacks" → c.get name ≠ .null) → c'.get? name = c.get? name

section

variable {c c' : Config} {loads : List Load} {load : Load} {entries : ConfigFile.Entries}
  {name : Text}

theorem not_mem_assignments_of_silent (hsilent : c.Silent entries name) :
    name ∉ (c.assignments entries).map (·.1) := by
  intro hmem
  obtain ⟨⟨_, value⟩, hassigned, rfl⟩ := List.mem_map.mp hmem
  obtain ⟨⟨parameter, said⟩, hentry, hparameter, hused, -⟩ := mem_assignments_iff.mp hassigned
  rw [hsilent parameter said hentry hparameter] at hused
  cases hused

theorem not_mem_options_of_latest (hnone : latest (loads ++ [load]) name = none) :
    name ∉ load.options.map (·.1) := by
  rw [latest_concat, Option.or_eq_none_iff] at hnone
  exact find?_eq_none_iff.mp hnone.1

/-- Whatever is remembered, one more load keeps to the precedence. -/
theorem Loaded.precedence (hloaded : c.Loaded load.files load.options entries c')
    (hremembers : c'.Remembers (loads ++ [load])) :
    Precedence (latest (loads ++ [load])) entries c c' where
  line := hremembers.held
  file := by
    intro name parameter value hnone hentry hparameter hused
    have hfree : name ∉ c'.overridden := by
      rw [hremembers.noted, hnone]
      exact Bool.false_ne_true
    obtain ⟨types, htypes⟩ := Option.isSome_iff_exists.mp
      (hremembers.orderly.known _ (mem_of_find? hparameter))
    refine ⟨types, htypes, hloaded.assigned name _ (mem_assignments_iff.mpr
      ⟨(parameter, value), hentry, hparameter, hused, hfree, ?_⟩)⟩
    rw [htypes, Option.getD_some]
  tracebacks := fun hnone hsilent hnull =>
    hloaded.tracebacks (not_mem_options_of_latest hnone) (not_mem_assignments_of_silent hsilent)
      hnull
  mainConfig := hloaded.mainConfig
  rest := fun name hnone hsilent hother hsome =>
    hloaded.rest name (not_mem_options_of_latest hnone) (not_mem_assignments_of_silent hsilent)
      hother hsome

end

/-! ### Before the first load -/

/-- Does the call load the configuration? -/
def Call.isLoad : Call → Bool
  | load .. => true
  | _ => false

theorem overridden_register (c : Config) (name : Text) (types : List VarType) (value : Value)
    (parameter : Option Text) :
    (c.register name types value parameter).1.overridden = c.overridden := by
  unfold register
  split
  · rfl
  dsimp only
  split
  · rfl
  rename_i c₁ hset
  have hsame : c₁.overridden = c.overridden := by rw [overridden_set hset]
  split
  · exact hsame
  · exact hsame
  · split
    · exact hsame
    · exact hsame

/-- One host has noted what another has. -/
def SameNotes (h h' : Host) : Prop := h'.config.overridden = h.config.overridden

instance : IsPreorder Host SameNotes where
  refl _ := rfl
  trans _ _ _ hab hbc := hbc.trans hab

theorem sameNotes_configure (name : Text) (value : Value) :
    Action.Keeps SameNotes (Action.configure name value) := by
  intro h
  cases hset : h.config.set name value with
  | ok c =>
      rw [Action.runOn_configure_ok hset]
      exact overridden_set hset
  | error f =>
      rw [Action.runOn_configure_error hset]
      exact rfl

/-- Only a load notes names. -/
theorem Call.sameNotes {call : Call} (hload : call.isLoad = false) :
    Action.Keeps SameNotes call.action := by
  have hlevels : Action.Keeps SameNotes Action.debugLevels := fun h =>
    congrArg overridden (reads_debugLevels h).config
  cases call with
  | register name types value parameter => exact fun h => overridden_register h.config _ _ _ _
  | assign name value =>
      show Action.Keeps SameNotes (Action.assign name value)
      rw [assign_eq_configure name.property]
      exact sameNotes_configure name value
  | load files options quiet => cases hload
  | debugLevel slot level =>
      have hset : Action.Keeps SameNotes (Action.setDebugLevel slot level) :=
        Action.Keeps.bind hlevels fun levels => sameNotes_configure _ _
      cases level with
      | null =>
          exact Action.Keeps.bind (Action.Keeps.bind hlevels fun _ => Action.Keeps.pure _)
            fun _ => Action.Keeps.pure _
      | _ => exact hset

/-- Before the first load there is nothing to remember. -/
theorem remembers_after {tool : Value} {file : Text} {h : Host} {before : List Call}
    (hmake : make tool file = .ok h.config) (hbefore : ∀ call ∈ before, call.isLoad = false) :
    (after before h).config.Remembers [] := by
  have hnone : (after before h).config.overridden = [] := by
    have hsame : (after before h).config.overridden = h.config.overridden := by
      clear hmake
      induction before generalizing h with
      | nil => rfl
      | cons call rest ih =>
          obtain ⟨hfirst, hrest⟩ := List.forall_mem_cons.mp hbefore
          exact (ih hrest).trans (Call.sameNotes hfirst h)
    rw [hsame, eq_declared_of_make hmake]
    rfl
  refine ⟨(orderly_of_make hmake).after before, fun name => ?_, fun name value hlatest => ?_⟩
  · rw [hnone]
    simp [latest]
  · cases hlatest

/-- **The command line has the last word, then the file, and then what was there before.** This
holds of every load in a row of loads that succeed, whatever has been registered and assigned before
the first of them. -/
theorem load_precedence {tool : Value} {file : Text} {h h₁ h₂ : Host} {before : List Call}
    {loads : List Load} {last : Load} (hmake : make tool file = .ok h.config)
    (hbefore : ∀ call ∈ before, call.isLoad = false)
    (hloads : (loads.forM Load.action).runOn (after before h) = (.ok (), h₁))
    (hlast : last.action.runOn h₁ = (.ok (), h₂)) :
    ∃ entries, h₂.config.Reads last.files entries ∧
      Precedence (latest (loads ++ [last])) entries h₁.config h₂.config := by
  have hremembers : h₁.config.Remembers loads := (remembers_after hmake hbefore).run hloads
  obtain ⟨entries, hloaded, horderly⟩ := exists_loaded hremembers.orderly hlast
  exact ⟨entries, hloaded.reads, hloaded.precedence (hremembers.step hloaded horderly)⟩

/-- A file that names a port and a log file. -/
def portFile : FileTree :=
  (FileTree.empty "/").plant (Place.ofPath "c.conf")
    (.file (Text.toBytes "LDAP_PORT=636\nLOGFILE=other.log"))

/-- A load whose line names a log file, and the configuration file. -/
def namingLoad : Load := ⟨["-l", "my.log", "-c", "c.conf"], portFile, true⟩

/-- A load whose line names neither. -/
def silentLoad : Load := ⟨["-v"], portFile, true⟩

/-- The file names a port, which counts for more than one that was assigned, and another log file,
which neither load takes. -/
theorem load_precedence_twice :
    ∃ h₁ h₂, ([namingLoad].forM Load.action).runOn (after [.assign port (.int 389)] startedHost) =
        (.ok (), h₁) ∧ silentLoad.action.runOn h₁ = (.ok (), h₂) ∧
      (h₂.config.get? "logfile").bind Value.text? = some (Text.ofString "my.log") ∧
      (h₂.config.get? port).bind Value.int? = some 636 := by
  have hsucceeds : (([namingLoad].forM Load.action) >>= fun _ => silentLoad.action).Succeeds
      (after [.assign port (.int 389)] startedHost) :=
    Action.succeeds_of_isSome (by decide +kernel)
  obtain ⟨_, hok⟩ := hsucceeds
  have hport : (((([namingLoad].forM Load.action) >>= fun _ => silentLoad.action).runOn
      (after [.assign port (.int 389)] startedHost)).2.config.get? port).bind Value.int? =
        some 636 := by decide +kernel
  rcases hrun : (([namingLoad].forM Load.action) >>= fun _ => silentLoad.action).runOn
    (after [.assign port (.int 389)] startedHost) with ⟨r, h₂⟩
  rw [hrun] at hok hport
  obtain rfl : r = .ok () := hok
  obtain ⟨_, h₁, hloads, hlast⟩ := Action.runOn_bind_inv hrun
  obtain ⟨entries, -, hprecedence⟩ := load_precedence make_startedHost (by simp [Call.isLoad])
    hloads hlast
  have hlatest : (latest ([namingLoad] ++ [silentLoad]) "logfile").bind Value.text? =
      some (Text.ofString "my.log") := by decide +kernel
  refine ⟨h₁, h₂, hloads, hlast, ?_, hport⟩
  cases hsaid : latest ([namingLoad] ++ [silentLoad]) "logfile" with
  | none =>
      rw [hsaid] at hlatest
      cases hlatest
  | some value =>
      rw [hprecedence.line _ value hsaid, ← hsaid]
      exact hlatest

end OtpRegistrar.Config
