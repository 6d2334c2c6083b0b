/-
The status of an invocation.

An invocation reads the options in front, loads the configuration and runs the
command, and each of the three may end it.  `Ending` lists the ways, each with its
code; the status is the one for the code, and nothing that happens elsewhere gets
into it.  So what a status says can be told from the code: a status of zero that
nothing failed, or at least that nothing is known to have, and every other one that
something has, of which the user has been told.

Loading the configuration comes before everything that is of interest here.  All
that matters of it is that it shows nothing but errors, that the server and the homes of
the users stay what they are, and that only the command line asks for help.
-/
import OtpRegistrar.Invocation
import OtpRegistrar.Proofs.Config.Unset
import OtpRegistrar.Proofs.Registration.Ending

namespace OtpRegistrar

/-! ### Loading the configuration -/

/-- One host comes behind another in loading a configuration; unless help is asked for on the
command line it is asked for no more than before. -/
structure Host.Loads (asked : Bool) (h h' : Host) : Prop where
  unprinted : h.Unprinted h'
  server : h'.server = h.server
  homes : h'.homes = h.homes
  help : asked = false → h.config.Unset "show_help" → h'.config.Unset "show_help"

instance (asked : Bool) : IsPreorder Host (Host.Loads asked) where
  refl h := ⟨.refl h, rfl, rfl, fun _ hunset => hunset⟩
  trans _ _ _ hab hbc :=
    { unprinted := hab.unprinted.trans hbc.unprinted
      server := hbc.server.trans hab.server
      homes := hbc.homes.trans hab.homes
      help := fun hasked hunset => hbc.help hasked (hab.help hasked hunset) }

namespace Action

variable {asked : Bool}

theorem loads_useLanguage (v : Value) : Keeps (Host.Loads asked) (useLanguage v) := by
  unfold useLanguage
  split
  · exact Keeps.pure _
  · exact Keeps.fail _

theorem loads_configure {name : Text} (hname : Text.ofString "show_help" ≠ name) (value : Value) :
    Keeps (Host.Loads asked) (configure name value) := by
  intro h
  unfold configure
  rw [runOn_ofFunction]
  split
  · rename_i config hset
    exact ⟨.of_same rfl rfl, rfl, rfl,
      fun _ hunset => hunset.set hset fun hsame => absurd hsame hname⟩
  · exact Std.Refl.refl h

theorem loads_override {options : List (Text × Value)}
    (hasked : asked = false → ∀ option ∈ options, Text.ofString "show_help" ≠ option.1) :
    Keeps (Host.Loads asked) (override options) := fun _ =>
  ⟨.of_same rfl rfl, rfl, rfl, fun hnone hunset => hunset.override fun option hmem hsame =>
    absurd hsame (hasked hnone option hmem)⟩

theorem loads_readConfigFile : Keeps (Host.Loads asked) (readConfigFile true) := by
  unfold readConfigFile configPath readConfigText
  refine Keeps.bind (Keeps.bind (Keeps.configured _) fun v => ?_) fun path => ?_
  · split
    · exact Keeps.pure _
    · exact Keeps.fail _
  refine Keeps.bind (Keeps.read _) fun h => Keeps.ite ?_ (Keeps.ite (Keeps.fail _) (Keeps.pure _))
  refine Keeps.bind ?_ fun t => Keeps.orFail _ _
  refine Keeps.bind (Keeps.read _) fun files => Keeps.bind (Keeps.orFail _ _) fun content => ?_
  exact Keeps.orFail _ _

theorem loads_reportUnknown (parameter : Text) :
    Keeps (Host.Loads asked) (reportUnknown parameter) := by
  unfold reportUnknown
  refine Keeps.bind (Keeps.configured _) fun path h => ?_
  exact ⟨printsNothing_complain _ h, rfl, rfl, fun _ hunset => hunset⟩

theorem loads_applyParameters (entries : ConfigFile.Entries) :
    Keeps (Host.Loads asked) (applyParameters entries) := by
  intro h
  unfold applyParameters
  have hreported : Keeps (Host.Loads asked) ((h.config.applyFile entries).2.1.forM reportUnknown) :=
    Keeps.forM loads_reportUnknown _
  have hloads := hreported h
  rw [runOn_bind_ok (runOn_read _ _), runOn_bind]
  rcases hrun : ((h.config.applyFile entries).2.1.forM reportUnknown).runOn h with ⟨r, h₁⟩
  rw [hrun] at hloads
  cases r with
  | error f => exact hloads
  | ok _ =>
      -- the parameters are those of the configuration that the reports began with
      exact ⟨hloads.unprinted.trans (.of_same rfl rfl), hloads.server, hloads.homes,
        fun _ hunset => hunset.applyFile⟩

theorem loads_loadConfig {options : List (Text × Value)}
    (hasked : asked = false → ∀ option ∈ options, Text.ofString "show_help" ≠ option.1) :
    Keeps (Host.Loads asked) (loadConfig options true) := by
  unfold loadConfig settleTracebacks
  refine Keeps.bind (loads_useLanguage _) fun _ => Keeps.bind (loads_override hasked) fun _ => ?_
  refine Keeps.bind loads_readConfigFile fun entries => ?_
  refine Keeps.bind (loads_configure (by decide) _) fun _ => ?_
  refine Keeps.bind (loads_applyParameters entries) fun _ => Keeps.bind ?_ fun _ => ?_
  · refine Keeps.bind (Keeps.configured _) fun v => ?_
    split
    · exact loads_configure (by decide) _
    · exact Keeps.pure _
  · exact Keeps.bind (Keeps.configured _) fun v => loads_useLanguage v

end Action

/-! ### The end of an invocation -/

namespace Invocation

open OtpRegistrar.Action

/-- Help is asked for in front of the command: among the options, or by the configuration that the
invocation begins with. -/
def AsksHelp (line : List Text) (h : Host) : Prop :=
  ((GlobalOptions.read line).1.options.get? "show_help").isSome = true ∨
    ¬h.config.Unset "show_help"

/-- What the options in front load. -/
def loading (line : List Text) : Action Unit :=
  loadConfig (configOptions (GlobalOptions.read line).1.options) true

/-- The configuration is loaded, and the command begins on the other host. -/
def Loaded (line : List Text) (h g : Host) : Prop :=
  ∃ h₁, (loading line).runOn h = (.ok (), h₁) ∧ g = { h₁ with bound := [] }

/-- What has happened between the hosts when an invocation comes to a code. -/
inductive Ending (line : List Text) (h h' : Host) : Value → Prop
  /-- The options in front are not usable. -/
  | options {f : GlobalOptions.Flaw} (hflaw : (GlobalOptions.read line).2.2 = .error f)
      (htold : h.Complains h' f.message) : Ending line h h' (.int ResultCode.paramError.code)
  /-- The version was asked for. -/
  | version (hasked : asksVersion (GlobalOptions.read line).1.options = true) :
      Ending line h h' (.int ResultCode.success.code)
  /-- The configuration cannot be loaded. -/
  | configuration {f : Fault} {h₁ : Host} (hfailed : (loading line).runOn h = (.error f, h₁))
      (hown : f.isOwn = true) (htold : h.Complains h' f.text) :
      Ending line h h' (.int ResultCode.localError.code)
  /-- Help was asked for in front of the command. -/
  | help (hasked : AsksHelp line h) : Ending line h h' (.int ResultCode.success.code)
  /-- The command has come to its end. -/
  | command {g : Host} {code : Value} (hloaded : Loaded line h g)
      (hending : Registration.Ending (GlobalOptions.read line).2.1 g h' code) :
      Ending line h h' code
  /-- The command has failed. -/
  | failure {f : Fault} {g g' : Host} (hloaded : Loaded line h g)
      (hfailed : (Registration.run (GlobalOptions.read line).2.1).runOn g = (.error f, g'))
      (hown : f.isOwn = true) (htold : h.Complains h' f.text) :
      Ending line h h' (.int ResultCode.localError.code)

theorem runOn_showTraceback (h : Host) :
    ∃ h', showTraceback.runOn h = (.ok (), h') ∧ h.Unprinted h' := by
  unfold showTraceback
  rw [runOn_bind_ok (show (configured "print_tracebacks").runOn h = (.ok _, h) from rfl)]
  split
  · exact ⟨_, rfl, .note h rfl⟩
  · exact ⟨_, rfl, .refl h⟩

/-- The command comes to its end, or to a failure that the user is told. -/
theorem runCommand_ends {rest : List Text} {outcome : Registration.Outcome} {h h' : Host}
    (hrun : (runCommand rest).runOn h = (.ok outcome, h')) :
    ∃ code, outcome = .ofCode code ∧ (Registration.Ending rest h h' code ∨
      code = .int ResultCode.localError.code ∧ ∃ (f : Fault) (h₁ : Host),
        (Registration.run rest).runOn h = (.error f, h₁) ∧ f.isOwn = true ∧
          h.Complains h' f.text) := by
  have hends := Registration.run_ends rest h
  unfold runCommand at hrun
  rw [runOn_attempt_bind] at hrun
  rcases hcommand : (Registration.run rest).runOn h with ⟨r, h₁⟩
  rw [hcommand] at hends hrun
  cases r with
  | ok outcome' =>
      cases hrun
      obtain ⟨code, houtcome, hending⟩ := hends
      exact ⟨code, houtcome, .inl hending⟩
  | error f =>
      dsimp only at hrun
      split at hrun
      · rename_i hown
        obtain ⟨h₂, htrace, hunprinted⟩ := runOn_showTraceback h₁
        have htold := complains_complain f.text h₂
        rw [runOn_complain] at htold
        rw [runOn_bind_ok htrace, runOn_bind_ok (runOn_complain _ _)] at hrun
        cases hrun
        exact ⟨_, rfl, .inr ⟨rfl, f, h₁, rfl, hown,
          htold.after ((hends hown).trans hunprinted)⟩⟩
      · cases hrun

/-- Options that do not ask for help set other variables. -/
theorem ne_of_unasked (options : ConfigFile.Entries)
    (hnone : (options.get? "show_help").isSome = false) :
    ∀ option ∈ configOptions options, Text.ofString "show_help" ≠ option.1 := by
  intro option hmem hname
  rw [ConfigFile.Entries.get?, Option.isSome_map, Option.isSome_eq_false_iff,
    Option.isNone_iff_eq_none] at hnone
  have hother := List.find?_eq_none.mp hnone option (List.mem_filter.mp hmem).1
  exact hother (by rw [← hname]; exact beq_self_eq_true _)

theorem loads_loading (line : List Text) :
    Keeps (Host.Loads ((GlobalOptions.read line).1.options.get? "show_help").isSome)
      (loading line) :=
  loads_loadConfig (ne_of_unasked _)

theorem Loaded.loads {line : List Text} {h g : Host} (hloaded : Loaded line h g) :
    h.Loads ((GlobalOptions.read line).1.options.get? "show_help").isSome g := by
  obtain ⟨h₁, hrun, rfl⟩ := hloaded
  have hloads := loads_loading line h
  rw [hrun] at hloads
  exact ⟨hloads.unprinted.trans (.of_same rfl rfl), hloads.server, hloads.homes, hloads.help⟩

theorem runLoaded_ends {line : List Text} {status : Value} {h h₁ h' : Host}
    (hloading : (loading line).runOn h = (.ok (), h₁))
    (hrun : (runLoaded (GlobalOptions.read line).2.1).runOn h₁ = (.ok status, h')) :
    ∃ code, Ending line h h' code ∧ ResultCode.IsStatusOf code status := by
  let g : Host := { h₁ with bound := [] }
  have hloaded : Loaded line h g := ⟨h₁, hloading, rfl⟩
  have hloads := hloaded.loads
  have hshow : (configured "show_help").runOn g = (.ok (g.config.get "show_help"), g) := rfl
  unfold runLoaded at hrun
  rw [runOn_bind_ok (runOn_change _ _), runOn_bind_ok hshow] at hrun
  split at hrun
  · rename_i hhelp
    cases hrun
    refine ⟨_, .help ?_, ResultCode.isStatusOf_of_exitStatus? rfl⟩
    unfold AsksHelp
    cases hasked : ((GlobalOptions.read line).1.options.get? "show_help").isSome with
    | true => exact .inl rfl
    | false =>
        refine .inr fun hunset => ?_
        have hoff := (hloads.help hasked hunset).off
        exact Bool.false_ne_true (hoff.symm.trans hhelp)
  · obtain ⟨outcome, h₂, hcommand, hend⟩ := runOn_bind_inv hrun
    obtain ⟨hstatus, rfl⟩ := runOn_orFail_inv hend
    obtain ⟨code, rfl, hending | ⟨rfl, f, g', hfailed, hown, htold⟩⟩ := runCommand_ends hcommand
    · exact ⟨code, .command hloaded hending, Registration.Outcome.isStatusOf_of_ofCode hstatus⟩
    · exact ⟨_, .failure hloaded hfailed hown (htold.after hloads.unprinted),
        Registration.Outcome.isStatusOf_of_ofCode hstatus⟩

/-- **An invocation that ends with a status has come to a code**, and the status is the one for
it. -/
theorem run_ends {line : List Text} {status : Value} {h h' : Host}
    (hrun : (run line).runOn h = (.ok status, h')) :
    ∃ code, Ending line h h' code ∧ ResultCode.IsStatusOf code status := by
  have hknown : ∀ m, ResultCode.IsStatusOf (.int m.code) (statusOf m) := fun m =>
    ResultCode.isStatusOf_of_exitStatus? rfl
  unfold run at hrun
  dsimp only at hrun
  split at hrun
  · rename_i f hflaw
    have htold := complains_complain f.message h
    cases hrun
    exact ⟨_, .options hflaw htold, hknown _⟩
  split at hrun
  · rename_i hversion
    cases hrun
    exact ⟨_, .version hversion, hknown ResultCode.success⟩
  have hloads := loads_loading line h
  unfold runConfigured at hrun
  unfold loading at hloads
  rw [runOn_attempt_bind] at hrun
  rcases hloading :
    (loadConfig (configOptions (GlobalOptions.read line).1.options) true).runOn h with ⟨r, h₁⟩
  rw [hloading] at hloads hrun
  cases r with
  | error f =>
      dsimp only at hrun
      split at hrun
      · rename_i hown
        have htold := complains_complain f.text h₁
        cases hrun
        exact ⟨_, .configuration hloading hown (htold.after hloads.unprinted), hknown _⟩
      · cases hrun
  | ok _ => exact runLoaded_ends hloading hrun

theorem Loaded.genuine {line : List Text} {h g : Host} (hloaded : Loaded line h g)
    (hgenuine : h.server.Genuine) : g.server.Genuine := by
  rwa [hloaded.loads.server]

/-- A code of zero means that the version or help was asked for, or that the request has been sent
and the code of its outcome is zero. -/
theorem Ending.zero {line : List Text} {h h' : Host} {code : Value}
    (hending : Ending line h h' code) (hgenuine : h.server.Genuine) (hzero : code.IsZero) :
    asksVersion (GlobalOptions.read line).1.options = true ∨ AsksHelp line h ∨
    (CommandLine.read h.homes Registration.arguments (GlobalOptions.read line).2.1).2 =
      .error .helpRequested ∨
    (h.Sends h' ∧ ∃ result, h.server.Answers result ∧ result.code.IsZero) := by
  have hparam : ¬(Value.int ResultCode.paramError.code).IsZero := by decide
  have hlocal : ¬(Value.int ResultCode.localError.code).IsZero := by decide
  cases hending with
  | options _ _ => exact absurd hzero hparam
  | version hasked => exact .inl hasked
  | configuration _ _ _ => exact absurd hzero hlocal
  | help hasked => exact .inr (.inl hasked)
  | command hloaded hending =>
      have hloads := hloaded.loads
      have hcame := hending.zero (hloaded.genuine hgenuine) hzero
      rw [hloads.homes, hloads.server] at hcame
      exact .inr (.inr (hcame.imp_right fun hanswer =>
        ⟨hanswer.1.after hloads.unprinted, hanswer.2⟩))
  | failure _ _ _ _ => exact absurd hzero hlocal

/-- No invocation comes to a NaN. -/
theorem Ending.ne_nan {line : List Text} {h h' : Host} {code : Value}
    (hending : Ending line h h' code) (hgenuine : h.server.Genuine) : code ≠ .float .nan := by
  cases hending with
  | command hloaded hending => exact hending.ne_nan (hloaded.genuine hgenuine)
  | _ => exact fun hnan => nomatch hnan

/-- Every other code comes with an error, and nothing but errors is shown. -/
theorem Ending.told {line : List Text} {h h' : Host} {code : Value}
    (hending : Ending line h h' code) (hcode : ¬code.IsZero) : ∃ t, h.Complains h' t := by
  have hzero : (Value.int ResultCode.success.code).IsZero := by decide
  cases hending with
  | options _ htold => exact ⟨_, htold⟩
  | version _ => exact absurd hzero hcode
  | configuration _ _ htold => exact ⟨_, htold⟩
  | help _ => exact absurd hzero hcode
  | command hloaded hending =>
      obtain ⟨t, htold⟩ := hending.told hcode
      exact ⟨t, htold.after hloaded.loads.unprinted⟩
  | failure _ _ _ htold => exact ⟨_, htold⟩

/-- A machine as it is before anything has happened, with a server. -/
def machine (server : DirectoryServer) : Host :=
  { Host.fresh (FileTree.empty "/home/tester") (.own "/home/tester") "/etc/tool.conf" false 1
      "12:00" with server }

theorem make_machine (server : DirectoryServer) :
    Config.make (.text Config.toolName) "/etc/tool.conf" = .ok (machine server).config := by
  unfold machine Host.fresh
  dsimp only
  exact Config.make_fresh _

/-- A server that answers every request with a code. -/
def answering (code : Value) : DirectoryServer :=
  { extended := { answer := some (.dict [(.text "result", code),
      (.text "description", .text "answered"), (.text "message", .text [])]) } }

/-- Nothing but the request is replied to with anything. -/
theorem reply_answering {code : Value} {reply : Reply}
    (hreply : reply ∈ (answering code).replies) :
    reply = {} ∨ reply = (answering code).extended := by
  simp only [DirectoryServer.replies, answering, List.mem_cons, List.not_mem_nil, or_false]
    at hreply ⊢
  rcases hreply with h | h | h | h | h | h
  all_goals first | exact .inl h | exact .inr h

/-- A code that is no NaN is one that a directory client hands over. -/
theorem genuine_answering {code : Value} (hcode : code ≠ .float .nan) :
    (answering code).Genuine := by
  have hnone : ∀ r, ¬(answering code).Raises r := by
    rintro r ⟨reply, hreply, hfailure⟩
    obtain rfl | rfl := reply_answering hreply <;> cases hfailure
  refine ⟨fun r hr => absurd hr (hnone r), fun delivered hdelivers => ?_⟩
  cases hdelivers with
  | raised hr hdetail => exact absurd hr (hnone _)
  | @answer reply answer _ hreply hanswer hfield =>
      obtain rfl | rfl := reply_answering hreply <;> cases hanswer
      cases hfield
      exact hcode

/-- The number that an action comes to. -/
theorem runOn_of_int {a : Action Value} {h : Host} {n : Int}
    (ha : (a.runOn h).1.toOption.bind Value.int? = some n) :
    a.runOn h = (.ok (.int n), (a.runOn h).2) := by
  obtain ⟨v, hv, hn⟩ := Option.bind_eq_some_iff.mp ha
  refine Prod.ext (eq_ok_of_toOption (hv.trans (congrArg some ?_))) rfl
  cases v with
  | int m => exact congrArg Value.int (Option.some.inj hn)
  | _ => cases hn

end Invocation

end OtpRegistrar
