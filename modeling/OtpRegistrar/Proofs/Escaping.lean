/-
What escapes an invocation.

An invocation is to end with a status whatever goes wrong, and so each layer of it
tells the user what it can and turns it into a status: a flaw of the options, a flaw
of the configuration, and every failure of the command that is one of the program's
own.  What is none of the program's own is handed on, and comes out at the top.

On an ordinary machine there are few such failures, and all of them come from
outside: a configuration file that is not UTF-8, and what `Registration.Uncaught`
lists.  The first is told in full: the text of a configuration file is decoded where
only the failure to open it is looked for, so that every file that is not UTF-8 comes
out at the top, and no other invocation ends so.
-/
import OtpRegistrar.Proofs.Invocation
import OtpRegistrar.Proofs.Registration.Failing

namespace OtpRegistrar.Invocation

open OtpRegistrar.Action

/-- The options in front can be used, and ask for a configuration whose file is not UTF-8. -/
structure ReadsNotUtf8 (line : List Text) (h : Host) (e : Text.DecodeFlaw) : Prop where
  accepted : (GlobalOptions.read line).2.2 = .ok ()
  loads : asksVersion (GlobalOptions.read line).1.options = false
  file : h.config.ReadsNotUtf8 (configOptions (GlobalOptions.read line).1.options) h.files e

/-- What comes out of an invocation at the top. -/
inductive Uncaught (line : List Text) (h : Host) : Fault → Prop
  /-- The configuration file is not UTF-8. -/
  | configFile {e : Text.DecodeFlaw} (hreads : ReadsNotUtf8 line h e) :
      Uncaught line h (.notUtf8 e)
  /-- The command fails with something that it does not take care of. -/
  | command {g : Host} {f : Fault} (hloaded : Loaded line h g)
      (huncaught : Registration.Uncaught (GlobalOptions.read line).2.1 g f) : Uncaught line h f

/-! ### Loading -/

theorem assignable_options (line : List Text) :
    ∀ option ∈ configOptions (GlobalOptions.read line).1.options,
      Config.Assignable option.1 option.2 := by
  intro option hmem
  exact Config.assignable_scan (fun _ hnone => absurd hnone List.not_mem_nil) line option
    (List.mem_filter.mp hmem).1

/-- **What loading comes to on an ordinary machine**: the command begins on an ordinary one as
well. -/
theorem comesTo_loading {line : List Text} {h : Host} (hordinary : h.Ordinary line) :
    ComesTo (fun _ h' => ({ h' with bound := [] } : Host).Ordinary (GlobalOptions.read line).2.1)
      (fun f => Own f ∨ ∃ e, f = .notUtf8 e ∧
        h.config.ReadsNotUtf8 (configOptions (GlobalOptions.read line).1.options) h.files e)
      (loading line) h := by
  have hloads := (comesTo_loadConfig hordinary.config (assignable_options line)).keeping
    (loads_loading line)
  refine hloads.mono ?_ fun _ hf => hf
  rintro _ h' ⟨⟨hsound, hprompts⟩, hkept⟩
  refine ⟨fun t ht => hordinary.line t ?_, ?_, ?_, ?_, hsound⟩
  · exact (GlobalOptions.rest_suffix _ line).subset ht
  · show h'.homes.NulFree
    rw [hkept.homes]
    exact hordinary.homes
  · intro r hr
    rw [show ({ h' with bound := [] } : Host).prompts = h.prompts from hprompts] at hr
    exact hordinary.prompts r hr
  · show h'.server.Proper
    rw [hkept.server]
    exact hordinary.server

/-! ### The command -/

/-- A failure of the program's own is told to the user. -/
theorem comesTo_runCommand {line : List Text} {h : Host} (hordinary : h.Ordinary line) :
    ComesTo (fun outcome _ => ∀ d, outcome.exitStatus = .error d →
        Registration.Uncaught line h (.defect d))
      (Registration.Uncaught line h) (runCommand line) h := by
  unfold runCommand
  refine ComesTo.attempt_bind (Registration.comesTo_run hordinary)
    (fun outcome h₁ hstatus => .of_ok rfl hstatus) fun f h₁ hf => ?_
  dsimp only
  split
  · obtain ⟨h₂, htrace, -⟩ := runOn_showTraceback h₁
    refine .after htrace (.after (runOn_complain _ _) (.of_ok rfl ?_))
    intro d hd
    cases hd
  · rename_i hother
    exact .of_error rfl (hf.resolve_left hother)

/-- Once the configuration is loaded, the command is run unless its help is shown. -/
theorem comesTo_runLoaded {line : List Text} {h : Host}
    (hordinary : ({ h with bound := [] } : Host).Ordinary line) :
    ComesTo (fun _ _ => True) (Registration.Uncaught line { h with bound := [] })
      (runLoaded line) h := by
  unfold runLoaded
  refine .after (runOn_change _ _) (.after rfl ?_)
  split
  · exact .of_ok rfl trivial
  · refine ComesTo.bind (comesTo_runCommand hordinary) fun outcome h₁ hstatus => ?_
    exact .orFail (fun _ _ => trivial) hstatus

/-! ### The invocation -/

theorem comesTo_run {line : List Text} {h : Host} (hordinary : h.Ordinary line) :
    ComesTo (fun _ _ => True) (Uncaught line h) (run line) h := by
  unfold run
  dsimp only
  split
  · exact .of_ok rfl trivial
  rename_i haccepted
  split
  · exact .of_ok rfl trivial
  rename_i hversion
  have hloading := comesTo_loading hordinary
  unfold runConfigured
  show ComesTo _ _ (attempt (loading line) >>= _) h
  refine .after (runOn_attempt _ _) ?_
  rcases hrun : (loading line).runOn h with ⟨r, h₁⟩
  cases r with
  | ok _ =>
      exact (comesTo_runLoaded (hloading.ok hrun)).mono (fun _ _ hq => hq) fun f hf =>
        .command ⟨h₁, hrun, rfl⟩ hf
  | error f =>
      dsimp only
      split
      · exact .of_ok rfl trivial
      · rename_i hother
        obtain ⟨e, rfl, hfile⟩ := (hloading.error hrun).resolve_left hother
        exact .of_error rfl (.configFile ⟨haccepted, Bool.eq_false_iff.mpr hversion, hfile⟩)

/-- A configuration file that is not UTF-8 comes out at the top. -/
theorem runOn_run_of_readsNotUtf8 {line : List Text} {h : Host} {e : Text.DecodeFlaw}
    (hreads : ReadsNotUtf8 line h e) : ∃ h', (run line).runOn h = (.error (.notUtf8 e), h') := by
  obtain ⟨h₁, hloading⟩ := runOn_loadConfig_of_readsNotUtf8 hreads.file
  refine ⟨h₁, ?_⟩
  unfold run
  dsimp only
  rw [hreads.accepted]
  dsimp only
  rw [hreads.loads, if_neg Bool.false_ne_true]
  unfold runConfigured
  rw [runOn_attempt_bind, hloading]
  rfl

/-- Nothing that the command does not take care of is a text that is not UTF-8. -/
theorem Uncaught.readsNotUtf8 {line : List Text} {h : Host} {e : Text.DecodeFlaw}
    (huncaught : Uncaught line h (.notUtf8 e)) : ReadsNotUtf8 line h e := by
  cases huncaught with
  | configFile hreads => exact hreads
  | command hloaded huncaught =>
      cases huncaught with
      | contact haccepted hpasses => cases hpasses
      | result haccepted hunshown =>
          obtain ⟨result, d, -, -, hf⟩ := hunshown
          cases hf

/-- A server on which an upgrade to TLS breaks the connection. -/
def breaking : DirectoryServer :=
  { startTls := { failure := some ⟨"BrokenPipeError", .system, .numbered 32 "Broken pipe"⟩ } }

theorem proper_breaking : breaking.Proper where
  raises := by
    rintro r ⟨reply, hmem, hfailure⟩
    have hall : breaking.replies.all (fun reply => reply.failure.all fun r =>
        r.family.isDirectory || r.family == .system) = true := by decide +kernel
    have hraised := List.all_eq_true.mp hall reply hmem
    rw [hfailure] at hraised
    simpa using hraised
  raisedCode := fun _ hraised => nomatch hraised
  answerCode := fun _ hanswer => nomatch hanswer

/-- A machine with such a server and a configuration file. -/
def configuredMachine (content : List UInt8) : Host :=
  { machine breaking with
    files := (FileTree.empty "/home/tester").plant (Place.ofPath "c.conf") (.file content) }

theorem ordinary_configuredMachine (content : List UInt8) {line : List Text}
    (hline : line.all (fun t => !FileTree.hasNul t) = true) :
    (configuredMachine content).Ordinary line where
  line t ht := by
    have hfree := List.all_eq_true.mp hline t ht
    exact FileTree.hasNul_eq_false_iff.mp (by simpa using hfree)
  homes := Homes.nulFree_own (FileTree.hasNul_eq_false_iff.mp (by decide +kernel))
  prompts := fun r hr => absurd hr List.not_mem_nil
  server := proper_breaking
  config := by
    unfold configuredMachine machine Host.fresh
    dsimp only
    exact Config.sound_fresh _

/-- A line that names the configuration file and asks for an upgrade. -/
def upgradingLine : List Text := ["-c", "c.conf", "--deregister", "--useStartTLS"]

/-- Has it come to a text that is not UTF-8? -/
def isNotUtf8 : Except Fault Value → Bool
  | .error (.notUtf8 _) => true
  | _ => false

end OtpRegistrar.Invocation
