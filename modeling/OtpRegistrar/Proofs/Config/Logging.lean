/-
Getting hold of the logger is no outward matter.

Every part of a run begins by asking for the logger of the configuration, and the
first one that does sets it up: loggers, files, the system log and one variable of
the configuration change.  None of that is outward, which is what lets the later
proofs pass over every request for the logger.  A logger that is there is given
back as it is; only while there is none does the variable change, which is why the
set-up is followed with a relation of its own, `SettingUp`, that leaves the variable
aside.

Setting up a logger may fail, and the failure is never one of the directory client
or the operating system.  That matters where a connection is closed: closing asks
for the logger to report a refusal, and a failure to get it must not be taken for
another refusal, which would close the connection twice.
-/
import OtpRegistrar.Config.Logging
import OtpRegistrar.Proofs.Config.Store
import OtpRegistrar.Proofs.Host.Outward
import OtpRegistrar.Proofs.Log.Failing

namespace OtpRegistrar

/-- One host follows another without outward events, the variable of the logger left aside. -/
structure Host.SettingUp (h h' : Host) : Prop extends Resembles h h' where
  outward : h'.outward = h.outward

instance : IsPreorder Host Host.SettingUp where
  refl h := ⟨.refl h, rfl⟩
  trans _ _ _ hab hbc := ⟨hab.toResembles.trans hbc.toResembles, hbc.outward.trans hab.outward⟩

theorem Host.Emits.settingUp {h h' : Host} (hq : h.Emits [] h') : h.SettingUp h' :=
  ⟨hq.toResembles, by rw [hq.outward, List.append_nil]⟩

namespace Action

/-! ### Setting up is quiet -/

theorem settingUp_configureLogger (value : Value) :
    Keeps Host.SettingUp (configure Host.loggerVariable value) := by
  intro h
  unfold configure
  rw [runOn_ofFunction]
  split
  · rename_i config hset
    exact ⟨⟨rfl, rfl, rfl, fun name hname => Config.get_set hset hname⟩, rfl⟩
  · exact ⟨.refl h, rfl⟩

/-- Asking for the logger is nothing outward, and changes one variable at most. -/
theorem settingUp_logger : Keeps Host.SettingUp logger := by
  refine Keeps.of_respects fun h₀ => respects_logger ?_ fun value => ?_
  · refine .itself (fun h e he => ?_) (fun h logs => ?_) (fun h files => ?_) h₀
    · have hinward : e.isOutward = false := by cases e <;> first | rfl | cases he
      have := h.emits_note e
      rw [hinward] at this
      exact this.settingUp
    · exact ⟨⟨rfl, rfl, rfl, fun _ _ => rfl⟩, rfl⟩
    · exact ⟨⟨rfl, rfl, rfl, fun _ _ => rfl⟩, rfl⟩
  · rintro _ h ⟨rfl, hr⟩
    exact ⟨.refl _, rfl, IsTrans.trans _ _ _ hr (settingUp_configureLogger value h)⟩

/-- A logger that is there is given back, and nothing happens. -/
theorem runOn_logger_of_there {h : Host}
    (hthere : (h.config.get Host.loggerVariable).truthy = true) :
    logger.runOn h = (.ok (h.config.get Host.loggerVariable), h) := by
  unfold logger
  rw [runOn_bind_ok (show (configured "_logger").runOn h
    = (.ok (h.config.get Host.loggerVariable), h) from rfl), if_pos hthere]
  rfl

/-- A logger that is not there is set up. -/
theorem runOn_logger_of_missing {h : Host}
    (hmissing : ¬(h.config.get Host.loggerVariable).truthy = true) :
    logger.runOn h = (setUpConfiguredLogger {}).runOn h := by
  unfold logger
  rw [runOn_bind_ok (show (configured "_logger").runOn h
    = (.ok (h.config.get Host.loggerVariable), h) from rfl), if_neg hmissing]

/-- **The logger can be had without any outward event.** -/
theorem quiet_logger : Quiet logger := by
  intro h
  by_cases hthere : (h.config.get Host.loggerVariable).truthy = true
  · rw [runOn_logger_of_there hthere]
    exact Host.Emits.refl h
  · have hup := settingUp_logger h
    exact ⟨hup.toResembles, by rw [List.append_nil]; exact hup.outward,
      fun h => absurd h hthere⟩

/-- What is set up is a logger, and it is kept. -/
theorem runOn_setUpConfiguredLogger_ok {o : LoggerOptions} {h h' : Host} {v : Value}
    (hrun : (setUpConfiguredLogger o).runOn h = (.ok v, h')) :
    h'.config.get Host.loggerVariable = v ∧ ∃ name, v = .logger name := by
  unfold setUpConfiguredLogger at hrun
  obtain ⟨request, h₁, -, hrun⟩ := runOn_bind_inv hrun
  obtain ⟨name, h₂, -, hrun⟩ := runOn_bind_inv hrun
  obtain ⟨_, h₃, hconfigure, hrun⟩ := runOn_bind_inv hrun
  have hset : h₃.config.get Host.loggerVariable = .logger name := by
    unfold configure at hconfigure
    rw [runOn_ofFunction] at hconfigure
    split at hconfigure
    · rename_i config hconfig
      cases hconfigure
      exact Config.get_set_self hconfig
    · cases hconfigure
  have hquiet : Quiet _ := Keeps.of_respects fun h₀ =>
    respects_finishSetUp (logsTogether_quiet h₀) name
  have hkept := (hquiet h₃).logger (by rw [hset]; rfl)
  rw [hrun, hset] at hkept
  obtain ⟨level, h₄, -, hrun⟩ := runOn_bind_inv hrun
  obtain ⟨logs, h₅, -, hrun⟩ := runOn_bind_inv hrun
  obtain ⟨_, h₆, -, hrun⟩ := runOn_bind_inv hrun
  cases hrun
  exact ⟨hkept, name, rfl⟩

/-- **Whatever logger is given is kept from then on**, so it is there for all that follows. -/
theorem runOn_logger_ok {h h' : Host} {v : Value} (hrun : logger.runOn h = (.ok v, h')) :
    h'.config.get Host.loggerVariable = v ∧ v.truthy = true := by
  by_cases hthere : (h.config.get Host.loggerVariable).truthy = true
  · rw [runOn_logger_of_there hthere] at hrun
    cases hrun
    exact ⟨rfl, hthere⟩
  · rw [runOn_logger_of_missing hthere] at hrun
    obtain ⟨hkept, name, rfl⟩ := runOn_setUpConfiguredLogger_ok hrun
    exact ⟨hkept, rfl⟩

/-! ### Setting up is never refused

A set-up fails because a value is of no use, or because the operating system refuses
a file; the latter is turned into a flaw of the configuration.  So what comes out is
never a refusal, nor a failure to connect, and neither is what writing an entry fails
with.
-/

/-- The fault is no refusal. -/
abbrev NoRefusal (f : Fault) : Prop := f.isRefusal = false

/-- The fault has nothing to do with the server: it is no refusal, and no failure to connect. -/
structure Inner (f : Fault) : Prop where
  noRefusal : NoRefusal f
  noConnection : f.isKind .connectionFailed = false

theorem failsOnly_debugLevel (slot : Text) : FailsOnly Inner (debugLevel slot) := by
  unfold debugLevel debugLevels
  refine FailsOnly.bind (FailsOnly.bind (FailsOnly.configured _) fun v => ?_)
    fun _ => FailsOnly.pure _
  split
  · exact FailsOnly.pure _
  · exact FailsOnly.fail ⟨rfl, rfl⟩

theorem failsOnly_loggerRequest (o : LoggerOptions) : FailsOnly Inner (loggerRequest o) := by
  unfold loggerRequest
  refine FailsOnly.bind ?_ fun timed => FailsOnly.bind (FailsOnly.read _) fun config =>
    FailsOnly.bind ?_ fun stderr => FailsOnly.bind ?_ fun name => FailsOnly.pure _
  · unfold timedBy
    split
    · exact FailsOnly.bind (failsOnly_debugLevel _) fun level =>
        FailsOnly.bind (FailsOnly.orFail fun _ _ => ⟨rfl, rfl⟩) fun _ => FailsOnly.pure _
    · exact FailsOnly.pure _
  · unfold toStderr
    exact FailsOnly.ite (FailsOnly.pure _)
      (FailsOnly.ite (FailsOnly.pure _) (FailsOnly.orFail fun _ _ => ⟨rfl, rfl⟩))
  · unfold loggerTitle
    split
    · exact FailsOnly.pure _
    · exact FailsOnly.fail ⟨rfl, rfl⟩

/-- What opening a destination fails with: the operating system, or nothing outside. -/
private abbrev SystemOrInner (f : Fault) : Prop := f.family = .system ∨ Inner f

theorem systemOrInner_of_refuses {r : LogRequest} {h : Host} {f : Fault}
    (hrefuses : r.Refuses h f) : SystemOrInner f := by
  cases hrefuses with
  | file => exact .inl rfl
  | @unreached address facility place number flaw =>
      cases flaw with
      | unknown errno reason => exact .inl rfl
      | badHost reason => exact .inr ⟨rfl, rfl⟩
      | portTooLarge => exact .inr ⟨rfl, rfl⟩
  | _ => exact .inr ⟨rfl, rfl⟩

theorem failsOnly_setUpLogger (r : LogRequest) : FailsOnly SystemOrInner (setUpLogger r) :=
  fun _ _ hf => systemOrInner_of_refuses (setUpLogger_error_iff.mp (Prod.ext hf rfl)).1

theorem failsOnly_setUpLoggerAsConfigured (r : LogRequest) :
    FailsOnly Inner (setUpLoggerAsConfigured r) := by
  intro h f hf
  unfold setUpLoggerAsConfigured at hf
  rw [runOn_attempt_bind] at hf
  have hkind := failsOnly_setUpLogger r h
  cases hr : ((setUpLogger r).runOn h).1 with
  | ok name =>
      rw [hr] at hf
      cases hf
  | error f' =>
      rw [hr] at hf
      dsimp only at hf
      split at hf
      · cases hf
        exact ⟨rfl, rfl⟩
      · rename_i hother
        cases hf
        rcases hkind f hr with hsystem | hinner
        · rw [hsystem] at hother
          exact absurd rfl hother
        · exact hinner

/-- **The logger is never refused.** -/
theorem failsOnly_logger : FailsOnly Inner logger := by
  unfold logger setUpConfiguredLogger
  refine FailsOnly.bind (FailsOnly.configured _) fun v => FailsOnly.ite (FailsOnly.pure _) ?_
  refine FailsOnly.bind (failsOnly_loggerRequest _) fun request => ?_
  refine FailsOnly.bind (failsOnly_setUpLoggerAsConfigured request) fun name => ?_
  refine FailsOnly.bind ?_ fun _ => FailsOnly.bind (failsOnly_debugLevel _) fun level =>
    FailsOnly.bind (FailsOnly.read _) fun logs => FailsOnly.bind ?_ fun _ => FailsOnly.pure _
  · intro h f hf
    unfold configure at hf
    rw [runOn_ofFunction] at hf
    split at hf
    · cases hf
    · rename_i flaw _
      cases hf
      constructor
      · unfold NoRefusal Fault.isRefusal Fault.isSystem Fault.family
        cases flaw.isTaken <;> rfl
      · simp only [Fault.isKind, Fault.family]
        cases flaw.isTaken <;> rfl
  · unfold setUpLibraryLog
    exact FailsOnly.ite (FailsOnly.change _) (FailsOnly.fail ⟨rfl, rfl⟩)

/-- Only a logger takes an entry. -/
theorem runOn_log_ok {entries : Value} {level : LogLevel} {t : Text} {h h' : Host}
    (hrun : (log entries level t).runOn h = (.ok (), h')) : ∃ name, entries = .logger name := by
  unfold log at hrun
  split at hrun
  · exact ⟨_, rfl⟩
  · cases hrun

theorem failsOnly_log (logger : Value) (level : LogLevel) (t : Text) :
    FailsOnly Inner (log logger level t) := by
  unfold log
  split
  · exact FailsOnly.change _
  · exact FailsOnly.fail ⟨rfl, rfl⟩

end Action

end OtpRegistrar
