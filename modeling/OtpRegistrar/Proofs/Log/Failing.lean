/-
Set-ups that fail.

A set-up fails where it opens the destination, and `LogRequest.Refuses` has a constructor for each
reason.  By then the logger has lost its handlers, and has the new level and its filter, and the new
banner is in force; nothing of this is undone.  So a failing set-up of a logger that works leaves it
without its destination, whatever the reason was.

What is written to such a logger from then on is lost, but for the bare text of warnings and of what
matters more, which the error output gets.  `runOn_logAll_of_no_handlers` says so of any run of
entries, and `setUpLogger_failing_loses_handler` puts both together.
-/
import OtpRegistrar.Proofs.Log.Writing

namespace OtpRegistrar

variable {h h₀ h₁ h' : Host} {f : Fault} {level : LogLevel} {t name : Text} {q r : LogRequest}
  {sink : LogSink} {others : List LogRequest}

/-! ### Why a destination cannot be opened -/

namespace LogRequest

/-- Why the destination that is asked for cannot be opened, with what is raised. -/
inductive Refuses (r : LogRequest) (h : Host) : Fault → Prop
  | addressType (hsyslog : r.syslog = true) (haddress : r.address.text? = none) :
      Refuses r h (.defect .wrongType)
  | port {address : Text} {flaw : Integer.Flaw} (hsyslog : r.syslog = true)
      (haddress : r.address = .text address)
      (hport : Syslog.Address.ofText address = .error flaw) : Refuses r h (.number flaw)
  | facilityType {address : Text} {place : Syslog.Address} (hsyslog : r.syslog = true)
      (haddress : r.address = .text address) (hplace : Syslog.Address.ofText address = .ok place)
      (hfacility : r.facility.text? = none) : Refuses r h (.defect .missingAttribute)
  | facility {address facility : Text} {place : Syslog.Address} (hsyslog : r.syslog = true)
      (haddress : r.address = .text address) (hplace : Syslog.Address.ofText address = .ok place)
      (hfacility : r.facility = .text facility) (hunknown : Syslog.facility? facility = none) :
      Refuses r h (.unknownFacility facility)
  | unreached {address facility : Text} {place : Syslog.Address} {number : Nat}
      {flaw : Syslog.Flaw} (hsyslog : r.syslog = true) (haddress : r.address = .text address)
      (hplace : Syslog.Address.ofText address = .ok place) (hfacility : r.facility = .text facility)
      (hnumber : Syslog.facility? facility = some number)
      (hflaw : place.flaw? h.resolver = some flaw) : Refuses r h (.syslog flaw)
  | pathType (hsyslog : r.syslog = false) (hasked : r.logfile.truthy = true)
      (hlogfile : r.logfile.text? = none) : Refuses r h (.defect .wrongType)
  | nul {path : Text} (hsyslog : r.syslog = false) (hasked : r.logfile.truthy = true)
      (hlogfile : r.logfile = .text path)
      (hnul : (Place.ofPath path).steps.any FileTree.hasNul = true) : Refuses r h .nulInPath
  | file {path : Text} {e : OsError} (hsyslog : r.syslog = false) (hasked : r.logfile.truthy = true)
      (hlogfile : r.logfile = .text path)
      (hnul : (Place.ofPath path).steps.any FileTree.hasNul = false)
      (hopened : h.files.openAppend path = .error e) : Refuses r h (.system e)

/-- The system log is asked for at a port that is too large to be looked up. -/
def PortTooLarge (r : LogRequest) (resolver : Syslog.Resolver) : Prop :=
  r.syslog = true ∧ ∃ address place, r.address = .text address ∧
    Syslog.Address.ofText address = .ok place ∧ place.flaw? resolver = some .portTooLarge

/-- Opening looks at no logger, also where it fails. -/
theorem Refuses.setLogs (hrefuses : r.Refuses h f) (logs : LogRegistry) :
    r.Refuses { h with logs } f := by
  cases hrefuses with
  | addressType hsyslog haddress => exact .addressType hsyslog haddress
  | port hsyslog haddress hport => exact .port hsyslog haddress hport
  | facilityType hsyslog haddress hplace hfacility =>
      exact .facilityType hsyslog haddress hplace hfacility
  | facility hsyslog haddress hplace hfacility hunknown =>
      exact .facility hsyslog haddress hplace hfacility hunknown
  | unreached hsyslog haddress hplace hfacility hnumber hflaw =>
      exact .unreached hsyslog haddress hplace hfacility hnumber hflaw
  | pathType hsyslog hasked hlogfile => exact .pathType hsyslog hasked hlogfile
  | nul hsyslog hasked hlogfile hnul => exact .nul hsyslog hasked hlogfile hnul
  | file hsyslog hasked hlogfile hnul hopened => exact .file hsyslog hasked hlogfile hnul hopened

theorem opens_or_refuses (r : LogRequest) (h : Host) :
    (∃ sink h', r.Opens h sink h') ∨ ∃ f, r.Refuses h f := by
  cases hsyslog : r.syslog with
  | true =>
      cases haddress : r.address with
      | text address =>
          cases hplace : Syslog.Address.ofText address with
          | error flaw => exact .inr ⟨_, .port hsyslog haddress hplace⟩
          | ok place =>
              cases hfacility : r.facility with
              | text facility =>
                  cases hnumber : Syslog.facility? facility with
                  | none => exact .inr ⟨_, .facility hsyslog haddress hplace hfacility hnumber⟩
                  | some number =>
                      cases hreached : place.flaw? h.resolver with
                      | none =>
                          exact .inl ⟨_, _,
                            .syslog hsyslog haddress hplace hfacility hnumber hreached⟩
                      | some flaw =>
                          exact .inr ⟨_,
                            .unreached hsyslog haddress hplace hfacility hnumber hreached⟩
              | _ => exact .inr ⟨_, .facilityType hsyslog haddress hplace (by rw [hfacility]; rfl)⟩
      | _ => exact .inr ⟨_, .addressType hsyslog (by rw [haddress]; rfl)⟩
  | false =>
      cases hasked : r.logfile.truthy with
      | false =>
          cases hstderr : r.stderr with
          | true => exact .inl ⟨_, _, .stderr hsyslog hasked hstderr⟩
          | false => exact .inl ⟨_, _, .discard hsyslog hasked hstderr⟩
      | true =>
          cases hlogfile : r.logfile with
          | text path =>
              cases hnul : (Place.ofPath path).steps.any FileTree.hasNul with
              | true => exact .inr ⟨_, .nul hsyslog hasked hlogfile hnul⟩
              | false =>
                  have hpath : path ≠ [] := by
                    rintro rfl
                    rw [hlogfile] at hasked
                    cases hasked
                  cases hopened : h.files.openAppend path with
                  | error e => exact .inr ⟨_, .file hsyslog hasked hlogfile hnul hopened⟩
                  | ok opened => exact .inl ⟨_, _, .file hsyslog hlogfile hpath hnul hopened⟩
          | _ => exact .inr ⟨_, .pathType hsyslog hasked (by rw [hlogfile]; rfl)⟩

end LogRequest

namespace Action

theorem syslogAddress_of_wrongType {address : Value} (haddress : address.text? = none) :
    syslogAddress address = fail (.defect .wrongType) := by
  cases address with
  | text t => cases haddress
  | _ => rfl

theorem syslogFacility_of_wrongType {facility : Value} (hfacility : facility.text? = none) :
    syslogFacility facility = fail (.defect .missingAttribute) := by
  cases facility with
  | text t => cases hfacility
  | _ => rfl

/-- A destination that cannot be opened leaves no trace. -/
theorem openDestination_of_refuses (hrefuses : r.Refuses h f) :
    (openDestination r).runOn h = (.error f, h) := by
  unfold openDestination
  cases hrefuses with
  | addressType hsyslog haddress =>
      simp only [hsyslog, if_true, openSyslog, syslogAddress_of_wrongType haddress]
      rfl
  | port hsyslog haddress hport =>
      simp only [hsyslog, if_true, openSyslog, haddress, syslogAddress, hport]
      rfl
  | facilityType hsyslog haddress hplace hfacility =>
      simp only [hsyslog, if_true, openSyslog, haddress, syslogAddress, hplace,
        syslogFacility_of_wrongType hfacility]
      rfl
  | facility hsyslog haddress hplace hfacility hunknown =>
      simp only [hsyslog, if_true, openSyslog, haddress, syslogAddress, hplace, hfacility,
        syslogFacility, hunknown]
      rfl
  | @unreached address facility place number flaw hsyslog haddress hplace hfacility hnumber hflaw =>
      have hopen := runOn_openSyslog hplace hnumber h
      rw [hflaw] at hopen
      simp only [hsyslog, if_true, haddress, hfacility]
      exact runOn_bind_error hopen
  | pathType hsyslog hasked hlogfile =>
      simp only [hsyslog, hasked, Bool.false_eq_true, Bool.not_true, if_false]
      cases hvalue : r.logfile with
      | text path =>
          rw [hvalue] at hlogfile
          cases hlogfile
      | _ => rfl
  | @nul path hsyslog hasked hlogfile hnul =>
      rw [hlogfile] at hasked
      have hopen : (openLogFile path).runOn h = (.error .nulInPath, h) := by
        unfold openLogFile
        rw [runOn_ofFunction, if_pos hnul]
      simp only [hsyslog, hlogfile, hasked, Bool.false_eq_true, Bool.not_true, if_false]
      exact runOn_bind_error hopen
  | @file path e hsyslog hasked hlogfile hnul hopened =>
      rw [hlogfile] at hasked
      have hopen : (openLogFile path).runOn h = (.error (.system e), h) := by
        unfold openLogFile
        rw [runOn_ofFunction, if_neg (by simp [hnul]), hopened]
      simp only [hsyslog, hlogfile, hasked, Bool.false_eq_true, Bool.not_true, if_false]
      exact runOn_bind_error hopen

theorem openDestination_error_iff :
    (openDestination r).runOn h = (.error f, h') ↔ r.Refuses h f ∧ h' = h := by
  constructor
  · intro hrun
    rcases r.opens_or_refuses h with hopens | hrefuses
    · obtain ⟨sink, opened, hopens⟩ := hopens
      rw [openDestination_of_opens hopens] at hrun
      cases hrun
    · obtain ⟨f', hrefuses⟩ := hrefuses
      rw [openDestination_of_refuses hrefuses] at hrun
      cases hrun
      exact ⟨hrefuses, rfl⟩
  · rintro ⟨hrefuses, rfl⟩
    exact openDestination_of_refuses hrefuses

/-! ### What a failing set-up leaves -/

/-- **A set-up fails if and only if its destination cannot be opened, and then the logger is left
without handlers.** -/
theorem setUpLogger_error_iff :
    (setUpLogger r).runOn h = (.error f, h') ↔
      r.Refuses h f ∧ h' = { h with logs := cleared r h } := by
  rw [runOn_setUpLogger]
  constructor
  · intro hrun
    rcases hopen : (openDestination r).runOn { h with logs := cleared r h } with ⟨outcome, opened⟩
    cases outcome with
    | error f' =>
        rw [runOn_bind_error hopen] at hrun
        cases hrun
        obtain ⟨hrefuses, hleft⟩ := openDestination_error_iff.mp hopen
        exact ⟨hrefuses.setLogs h.logs, hleft⟩
    | ok handler =>
        -- what comes behind opening the destination does not fail
        rw [runOn_bind_ok hopen, runOn_bind_ok (runOn_changeLogs _ _),
          runOn_bind_ok (Prod.ext (announce_ok r _) rfl)] at hrun
        cases hrun
  · rintro ⟨hrefuses, rfl⟩
    exact runOn_bind_error (openDestination_of_refuses (hrefuses.setLogs (cleared r h)))

end Action

/-! ### Entries without a destination -/

/-- What becomes of an entry to a logger that has no handlers. -/
def Logger.bareEvents (l : Logger) (entry : LogLevel × Text) : List Event :=
  if l.takes entry.1 = true then
    .logged entry.1 entry.2 ::
      if LogLevel.warning.rank ≤ entry.1.rank then [.reported (entry.2 ++ Text.newline)] else []
  else []

namespace Action

theorem runOn_logTo_of_no_handlers (hhandlers : (h.logs.get name).handlers = []) (level : LogLevel)
    (t : Text) :
    (logTo name level t).runOn h =
      (.ok (), { h with events := h.events ++ (h.logs.get name).bareEvents (level, t) }) := by
  rw [runOn_logTo]
  unfold Logger.bareEvents
  by_cases htakes : (h.logs.get name).takes level = true
  · rw [Host.writes_of_no_handlers hhandlers htakes, if_pos htakes, if_pos htakes]
    by_cases hwarns : LogLevel.warning.rank ≤ level.rank
    · rw [if_pos hwarns, if_pos hwarns]
      simp [Host.write, Host.note]
    · rw [if_neg hwarns, if_neg hwarns]
      rfl
  · rw [Host.writes_of_not_takes htakes, if_neg htakes, if_neg htakes, List.append_nil]
    rfl

/-- **Whatever is written to a logger without handlers, no file and no system log gets any of it,
and the error output gets no more than the bare text of what matters enough.** -/
theorem runOn_logAll_of_no_handlers (hhandlers : (h.logs.get name).handlers = [])
    (entries : List (LogLevel × Text)) :
    (logAll name entries).runOn h =
      (.ok (), { h with
        events := h.events ++ entries.flatMap (h.logs.get name).bareEvents }) := by
  induction entries generalizing h with
  | nil => simp [logAll]; rfl
  | cons entry entries ih =>
      obtain ⟨level, t⟩ := entry
      let h₁ : Host :=
        { h with events := h.events ++ (h.logs.get name).bareEvents (level, t) }
      have hrest := ih (h := h₁) hhandlers
      rw [logAll_cons, runOn_bind_ok (runOn_logTo_of_no_handlers hhandlers level t), hrest,
        List.flatMap_cons, ← List.append_assoc]

end Action

/-! ### A logger that worked -/

/-- An entry is longer than what it says. -/
theorem LogHandler.entry_ne (handler : LogHandler) (h : Host) (level : LogLevel) (t : Text) :
    handler.entry h level t ≠ t := by
  intro hsame
  have hlength := congrArg List.length hsame
  have hcolon : (": " : Text).length = 2 := rfl
  unfold entry LogLayout.render at hlength
  simp only [List.length_append, hcolon] at hlength
  omega

namespace Host

/-- What a logger with a handler writes is no text that it writes without. -/
theorem not_mem_writes_of_no_handlers (hlogger : h.logs.get name = q.logger sink)
    (hhandlers : (h'.logs.get name).handlers = []) {level : LogLevel} {t : Text}
    {written : LogSink × Text} (hwritten : written ∈ h.writes name level t) :
    written ∉ h'.writes name level t := by
  have htakes := takes_of_writes (List.ne_nil_of_mem hwritten)
  rw [writes_of_logger hlogger htakes, Option.mem_toList] at hwritten
  rw [LogHandler.eq_of_writes hwritten]
  intro hbare
  by_cases htakes' : (h'.logs.get name).takes level = true
  · rw [writes_of_no_handlers hhandlers htakes'] at hbare
    split at hbare
    · exact LogHandler.entry_ne _ _ _ _ (congrArg Prod.snd (List.mem_singleton.mp hbare))
    · cases hbare
  · rw [writes_of_not_takes htakes'] at hbare
    cases hbare

end Host

namespace Action

/-- **A set-up that fails leaves nothing of the destination that its logger had.**  It fails because
the new one cannot be opened; then the logger has the new level and no handler, the new banner is in
force, and nothing else has changed.  No text is written any more that would have been written
before, and whatever is logged from then on, only the error output gets anything, and no more than
the bare text of warnings and of what matters more. -/
theorem setUpLogger_failing_loses_handler (hrun : (setUpLogger q).runOn h₀ = (.ok name, h₁))
    (hothers : ∀ o ∈ others, LogRegistry.key name ≠ LogRegistry.key o.loggerName)
    (hsame : LogRegistry.key r.loggerName = LogRegistry.key name)
    (hfailed : (setUpLogger r).runOn (h₁.afterSetUps others) = (.error f, h')) :
    let before := h₁.afterSetUps others
    r.Refuses before f ∧
    (∃ sink, before.logs.get name = q.logger sink) ∧
    h' = { before with
      logs := r.register before.processId ⟨some r.leastLevel, false, 1, []⟩ before.logs } ∧
    h'.logs.get name = ⟨some r.leastLevel, false, 1, []⟩ ∧
    (∀ level t, ∀ written ∈ before.writes name level t, written ∉ h'.writes name level t) ∧
    ∀ entries, (logAll name entries).runOn h' =
      (.ok (), { h' with
        events := h'.events ++ entries.flatMap (h'.logs.get name).bareEvents }) := by
  dsimp only
  obtain ⟨sink, hlogger₁⟩ := get_setUpLogger hrun
  have hlogger := (Host.get_afterSetUps_of_ne hothers h₁).trans hlogger₁
  obtain ⟨hrefuses, hleft⟩ := setUpLogger_error_iff.mp hfailed
  have hcleared : cleared r (h₁.afterSetUps others)
      = r.register (h₁.afterSetUps others).processId ⟨some r.leastLevel, false, 1, []⟩
          (h₁.afterSetUps others).logs := by
    unfold cleared
    rw [LogRegistry.get_congr _ hsame, hlogger]
    rfl
  rw [hcleared] at hleft
  have hemptied : h'.logs.get name = ⟨some r.leastLevel, false, 1, []⟩ := by
    rw [hleft, ← LogRegistry.get_congr _ hsame]
    exact LogRegistry.get_put_self _ _ _
  have hhandlers : (h'.logs.get name).handlers = [] := by rw [hemptied]
  exact ⟨hrefuses, ⟨sink, hlogger⟩, hleft, hemptied,
    fun level t written hwritten =>
      Host.not_mem_writes_of_no_handlers hlogger hhandlers hwritten,
    runOn_logAll_of_no_handlers hhandlers⟩

/-- A system log facility that there is none of. -/
def strayRequest : LogRequest :=
  { name := "tool", level := .text "DEBUG", syslog := true, facility := .text "LOCAL9" }

/-- Behind the set-up of another logger, one for a facility that is not known. -/
theorem setUpLogger_failing_loses_stderr :
    ∃ h₁ h₂, (setUpLogger bannerRequest).runOn quietHost = (.ok "tool", h₁) ∧
      (setUpLogger strayRequest).runOn (h₁.afterSetUps [plainRequest])
        = (.error (.unknownFacility "LOCAL9"), h₂) ∧
      (h₁.logs.get "tool").handlers = [⟨.stderr, ⟨false, false, true⟩⟩] ∧
      h₂.logs.get "tool" = ⟨some .debug, false, 1, []⟩ ∧ h₂.logs.banner = none ∧
      (logAll "tool" [(.info, "hello"), (.error, "lost")]).runOn h₂ = (.ok (), { h₂ with
        events := h₂.events ++ [.logged .info "hello", .logged .error "lost",
          .reported ("lost" ++ Text.newline)] }) := by
  have hrun : (setUpLogger bannerRequest).runOn quietHost = (.ok "tool", _) := Prod.ext rfl rfl
  have hothers : ∀ o ∈ [plainRequest],
      LogRegistry.key "tool" ≠ LogRegistry.key o.loggerName := by decide
  have hsame : LogRegistry.key strayRequest.loggerName = LogRegistry.key "tool" := by decide
  have hfailed : (setUpLogger strayRequest).runOn
      ((((setUpLogger bannerRequest).runOn quietHost).2).afterSetUps [plainRequest])
        = (.error (.unknownFacility "LOCAL9"), _) := Prod.ext rfl rfl
  obtain ⟨-, -, hleft, hemptied, -, hall⟩ :=
    setUpLogger_failing_loses_handler hrun hothers hsame hfailed
  refine ⟨_, _, hrun, hfailed, by decide, hemptied, by rw [hleft]; rfl, ?_⟩
  refine (hall _).trans ?_
  rw [hemptied]
  rfl

theorem handlers_lost_with_failing_set_up :
    ¬∀ (q r : LogRequest) (h h₁ h₂ : Host) (name : Text) (f : Fault),
      (setUpLogger q).runOn h = (.ok name, h₁) →
      LogRegistry.key r.loggerName = LogRegistry.key name →
      (setUpLogger r).runOn h₁ = (.error f, h₂) →
        (h₂.logs.get name).handlers = (h₁.logs.get name).handlers ∧
        (h₂.logs.get name).level = (h₁.logs.get name).level ∧
        ∀ level t, h₂.writes name level t = h₁.writes name level t := by
  intro hall
  obtain ⟨hhandlers, -, -⟩ := hall bannerRequest strayRequest quietHost _ _ "tool"
    (.unknownFacility "LOCAL9") (Prod.ext rfl rfl) (by decide) (Prod.ext rfl rfl)
  exact absurd hhandlers (by decide)

end Action

end OtpRegistrar
