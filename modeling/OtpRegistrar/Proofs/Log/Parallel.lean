/-
Logging, side by side.

Setting up a logger and writing to it look at a small part of the host: the
configuration, the loggers, the time, the screen, the number of the process, and where
the system log can be reached.  They change the loggers and the files, note entries,
and keep the logger in one variable of the configuration.  A relation of hosts
`LogsTogether` if it fixes the former and survives the latter, and then every action
that has to do with logging respects it.

All that is ever said about logging is one of these relations: that it is nothing
outward, that it prints nothing, that it tells no secret.  So the actions are gone
through here, once.
-/
import OtpRegistrar.Config.Logging
import OtpRegistrar.Proofs.Host.Parallel

namespace OtpRegistrar

/-- Is something shown as an error or written to a log? -/
def Event.isEntry : Event → Bool
  | .reported _ | .logged _ _ | .syslogOpened _ _ | .syslogSent _ => true
  | _ => false

namespace Host

/-- Hosts in the relation are the same in all that logging looks at, and stay in it whatever logging
does. -/
structure LogsTogether (S : Host → Host → Prop) : Prop where
  config : ∀ {h h'}, S h h' → h'.config = h.config
  logs : ∀ {h h'}, S h h' → h'.logs = h.logs
  processId : ∀ {h h'}, S h h' → h'.processId = h.processId
  time : ∀ {h h'}, S h h' → h'.time = h.time
  screen : ∀ {h h'}, S h h' → h'.screen = h.screen
  resolver : ∀ {h h'}, S h h' → h'.resolver = h.resolver
  entry : ∀ {h h' e}, S h h' → e.isEntry = true → S (h.note e) (h'.note e)
  setLogs : ∀ {h h'}, S h h' → ∀ logs, S { h with logs } { h' with logs }
  opened : ∀ path, Action.Respects S (Action.openLogFile path)
  appended : ∀ {h h'}, S h h' → ∀ place bytes,
    S { h with files := h.files.append place bytes }
      { h' with files := h'.files.append place bytes }

/-- An invariant of a single run survives logging if it is about nothing that logging changes. -/
theorem LogsTogether.itself {R : Host → Host → Prop} [IsTrans Host R]
    (hentry : ∀ h e, e.isEntry = true → R h (h.note e))
    (hlogs : ∀ h logs, R h { h with logs }) (hfiles : ∀ h files, R h { h with files })
    (h₀ : Host) : LogsTogether (Action.Itself R h₀) where
  config hs := by rw [hs.1]
  logs hs := by rw [hs.1]
  processId hs := by rw [hs.1]
  time hs := by rw [hs.1]
  screen hs := by rw [hs.1]
  resolver hs := by rw [hs.1]
  entry := by
    rintro h _ e ⟨rfl, hr⟩ he
    exact ⟨rfl, IsTrans.trans _ _ _ hr (hentry _ e he)⟩
  setLogs := by
    rintro h _ ⟨rfl, hr⟩ logs
    exact ⟨rfl, IsTrans.trans _ _ _ hr (hlogs _ logs)⟩
  opened := by
    rintro path h _ ⟨rfl, hr⟩
    refine ⟨.refl _, rfl, ?_⟩
    unfold Action.openLogFile
    rw [Action.runOn_ofFunction]
    split
    · exact hr
    · split
      · exact hr
      · exact IsTrans.trans _ _ _ hr (hfiles _ _)
  appended := by
    rintro h _ ⟨rfl, hr⟩ place bytes
    exact ⟨rfl, IsTrans.trans _ _ _ hr (hfiles _ _)⟩

end Host

namespace Action

variable {S : Host → Host → Prop}

/-! ### Entries -/

theorem LogsTogether.deliver (hS : Host.LogsTogether S) (level : LogLevel) (t : Text) {h h' : Host}
    (hs : S h h') (handler : LogHandler) :
    S (Action.deliver level t h handler) (Action.deliver level t h' handler) := by
  unfold Action.deliver
  rw [hS.time hs, hS.screen hs, hS.logs hs]
  dsimp only
  split
  · exact hS.entry hs rfl
  · split
    · exact hS.entry hs rfl
    · exact hs
  · split
    · have happended := hS.appended hs
      simp only [hS.time hs, hS.screen hs, hS.logs hs] at happended
      exact happended _ _
    · exact hs
  · exact hs

theorem LogsTogether.deliverAll (hS : Host.LogsTogether S) (level : LogLevel) (t : Text) :
    ∀ (handlers : List LogHandler) (h h' : Host), S h h' →
      S (handlers.foldl (Action.deliver level t) h)
        (handlers.foldl (Action.deliver level t) h') := by
  intro handlers
  induction handlers with
  | nil => exact fun _ _ hs => hs
  | cons handler rest ih => exact fun h h' hs => ih _ _ (deliver hS level t hs handler)

theorem LogsTogether.deliverTo (hS : Host.LogsTogether S) (handlers : List LogHandler)
    (level : LogLevel) (t : Text) {h h' : Host} (hs : S h h') :
    S (Action.deliverTo handlers level t h) (Action.deliverTo handlers level t h') := by
  unfold Action.deliverTo lastResort
  split
  · split
    · exact hS.entry hs rfl
    · exact hs
  · exact deliverAll hS level t handlers h h' hs

theorem respects_logTo (hS : Host.LogsTogether S) (name : Text) (level : LogLevel) (t : Text) :
    Respects S (logTo name level t) := by
  refine Agree.change fun h h' hs => ?_
  dsimp only
  rw [hS.logs hs]
  split
  · exact LogsTogether.deliverTo hS _ level t (hS.entry hs rfl)
  · exact hs

theorem respects_log (hS : Host.LogsTogether S) (logger : Value) (level : LogLevel) (t : Text) :
    Respects S (log logger level t) := by
  unfold log
  split
  · exact respects_logTo hS _ _ _
  · exact Agree.fail _

/-! ### Setting up -/

theorem respects_configured (hS : Host.LogsTogether S) (name : Text) :
    Respects S (configured name) :=
  Agree.read fun h h' hs => by rw [hS.config hs]

theorem respects_changeLogs (hS : Host.LogsTogether S) (f : LogRegistry → LogRegistry) :
    Respects S (changeLogs f) := by
  refine Agree.change fun h h' hs => ?_
  rw [hS.logs hs]
  exact hS.setLogs hs _

theorem respects_debugLevel (hS : Host.LogsTogether S) (slot : Text) :
    Respects S (debugLevel slot) := by
  unfold debugLevel debugLevels
  refine Agree.bind_eq (Agree.bind_eq (respects_configured hS _) fun v => ?_)
    fun _ => Agree.pure rfl
  split
  · exact Agree.pure rfl
  · exact Agree.fail _

theorem respects_timedBy (hS : Host.LogsTogether S) (timed : Value) :
    Respects S (timedBy timed) := by
  unfold timedBy
  split
  · refine Agree.bind_eq (respects_debugLevel hS _) fun level => ?_
    exact Agree.bind_eq (Agree.orFail _ _) fun raised => Agree.pure rfl
  · exact Agree.pure rfl

theorem respects_toStderr (config : Config) : Respects S (toStderr config) := by
  unfold toStderr
  exact Agree.ite (Agree.pure rfl) (Agree.ite (Agree.pure rfl) (Agree.orFail _ _))

theorem respects_loggerTitle (config : Config) : Respects S (loggerTitle config) := by
  unfold loggerTitle
  split
  · exact Agree.pure rfl
  · exact Agree.fail _

theorem respects_loggerRequest (hS : Host.LogsTogether S) (o : LoggerOptions) :
    Respects S (loggerRequest o) := by
  unfold loggerRequest
  refine Agree.bind_eq (respects_timedBy hS _) fun timed => ?_
  refine Agree.bind_eq (Agree.read fun h h' hs => (hS.config hs).symm) fun config => ?_
  refine Agree.bind_eq (respects_toStderr _) fun stderr => ?_
  exact Agree.bind_eq (respects_loggerTitle _) fun name => Agree.pure rfl

theorem respects_openSyslog (hS : Host.LogsTogether S) (address facility : Value) :
    Respects S (openSyslog address facility) := by
  unfold openSyslog syslogAddress syslogFacility
  refine Agree.bind_eq ?_ fun address => Agree.bind_eq ?_ fun number =>
    Agree.bind_eq (Agree.read fun h h' hs => (hS.resolver hs).symm) fun resolver => ?_
  · split
    · exact Agree.orFail _ _
    · exact Agree.fail _
  · split
    · split
      · exact Agree.pure rfl
      · exact Agree.fail _
    · exact Agree.fail _
  · split
    · exact Agree.fail _
    · exact Agree.change fun h h' hs => hS.entry hs rfl

theorem respects_openDestination (hS : Host.LogsTogether S) (r : LogRequest) :
    Respects S (openDestination r) := by
  unfold openDestination
  refine Agree.ite ?_ (Agree.ite (Agree.pure rfl) ?_)
  · exact Agree.bind_eq (respects_openSyslog hS _ _) fun _ => Agree.pure rfl
  · split
    · exact Agree.bind_eq (hS.opened _) fun _ => Agree.pure rfl
    · exact Agree.fail _

theorem respects_setUpLogger (hS : Host.LogsTogether S) (r : LogRequest) :
    Respects S (setUpLogger r) := by
  unfold setUpLogger
  refine Agree.bind_eq (Agree.read fun h h' hs => (hS.processId hs).symm) fun processId => ?_
  refine Agree.bind_eq (respects_changeLogs hS _) fun _ => ?_
  refine Agree.bind_eq (respects_openDestination hS r) fun handler => ?_
  refine Agree.bind_eq (respects_changeLogs hS _) fun _ => ?_
  dsimp only
  split
  · exact Agree.pure rfl
  · exact Agree.ite (Agree.bind_eq (respects_logTo hS _ _ _) fun _ => Agree.pure rfl)
      (Agree.pure rfl)

theorem respects_setUpLoggerAsConfigured (hS : Host.LogsTogether S) (r : LogRequest) :
    Respects S (setUpLoggerAsConfigured r) := by
  unfold setUpLoggerAsConfigured
  refine (respects_setUpLogger hS r).attempt_bind (fun x y hxy => Agree.pure hxy) fun e => ?_
  exact Agree.ite (Agree.fail _) (Agree.fail _)

theorem respects_setUpLibraryLog (hS : Host.LogsTogether S) (level : Value)
    (handlers : List LogHandler) : Respects S (setUpLibraryLog level handlers) := by
  unfold setUpLibraryLog
  exact Agree.ite (respects_changeLogs hS _) (Agree.fail _)

/-- What is done once the logger is kept in its variable. -/
theorem respects_finishSetUp (hS : Host.LogsTogether S) (name : Text) :
    Respects S (debugLevel GlobalOptions.Slot.netTraffic.name >>= fun level =>
      read (·.logs) >>= fun logs => setUpLibraryLog level (logs.get name).handlers >>= fun _ =>
      pure (Value.logger name)) := by
  refine Agree.bind_eq (respects_debugLevel hS _) fun level => ?_
  refine Agree.bind_eq (Agree.read fun h h' hs => (hS.logs hs).symm) fun logs => ?_
  exact Agree.bind_eq (respects_setUpLibraryLog hS _ _) fun _ => Agree.pure rfl

/-- **The logger is had in the same way on two hosts that log together**, as long as that it is kept
in its variable is no difference either. -/
theorem respects_logger (hS : Host.LogsTogether S)
    (hconfigure : ∀ value, Respects S (configure "_logger" value)) : Respects S logger := by
  unfold logger setUpConfiguredLogger
  refine Agree.bind_eq (respects_configured hS _) fun v => Agree.ite (Agree.pure rfl) ?_
  refine Agree.bind_eq (respects_loggerRequest hS _) fun request => ?_
  refine Agree.bind_eq (respects_setUpLoggerAsConfigured hS request) fun name => ?_
  exact Agree.bind_eq (hconfigure _) fun _ => respects_finishSetUp hS name

end Action

end OtpRegistrar
