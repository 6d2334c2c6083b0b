/-
What setting up a logger leaves.

A set-up begins by taking away whatever the logger had, opens the one destination that is asked
for, and puts it in.  What earlier set-ups have left, of this logger or of others, does not matter:
`setUpLogger_leaves` is about the host that any sequence of them leads to, calls that failed on the
way included.  The logger has one handler, one filter and its level, hands nothing on, and an entry
goes to the handler once.

A level that is not known stands for INFO, and an entry says so; but one that does not count as
true, such as the empty text, is passed over in silence.
-/
import OtpRegistrar.Proofs.Log.Delivery

namespace OtpRegistrar

/-! ### Loggers by name -/

namespace LogRegistry

variable {name other : Text}

theorem find?_putIn_self (name : Text) (l : Logger) (loggers : List (Text × Logger)) :
    (putIn name l loggers).find? (·.1 == name) = some (name, l) := by
  induction loggers with
  | nil => simp [putIn]
  | cons entry rest ih =>
      by_cases hname : entry.1 = name
      · simp [putIn, hname]
      · simp [putIn, hname, ih]

theorem find?_putIn_of_ne (hne : other ≠ name) (l : Logger) (loggers : List (Text × Logger)) :
    (putIn name l loggers).find? (·.1 == other) = loggers.find? (·.1 == other) := by
  induction loggers with
  | nil => simp [putIn, hne.symm]
  | cons entry rest ih =>
      by_cases hname : entry.1 = name
      · simp [putIn, hname, hne.symm]
      · simp [putIn, hname, List.find?_cons, ih]

theorem putIn_putIn (name : Text) (l l' : Logger) (loggers : List (Text × Logger)) :
    putIn name l' (putIn name l loggers) = putIn name l' loggers := by
  induction loggers with
  | nil => simp [putIn]
  | cons entry rest ih =>
      by_cases hname : entry.1 = name
      · simp [putIn, hname]
      · simp [putIn, hname, ih]

@[simp] theorem get_put_self (r : LogRegistry) (name : Text) (l : Logger) :
    (r.put name l).get name = l := by
  simp [get, put, find?_putIn_self]

theorem get_put_of_ne (r : LogRegistry) (hne : key other ≠ key name) (l : Logger) :
    (r.put name l).get other = r.get other := by
  simp [get, put, find?_putIn_of_ne hne]

theorem get_congr (r : LogRegistry) (hkey : key name = key other) : r.get name = r.get other := by
  simp [get, hkey]

@[simp] theorem put_put (r : LogRegistry) (name : Text) (l l' : Logger) :
    (r.put name l).put name l' = r.put name l' := by
  simp [put, putIn_putIn]

end LogRegistry

/-! ### Destinations -/

namespace LogRequest

/-- The handler for a destination; the entries of a file show the time by themselves. -/
def handler (r : LogRequest) (sink : LogSink) : LogHandler :=
  ⟨sink, r.layout (match sink with | .file _ => true | _ => false)⟩

/-- The level of the logger. -/
def leastLevel (r : LogRequest) : LogLevel := r.level?.getD .info

/-- The registry with the banner that is asked for, and a logger under the name. -/
def register (r : LogRequest) (processId : Int) (l : Logger) (logs : LogRegistry) : LogRegistry :=
  { logs with banner := r.fullBanner processId }.put r.loggerName l

/-- The destination that is asked for, and the host with it opened: the system log before a file, a
file before the error output, and nothing at all in the end. -/
inductive Opens (r : LogRequest) (h : Host) : LogSink → Host → Prop
  | syslog {address facility : Text} {place : Syslog.Address} {number : Nat}
      (hsyslog : r.syslog = true)
      (haddress : r.address = .text address) (hplace : Syslog.Address.ofText address = .ok place)
      (hfacility : r.facility = .text facility) (hnumber : Syslog.facility? facility = some number)
      (hreached : place.flaw? h.resolver = none) :
      Opens r h .syslog (h.note (.syslogOpened place number))
  | file {path : Text} {files : FileTree} {place : Place}
      (hsyslog : r.syslog = false) (hlogfile : r.logfile = .text path) (hpath : path ≠ [])
      (hnul : (Place.ofPath path).steps.any FileTree.hasNul = false)
      (hopened : h.files.openAppend path = .ok (files, place)) :
      Opens r h (.file place) { h with files }
  | stderr (hsyslog : r.syslog = false) (hlogfile : r.logfile.truthy = false)
      (hstderr : r.stderr = true) : Opens r h .stderr h
  | discard (hsyslog : r.syslog = false) (hlogfile : r.logfile.truthy = false)
      (hstderr : r.stderr = false) : Opens r h .discard h

end LogRequest

variable {r : LogRequest} {h h' opened : Host} {handler : LogHandler} {sink : LogSink}
  {name : Text}

namespace Action

theorem syslogAddress_inv {address : Value} {place : Syslog.Address}
    (hrun : (syslogAddress address).runOn h = (.ok place, h')) :
    h' = h ∧ ∃ t, address = .text t ∧ Syslog.Address.ofText t = .ok place := by
  cases address with
  | text t =>
      obtain ⟨hplace, rfl⟩ := runOn_orFail_inv hrun
      exact ⟨rfl, t, rfl, hplace⟩
  | _ => cases hrun

theorem syslogFacility_inv {facility : Value} {number : Nat}
    (hrun : (syslogFacility facility).runOn h = (.ok number, h')) :
    h' = h ∧ ∃ t, facility = .text t ∧ Syslog.facility? t = some number := by
  cases facility with
  | text t =>
      unfold syslogFacility at hrun
      dsimp only at hrun
      split at hrun
      · rename_i n hn
        cases hrun
        exact ⟨rfl, t, rfl, hn⟩
      · cases hrun
  | _ => cases hrun

/-- A system log is opened where it can be reached. -/
theorem openSyslog_inv {address facility : Value}
    (hrun : (openSyslog address facility).runOn h = (.ok (), h')) :
    ∃ t place t' number, address = .text t ∧ Syslog.Address.ofText t = .ok place ∧
      facility = .text t' ∧ Syslog.facility? t' = some number ∧
      place.flaw? h.resolver = none ∧ h' = h.note (.syslogOpened place number) := by
  obtain ⟨place, h₁, hread, hlooking⟩ := runOn_bind_inv hrun
  obtain ⟨number, h₂, hlooked, hreaching⟩ := runOn_bind_inv hlooking
  obtain ⟨rfl, t, haddress, hplace⟩ := syslogAddress_inv hread
  obtain ⟨rfl, t', hfacility, hnumber⟩ := syslogFacility_inv hlooked
  rw [runOn_bind_ok (runOn_read _ _)] at hreaching
  cases hreached : place.flaw? h₂.resolver with
  | some flaw =>
      rw [hreached] at hreaching
      cases hreaching
  | none =>
      rw [hreached] at hreaching
      cases hreaching
      exact ⟨t, place, t', number, haddress, hplace, hfacility, hnumber, hreached, rfl⟩

/-- With an address and a facility, only the address is left that may not be reached. -/
theorem runOn_openSyslog {address facility : Text} {place : Syslog.Address} {number : Nat}
    (hplace : Syslog.Address.ofText address = .ok place)
    (hnumber : Syslog.facility? facility = some number) (h : Host) :
    (openSyslog (.text address) (.text facility)).runOn h =
      ((place.flaw? h.resolver).elim (note (.syslogOpened place number))
        (fun flaw => fail (.syslog flaw))).runOn h := by
  have haddress : (syslogAddress (.text address)).runOn h = (.ok place, h) := by
    unfold syslogAddress
    rw [runOn_orFail, hplace]
    rfl
  have hfacility : (syslogFacility (.text facility)).runOn h = (.ok number, h) := by
    unfold syslogFacility
    simp only [hnumber]
    rfl
  unfold openSyslog
  rw [runOn_bind_ok haddress, runOn_bind_ok hfacility, runOn_bind_ok (runOn_read _ _)]
  cases place.flaw? h.resolver <;> rfl

theorem openLogFile_inv {path : Text} {place : Place}
    (hrun : (openLogFile path).runOn h = (.ok place, h')) :
    (Place.ofPath path).steps.any FileTree.hasNul = false ∧
      ∃ files, h.files.openAppend path = .ok (files, place) ∧ h' = { h with files } := by
  unfold openLogFile at hrun
  rw [runOn_ofFunction] at hrun
  split at hrun
  · cases hrun
  rename_i hnul
  split at hrun
  · cases hrun
  · rename_i files place' hopened
    cases hrun
    exact ⟨by simpa using hnul, files, hopened, rfl⟩

/-- **The destination is the first of those that are asked for.** -/
theorem opens_of_openDestination (hrun : (openDestination r).runOn h = (.ok handler, h')) :
    ∃ sink, r.Opens h sink h' ∧ handler = r.handler sink := by
  unfold openDestination at hrun
  by_cases hsyslog : r.syslog = true
  · rw [if_pos hsyslog] at hrun
    obtain ⟨_, h₃, hopen, hdone⟩ := runOn_bind_inv hrun
    obtain ⟨address, place, facility, number, haddress, hplace, hfacility, hnumber, hreached,
      rfl⟩ := openSyslog_inv hopen
    cases hdone
    exact ⟨.syslog, .syslog hsyslog haddress hplace hfacility hnumber hreached, rfl⟩
  rw [if_neg hsyslog] at hrun
  have hsyslog' : r.syslog = false := by simpa using hsyslog
  by_cases hlogfile : r.logfile.truthy = true
  · rw [if_neg (by simp [hlogfile])] at hrun
    cases hvalue : r.logfile with
    | text path =>
        rw [hvalue] at hrun hlogfile
        have hpath : path ≠ [] := by
          intro hempty
          simp [hempty, Value.truthy] at hlogfile
        obtain ⟨place, h₁, hopen, hdone⟩ := runOn_bind_inv hrun
        obtain ⟨hnul, files, hopened, rfl⟩ := openLogFile_inv hopen
        cases hdone
        exact ⟨.file place, .file hsyslog' hvalue hpath hnul hopened, rfl⟩
    | _ =>
        rw [hvalue] at hrun
        cases hrun
  · have hlogfile' : r.logfile.truthy = false := by simpa using hlogfile
    rw [if_pos (by simp [hlogfile'])] at hrun
    cases hrun
    by_cases hstderr : r.stderr = true
    · rw [if_pos hstderr]
      exact ⟨.stderr, .stderr hsyslog' hlogfile' hstderr, rfl⟩
    · rw [if_neg hstderr]
      exact ⟨.discard, .discard hsyslog' hlogfile' (by simpa using hstderr), rfl⟩

/-- A destination that can be opened is given. -/
theorem openDestination_of_opens (hopens : r.Opens h sink h') :
    (openDestination r).runOn h = (.ok (r.handler sink), h') := by
  unfold openDestination
  cases hopens with
  | @syslog address facility place number hsyslog haddress hplace hfacility hnumber hreached =>
      simp only [hsyslog, if_true, haddress, hfacility]
      have hopen := runOn_openSyslog hplace hnumber h
      rw [hreached] at hopen
      exact runOn_bind_ok hopen
  | @file path files place hsyslog hlogfile hpath hnul hopened =>
      have htruthy : (Value.text path).truthy = true := by simpa [Value.truthy] using hpath
      have hopen : (openLogFile path).runOn h = (.ok place, { h with files }) := by
        unfold openLogFile
        rw [runOn_ofFunction, if_neg (by simp [hnul]), hopened]
      simp only [hsyslog, htruthy, hlogfile, Bool.not_true, Bool.false_eq_true, if_false]
      exact runOn_bind_ok hopen
  | stderr hsyslog hlogfile hstderr =>
      simp only [hsyslog, hlogfile, hstderr]
      rfl
  | discard hsyslog hlogfile hstderr =>
      simp only [hsyslog, hlogfile, hstderr]
      rfl

end Action

/-! ### Setting up -/

namespace LogRequest

/-- The logger as a set-up leaves it. -/
def logger (r : LogRequest) (sink : LogSink) : Logger :=
  ⟨some r.leastLevel, false, 1, [r.handler sink]⟩

/-- The host with the logger in place, its destination having been opened. -/
def ready (r : LogRequest) (h opened : Host) (sink : LogSink) : Host :=
  { opened with logs := r.register h.processId (r.logger sink) h.logs }

/-- Is an entry written that the level is not known?  Only if the level counts as true. -/
def Announces (r : LogRequest) : Prop := r.level? = none ∧ r.level.truthy = true

instance : DecidablePred Announces := fun r =>
  inferInstanceAs (Decidable (r.level? = none ∧ r.level.truthy = true))

theorem get_ready (r : LogRequest) (h opened : Host) (sink : LogSink) :
    (r.ready h opened sink).logs.get r.loggerName = r.logger sink :=
  LogRegistry.get_put_self _ _ _

theorem Opens.stands (hopens : r.Opens h sink opened) :
    (r.handler sink).Stands (r.ready h opened sink) := by
  intro place hsink
  cases hopens with
  | file hsyslog hlogfile hpath hnul hopened =>
      cases hsink
      exact FileTree.node?_of_openAppend hopened
  | _ => cases hsink

/-- Opening looks at no logger. -/
theorem Opens.setLogs (hopens : r.Opens h sink opened) (logs : LogRegistry) :
    r.Opens { h with logs } sink { opened with logs } := by
  cases hopens with
  | syslog hsyslog haddress hplace hfacility hnumber hreached =>
      exact .syslog hsyslog haddress hplace hfacility hnumber hreached
  | file hsyslog hlogfile hpath hnul hopened => exact .file hsyslog hlogfile hpath hnul hopened
  | stderr hsyslog hlogfile hstderr => exact .stderr hsyslog hlogfile hstderr
  | discard hsyslog hlogfile hstderr => exact .discard hsyslog hlogfile hstderr

theorem Opens.logs (hopens : r.Opens h sink opened) : opened.logs = h.logs := by
  cases hopens <;> rfl

end LogRequest

namespace Action

@[simp] theorem runOn_changeLogs (f : LogRegistry → LogRegistry) (h : Host) :
    (changeLogs f).runOn h = (.ok (), { h with logs := f h.logs }) := rfl

/-- The registry while the destination is opened: the logger has no handler. -/
def cleared (r : LogRequest) (h : Host) : LogRegistry :=
  r.register h.processId
    ⟨some r.leastLevel, (h.logs.get r.loggerName).propagate, 1, []⟩ h.logs

/-- The registry with a handler put in. -/
def attached (r : LogRequest) (handler : LogHandler) (logs : LogRegistry) : LogRegistry :=
  logs.put r.loggerName { logs.get r.loggerName with handlers := [handler], propagate := false }

/-- What is said of the level once the handler is in place. -/
def announce (r : LogRequest) : Action Unit :=
  if r.Announces then logTo r.loggerName .error (LogRequest.unknownLevel r.level) else pure ()

/-- The logger loses its handlers, gets the one that is opened, and says if its level is not
known. -/
theorem runOn_setUpLogger (r : LogRequest) (h : Host) :
    (setUpLogger r).runOn h = (openDestination r >>= fun handler =>
      changeLogs (attached r handler) >>= fun _ => announce r >>= fun _ => pure r.loggerName).runOn
        { h with logs := cleared r h } := by
  unfold setUpLogger
  show (openDestination r >>= _).runOn { h with logs := cleared r h } = _
  refine congrArg (fun f => (openDestination r >>= f).runOn { h with logs := cleared r h }) ?_
  funext handler
  -- the two ways to say when there is an entry
  unfold announce
  dsimp only
  split
  · rename_i hlevel
    rw [if_neg (by simp [LogRequest.Announces, hlevel])]
    rfl
  · rename_i hlevel
    by_cases htruthy : r.level.truthy = true
    · rw [if_pos htruthy, if_pos ⟨hlevel, htruthy⟩]
      rfl
    · rw [if_neg htruthy, if_neg (fun hannounces => htruthy hannounces.2)]
      rfl

/-- With a handler in place, the logger has nothing left of before. -/
theorem attached_cleared (r : LogRequest) (h : Host) (handler : LogHandler) :
    attached r handler (cleared r h)
      = r.register h.processId ⟨some r.leastLevel, false, 1, [handler]⟩ h.logs := by
  simp [attached, cleared, LogRequest.register]

/-- A set-up that ends with a value has opened the destination, and put the logger in place before
anything was said. -/
theorem setUpLogger_inv (hrun : (setUpLogger r).runOn h = (.ok name, h')) :
    name = r.loggerName ∧ ∃ sink opened, r.Opens h sink opened ∧
      (announce r).runOn (r.ready h opened sink) = (.ok (), h') := by
  rw [runOn_setUpLogger] at hrun
  obtain ⟨handler, h₁, hopen, hrest⟩ := runOn_bind_inv hrun
  obtain ⟨sink, hopens, rfl⟩ := opens_of_openDestination hopen
  have hlogs : h₁.logs = cleared r h := hopens.logs
  obtain ⟨_, h₂, hattach, hrest⟩ := runOn_bind_inv hrest
  obtain ⟨_, h₃, hannounce, hdone⟩ := runOn_bind_inv hrest
  cases hdone
  cases hattach
  refine ⟨rfl, sink, { h₁ with logs := h.logs }, hopens.setLogs h.logs, ?_⟩
  rw [LogRequest.ready, LogRequest.logger, ← attached_cleared, ← hlogs]
  exact hannounce

/-- Of a level that is not known and counts as true there is one entry, and else nothing is done. -/
theorem announce_inv (hlogger : h.logs.get r.loggerName = r.logger sink)
    (hstands : (r.handler sink).Stands h) (hrun : (announce r).runOn h = (.ok (), h')) :
    (if r.Announces then Delivered (r.handler sink) .error (LogRequest.unknownLevel r.level) h h'
      else h' = h) ∧ h'.logs = h.logs ∧ (r.handler sink).Stands h' := by
  unfold announce at hrun
  by_cases hsaid : r.Announces
  · rw [if_pos hsaid] at hrun ⊢
    have hhandlers : (h.logs.get r.loggerName).handlers = [r.handler sink] := by rw [hlogger]; rfl
    have hlevel : (h.logs.get r.loggerName).level = some .info := by
      rw [hlogger, LogRequest.logger, LogRequest.leastLevel, hsaid.1]
      rfl
    -- an error is above the level that stands for one that is not known
    have htakes : (h.logs.get r.loggerName).takes .error = true :=
      (Logger.takes_iff hlevel .error).mpr (by decide)
    obtain ⟨h₁, hwritten, hdelivered⟩ :=
      logTo_delivers hhandlers hstands htakes (LogRequest.unknownLevel r.level)
    rw [hwritten] at hrun
    cases hrun
    exact ⟨hdelivered, hdelivered.logs, hdelivered.stands hstands⟩
  · rw [if_neg hsaid] at hrun ⊢
    cases hrun
    exact ⟨rfl, rfl, hstands⟩

/-- An entry about the level fails no set-up. -/
theorem announce_ok (r : LogRequest) (h : Host) : ((announce r).runOn h).1 = .ok () := by
  unfold announce
  by_cases hsaid : r.Announces
  · rw [if_pos hsaid]
    rfl
  · rw [if_neg hsaid]
    rfl

/-- A set-up ends with a value if and only if its destination can be opened. -/
theorem setUpLogger_succeeds_iff :
    (setUpLogger r).Succeeds h ↔ ∃ sink opened, r.Opens h sink opened := by
  constructor
  · intro hrun
    obtain ⟨name, hname⟩ := hrun
    obtain ⟨-, sink, opened, hopens, -⟩ := setUpLogger_inv (Prod.ext hname rfl)
    exact ⟨sink, opened, hopens⟩
  · intro hopens
    obtain ⟨sink, opened, hopens⟩ := hopens
    refine ⟨r.loggerName, ?_⟩
    rw [runOn_setUpLogger, runOn_bind_ok (openDestination_of_opens (hopens.setLogs (cleared r h))),
      runOn_bind_ok (runOn_changeLogs _ _), runOn_bind_ok (Prod.ext (announce_ok r _) rfl)]
    rfl

end Action

/-! ### The loggers of a whole run -/

/-- The loggers of the two hosts are the same. -/
def Host.SameLogs (h h' : Host) : Prop := h'.logs = h.logs

instance : IsPreorder Host Host.SameLogs where
  refl _ := rfl
  trans _ _ _ h h' := h'.trans h

/-- A logger has one handler at most, and that behind a single filter. -/
def Logger.IsOrderly (l : Logger) : Prop := l.handlers.length ≤ l.filters ∧ l.filters ≤ 1

namespace Action

theorem keeps_logs_openDestination (r : LogRequest) : Keeps Host.SameLogs (openDestination r) := by
  unfold openDestination
  refine Keeps.ite (Keeps.bind ?_ fun _ => Keeps.pure _) (Keeps.ite (Keeps.pure _) ?_)
  · unfold openSyslog
    refine Keeps.bind ?_ fun _ => Keeps.bind ?_ fun _ => Keeps.bind (Keeps.read _) fun _ => ?_
    · unfold syslogAddress
      split
      · exact Keeps.orFail _ _
      · exact Keeps.fail _
    · unfold syslogFacility
      split
      · split
        · exact Keeps.pure _
        · exact Keeps.fail _
      · exact Keeps.fail _
    · split
      · exact Keeps.fail _
      · exact fun _ => rfl
  · split
    · refine Keeps.bind ?_ fun _ => Keeps.pure _
      intro h
      unfold openLogFile
      rw [runOn_ofFunction]
      split
      · rfl
      · split <;> rfl
    · exact Keeps.fail _

theorem keeps_logs_announce (r : LogRequest) : Keeps Host.SameLogs (announce r) :=
  Keeps.ite (logs_logTo _ _ _) (Keeps.pure _)

/-- **Whatever a set-up ends with, it has put one orderly logger under its name, and changed no
other.** -/
theorem logs_setUpLogger (r : LogRequest) (h : Host) :
    ∃ l : Logger, l.IsOrderly ∧
      ((setUpLogger r).runOn h).2.logs = r.register h.processId l h.logs := by
  rw [runOn_setUpLogger]
  have hkept := keeps_logs_openDestination r { h with logs := cleared r h }
  rcases hopen : (openDestination r).runOn { h with logs := cleared r h } with ⟨outcome, h₁⟩
  rw [hopen] at hkept
  have hlogs : h₁.logs = cleared r h := hkept
  cases outcome with
  | error f =>
      rw [runOn_bind_error hopen]
      exact ⟨_, ⟨Nat.zero_le _, Nat.le_refl _⟩, hlogs⟩
  | ok handler =>
      refine ⟨⟨some r.leastLevel, false, 1, [handler]⟩, ⟨Nat.le_refl _, Nat.le_refl _⟩, ?_⟩
      have hrest : Keeps Host.SameLogs (announce r >>= fun _ => pure r.loggerName) :=
        (keeps_logs_announce r).bind fun _ => Keeps.pure _
      rw [runOn_bind_ok hopen, ← attached_cleared, ← hlogs]
      exact hrest { h₁ with logs := attached r handler h₁.logs }

end Action

namespace Host

/-- The host after some set-ups, those that failed included. -/
def afterSetUps (h : Host) (requests : List LogRequest) : Host :=
  requests.foldl (fun h r => ((Action.setUpLogger r).runOn h).2) h

/-- Set-ups of other loggers leave a logger as it is. -/
theorem get_afterSetUps_of_ne {requests : List LogRequest}
    (hother : ∀ r ∈ requests, LogRegistry.key name ≠ LogRegistry.key r.loggerName) (h : Host) :
    (h.afterSetUps requests).logs.get name = h.logs.get name := by
  induction requests generalizing h with
  | nil => rfl
  | cons r rest ih =>
      obtain ⟨l, -, hlogs⟩ := Action.logs_setUpLogger r h
      obtain ⟨hne, hrest⟩ := List.forall_mem_cons.mp hother
      show ((((Action.setUpLogger r).runOn h).2).afterSetUps rest).logs.get name = _
      rw [ih hrest, hlogs]
      exact LogRegistry.get_put_of_ne _ hne _

/-- **No sequence of set-ups, failures included, gives a logger a second handler or filter.** -/
theorem orderly_afterSetUps (hstart : ∀ name, (h.logs.get name).IsOrderly)
    (requests : List LogRequest) (name : Text) :
    ((h.afterSetUps requests).logs.get name).IsOrderly := by
  induction requests generalizing h with
  | nil => exact hstart name
  | cons r rest ih =>
      refine ih ?_
      intro other
      obtain ⟨l, hl, hlogs⟩ := Action.logs_setUpLogger r h
      rw [hlogs]
      by_cases hkey : LogRegistry.key other = LogRegistry.key r.loggerName
      · rw [LogRegistry.get_congr _ hkey]
        unfold LogRequest.register
        rw [LogRegistry.get_put_self]
        exact hl
      · unfold LogRequest.register
        rw [LogRegistry.get_put_of_ne _ hkey]
        exact hstart other

end Host

namespace Action

/-- **After a set-up that ends with a value, whatever set-ups came before it, the logger has the one
handler that is asked for, one filter and its level, and hands nothing on.  Of a level that is not
known and counts as true there is one entry, and of no other; and every entry that is written from
then on is delivered once if it is of the level or above, and leaves no trace otherwise.** -/
theorem setUpLogger_leaves {earlier : List LogRequest}
    (hrun : (setUpLogger r).runOn (h.afterSetUps earlier) = (.ok name, h')) :
    name = r.name.lower ∧ ∃ sink opened, r.Opens (h.afterSetUps earlier) sink opened ∧
      h'.logs.get name = ⟨some (r.level?.getD .info), false, 1, [r.handler sink]⟩ ∧
      (if r.Announces then
        Delivered (r.handler sink) .error (LogRequest.unknownLevel r.level)
          (r.ready (h.afterSetUps earlier) opened sink) h'
      else h' = r.ready (h.afterSetUps earlier) opened sink) ∧
      ∀ entries, ∃ h'', (logAll name entries).runOn h' = (.ok (), h'') ∧
        DeliveredAll (r.handler sink) (r.level?.getD .info) entries h' h'' := by
  obtain ⟨rfl, sink, opened, hopens, hannounce⟩ := setUpLogger_inv hrun
  have hready := r.get_ready (h.afterSetUps earlier) opened sink
  obtain ⟨hsaid, hlogs, hstands⟩ := announce_inv hready hopens.stands hannounce
  have hlogger : h'.logs.get r.loggerName = r.logger sink := hlogs ▸ hready
  refine ⟨rfl, sink, opened, hopens, hlogger, hsaid, ?_⟩
  exact logAll_delivers (by rw [hlogger]; rfl) (by rw [hlogger]; rfl) hstands

/-- The host of the two set-ups below. -/
def quietHost : Host := .fresh (.empty "/w") (.own "/home") "/etc/otp.conf" false 7 "now"

/-- After a set-up for the system log, one with a level that is not known and the error output. -/
theorem setUpLogger_leaves_reconfigured :
    ∃ h', (setUpLogger { name := "tool", level := .text "LOUD", stderr := true }).runOn
        (quietHost.afterSetUps [{ name := "Tool", level := .text "DEBUG", syslog := true }])
          = (.ok "tool", h') ∧
      (quietHost.afterSetUps [{ name := "Tool", level := .text "DEBUG", syslog := true }]).logs.get
          "tool" = ⟨some .debug, false, 1, [⟨.syslog, ⟨false, false, false⟩⟩]⟩ ∧
      h'.logs.get "tool" = ⟨some .info, false, 1, [⟨.stderr, ⟨false, false, false⟩⟩]⟩ ∧
      (∃ ready, Delivered ⟨.stderr, ⟨false, false, false⟩⟩ .error
        (LogRequest.unknownLevel (.text "LOUD")) ready h') ∧
      ∃ h'', (logAll "tool" [(.info, "hello")]).runOn h' = (.ok (), h'') := by
  have hrun : (setUpLogger { name := "tool", level := .text "LOUD", stderr := true }).runOn
      (quietHost.afterSetUps [{ name := "Tool", level := .text "DEBUG", syslog := true }])
        = (.ok "tool", _) := Prod.ext rfl rfl
  obtain ⟨-, sink, opened, hopens, hlogger, hsaid, hall⟩ := setUpLogger_leaves hrun
  obtain ⟨h'', hwritten, -⟩ := hall [(.info, "hello")]
  have hsink : sink = .stderr := by
    cases hopens with
    | stderr hsyslog hlogfile hstderr => rfl
    | syslog hsyslog haddress hplace hfacility hnumber hreached => cases hsyslog
    | file hsyslog hlogfile hpath hnul hopened => cases hlogfile
    | discard hsyslog hlogfile hstderr => cases hstderr
  rw [hsink] at hlogger hsaid
  rw [if_pos (by decide)] at hsaid
  exact ⟨_, hrun, by rfl, hlogger, ⟨_, hsaid⟩, h'', hwritten⟩

/-- Of the empty text, which is no level either, nothing is said. -/
theorem emptyLevel_not_announced :
    ¬∀ (r : LogRequest) (h h' : Host) (name : Text),
      (setUpLogger r).runOn h = (.ok name, h') → r.level? = none →
        ∃ t, Event.logged .error t ∈ h'.events := by
  intro hall
  obtain ⟨t, ht⟩ := hall { name := "tool", level := .text "", stderr := true } quietHost _ "tool"
    (Prod.ext rfl rfl) (by decide)
  cases ht

end Action

end OtpRegistrar
