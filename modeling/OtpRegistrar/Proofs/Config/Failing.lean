/-
What can go wrong while the configuration is loaded, and while its logger is set up.

Every flaw of a configuration is a failure of the program's own, which is told to the
user.  There are two exceptions, both of them failures of another kind.  The file is
read as UTF-8, and may not be; and the port of the system log is a number of any size,
although only one of limited size can be looked up.  On a sound configuration nothing
else goes wrong, and what has been loaded is sound again.
-/
import OtpRegistrar.Proofs.Config.Logging
import OtpRegistrar.Proofs.Config.Sound

namespace OtpRegistrar

/-- The file that the configuration names is there and is not UTF-8. -/
def Config.FileNotUtf8 (c : Config) (files : FileTree) (e : Text.DecodeFlaw) : Prop :=
  ∃ path content, c.get "config_file" = .text path ∧ files.exists? path = true ∧
    files.read path = .ok content ∧ Text.decodeFile content = .error e

/-- What the options set is taken, and the configuration file that is read then is not UTF-8. -/
def Config.ReadsNotUtf8 (c : Config) (options : List (Text × Value)) (files : FileTree)
    (e : Text.DecodeFlaw) : Prop :=
  ∃ c', c.override options = (c', .ok ()) ∧ c'.FileNotUtf8 files e

/-- There is no logger yet, and the system log that the configuration asks for has a port that is
too large to be looked up. -/
structure Config.LogPortTooLarge (c : Config) (resolver : Syslog.Resolver) : Prop where
  missing : c.get Host.loggerVariable = .null
  syslog : (!c.flag "file_logging" && c.flag "syslog_enabled") = true
  port : ∃ address place, c.get "syslog_address" = .text address ∧
    Syslog.Address.ofText address = .ok place ∧ place.flaw? resolver = some .portTooLarge

namespace Action

/-- The failure is one of the program's own. -/
abbrev Own (f : Fault) : Prop := f.isOwn = true

/-! ### The configuration -/

section Loading

variable {h : Host}

theorem comesTo_configure (hsound : h.config.Sound) {name : Text} {value : Value}
    (hvalue : Config.Assignable name value) :
    ComesTo (fun _ h' => h'.config.Sound ∧ h'.prompts = h.prompts) Own (configure name value)
      h := by
  rcases hset : h.config.set name value with f | config
  · exact .of_error (runOn_configure_error hset) rfl
  · exact .of_ok (runOn_configure_ok hset) ⟨hsound.set hset hvalue, rfl⟩

theorem runOn_override (options : List (Text × Value)) (h : Host) :
    (override options).runOn h = ((h.config.override options).2.mapError .config,
      { h with config := (h.config.override options).1 }) := rfl

theorem comesTo_override (hsound : h.config.Sound) {options : List (Text × Value)}
    (hoptions : ∀ option ∈ options, Config.Assignable option.1 option.2) :
    ComesTo (fun _ h' => h'.config.Sound ∧ h' = { h with config := h'.config } ∧
        h.config.override options = (h'.config, .ok ())) Own (override options) h := by
  have hoverridden := hsound.override hoptions
  have hrun := runOn_override options h
  rcases hset : h.config.override options with ⟨config, outcome⟩
  rw [hset] at hoverridden hrun
  cases outcome with
  | ok _ => exact .of_ok hrun ⟨hoverridden, rfl, rfl⟩
  | error f => exact .of_error hrun rfl

theorem runOn_configPath {path : Text} (hpath : h.config.get "config_file" = .text path) :
    configPath.runOn h = (.ok path, h) := by
  unfold configPath
  rw [runOn_bind_ok (show (configured "config_file").runOn h = (.ok (.text path), h) by
    rw [← hpath]; rfl)]
  rfl

theorem comesTo_readConfigText {path : Text} (hpath : h.config.get "config_file" = .text path)
    (hthere : h.files.exists? path = true) :
    ComesTo (fun _ h' => h' = h)
      (fun f => Own f ∨ ∃ e, f = .notUtf8 e ∧ h.config.FileNotUtf8 h.files e)
      (readConfigText path true) h := by
  unfold readConfigText
  refine .after (runOn_read _ _) ?_
  refine ComesTo.bind (Q := fun content h' => h.files.read path = .ok content ∧ h' = h)
    (.orFail (fun content hcontent => ⟨hcontent, rfl⟩) fun e _ => .inl rfl) ?_
  rintro content _ ⟨hcontent, rfl⟩
  exact .after rfl (.orFail (fun _ _ => rfl)
    fun e he => .inr ⟨e, rfl, path, content, hpath, hthere, hcontent, he⟩)

/-- The file is read, or has a flaw, or is not UTF-8. -/
theorem comesTo_readConfigFile (hsound : h.config.Sound) :
    ComesTo (fun _ h' => h' = h)
      (fun f => Own f ∨ ∃ e, f = .notUtf8 e ∧ h.config.FileNotUtf8 h.files e)
      (readConfigFile true) h := by
  obtain ⟨-, path, hpath⟩ := hsound.text "config_file" (by simp [Config.textNames])
  unfold readConfigFile
  refine .after (runOn_configPath hpath) (.after (runOn_read _ _) ?_)
  dsimp only [id]
  split
  · rename_i hthere
    refine ComesTo.bind (comesTo_readConfigText hpath hthere) ?_
    rintro t _ rfl
    exact .orFail (fun _ _ => rfl) fun e _ => .inl rfl
  · split
    · exact .of_error rfl (.inl rfl)
    · exact .of_ok rfl rfl

theorem runOn_reportAll (unknown : List Text) (h : Host) :
    ∃ h', (unknown.forM reportUnknown).runOn h = (.ok (), h') ∧ h'.prompts = h.prompts := by
  induction unknown generalizing h with
  | nil => exact ⟨h, rfl, rfl⟩
  | cons parameter rest ih =>
      obtain ⟨h', hrest, hprompts⟩ := ih ((reportUnknown parameter).runOn h).2
      have hfirst : (reportUnknown parameter).runOn h =
          (.ok (), ((reportUnknown parameter).runOn h).2) := rfl
      refine ⟨h', ?_, hprompts⟩
      rw [List.forM_eq_forM, List.forM_cons, runOn_bind_ok hfirst]
      exact hrest

theorem comesTo_applyParameters (hsound : h.config.Sound) (entries : ConfigFile.Entries) :
    ComesTo (fun _ h' => h'.config.Sound ∧ h'.prompts = h.prompts) Own (applyParameters entries)
      h := by
  have happlied : (h.config.applyFile entries).1.Sound := hsound.applyFile
  unfold applyParameters
  refine .after (runOn_read _ _) ?_
  rcases hfile : h.config.applyFile entries with ⟨config, unknown, outcome⟩
  rw [hfile] at happlied
  obtain ⟨h₁, hreport, hprompts⟩ := runOn_reportAll unknown h
  exact .after hreport (.after (runOn_change _ _)
    (.orFail (fun _ _ => ⟨happlied, hprompts⟩) fun e _ => rfl))

theorem comesTo_settleTracebacks (hsound : h.config.Sound) :
    ComesTo (fun _ h' => h'.config.Sound ∧ h'.prompts = h.prompts) Own settleTracebacks h := by
  unfold settleTracebacks
  refine .after (show (configured "print_tracebacks").runOn h = (.ok _, h) from rfl) ?_
  split
  · exact comesTo_configure hsound
      (Config.assignable_of_ne (by simp) (by decide) (by decide))
  · exact .of_ok rfl ⟨hsound, rfl⟩

/-- **What loading comes to.** The configuration is sound again, or a flaw of it is told, or its
file is not UTF-8. -/
theorem comesTo_loadConfig (hsound : h.config.Sound) {options : List (Text × Value)}
    (hoptions : ∀ option ∈ options, Config.Assignable option.1 option.2) :
    ComesTo (fun _ h' => h'.config.Sound ∧ h'.prompts = h.prompts)
      (fun f => Own f ∨ ∃ e, f = .notUtf8 e ∧ h.config.ReadsNotUtf8 options h.files e)
      (loadConfig options true) h := by
  unfold loadConfig
  refine .after rfl ?_
  refine ComesTo.bind ((comesTo_override hsound hoptions).mono (fun _ _ hq => hq)
    fun _ hown => .inl hown) ?_
  rintro _ h₁ ⟨hsound₁, hsame, hset⟩
  have hfiles : h₁.files = h.files := by rw [hsame]
  have hprompts₁ : h₁.prompts = h.prompts := by rw [hsame]
  refine ComesTo.bind ((comesTo_readConfigFile hsound₁).mono (fun _ _ hq => hq) ?_) ?_
  · rintro f (hown | ⟨e, rfl, hfile⟩)
    · exact .inl hown
    · exact .inr ⟨e, rfl, h₁.config, hset, hfiles ▸ hfile⟩
  rintro entries _ rfl
  -- nothing but flaws can come behind the file
  refine ComesTo.mono (P := Own) ?_ (fun _ _ hq => hq) fun _ hown => .inl hown
  refine ComesTo.bind (comesTo_configure hsound₁
    (Config.assignable_of_ne (by simp [entriesValue]) (by decide) (by decide)))
    fun _ h₂ ⟨hsound₂, hprompts₂⟩ => ?_
  refine ComesTo.bind (comesTo_applyParameters hsound₂ entries) fun _ h₃ ⟨hsound₃, hprompts₃⟩ => ?_
  refine ComesTo.bind (comesTo_settleTracebacks hsound₃) fun _ h₄ ⟨hsound₄, hprompts₄⟩ => ?_
  obtain ⟨-, language, hlanguage⟩ := hsound₄.text "language" (by simp [Config.textNames])
  refine .after (show (configured "language").runOn h₄ = (.ok (.text language), h₄) by
    rw [← hlanguage]; rfl) ?_
  exact .of_ok rfl ⟨hsound₄,
    hprompts₄.trans (hprompts₃.trans (hprompts₂.trans hprompts₁))⟩

/-- A configuration file that is not UTF-8 is not loaded, and that is what loading fails with. -/
theorem runOn_loadConfig_of_readsNotUtf8 {options : List (Text × Value)} {e : Text.DecodeFlaw}
    (hreads : h.config.ReadsNotUtf8 options h.files e) :
    ∃ h', (loadConfig options true).runOn h = (.error (.notUtf8 e), h') := by
  obtain ⟨config, hset, path, content, hpath, hthere, hcontent, hflaw⟩ := hreads
  let h₁ : Host := { h with config }
  have hoverride : (override options).runOn h = (.ok (), h₁) := by
    rw [runOn_override, hset]
    rfl
  have htext : (readConfigText path true).runOn h₁ = (.error (.notUtf8 e), h₁) := by
    unfold readConfigText
    rw [runOn_bind_ok (runOn_read _ _),
      runOn_bind_ok (show (orFail (h₁.files.read path) _).runOn h₁ = (.ok content, h₁) by
        rw [runOn_orFail, show h₁.files.read path = .ok content from hcontent]; rfl)]
    show (orFail (Text.decodeFile content) Fault.notUtf8).runOn h₁ = _
    rw [runOn_orFail, hflaw]
    rfl
  have hfile : (readConfigFile true).runOn h₁ = (.error (.notUtf8 e), h₁) := by
    unfold readConfigFile
    rw [runOn_bind_ok (runOn_configPath (h := h₁) hpath), runOn_bind_ok (runOn_read _ _)]
    dsimp only [id]
    rw [if_pos (show h₁.files.exists? path = true from hthere)]
    exact runOn_bind_error htext
  refine ⟨h₁, ?_⟩
  unfold loadConfig
  rw [runOn_bind_ok (show (useLanguage (.text "en")).runOn h = (.ok (), h) from rfl),
    runOn_bind_ok hoverride]
  exact runOn_bind_error hfile

end Loading

/-! ### The logger -/

/-- The request names an address and a facility of the system log, and at most a path. -/
structure Fit (r : LogRequest) : Prop where
  address : ∃ t, r.address = .text t
  facility : ∃ t, r.facility = .text t
  logfile : r.logfile = .null ∨ ∃ t, r.logfile = .text t

/-- What the operating system refuses, or a value that is not acceptable. -/
private abbrev Unacceptable (f : Fault) : Prop := f.family = .system ∨ f.family = .value

/-- What can be named is not accepted, unless it is the port of the system log that is too large. -/
theorem Fit.refuses {r : LogRequest} (hr : Fit r) {h : Host} {f : Fault}
    (hrefuses : r.Refuses h f) :
    Unacceptable f ∨ f = .syslog .portTooLarge ∧ r.PortTooLarge h.resolver := by
  obtain ⟨address, haddress⟩ := hr.address
  obtain ⟨facility, hfacility⟩ := hr.facility
  cases hrefuses with
  | addressType hsyslog hwrong =>
      rw [haddress] at hwrong
      cases hwrong
  | facilityType hsyslog haddress hplace hwrong =>
      rw [hfacility] at hwrong
      cases hwrong
  | pathType hsyslog hasked hwrong =>
      rcases hr.logfile with hnone | ⟨path, hpath⟩
      · rw [hnone] at hasked
        cases hasked
      · rw [hpath] at hwrong
        cases hwrong
  | @unreached address facility place number flaw hsyslog haddress hplace hfacility hnumber hflaw =>
      cases flaw with
      | unknown errno reason => exact .inl (.inl rfl)
      | badHost reason => exact .inl (.inr rfl)
      | portTooLarge => exact .inr ⟨rfl, hsyslog, address, place, haddress, hplace, hflaw⟩
  | port | facility | nul => exact .inl (.inr rfl)
  | file => exact .inl (.inl rfl)

/-- What is not accepted is a flaw of the configuration. -/
theorem Fit.comesTo_setUpLoggerAsConfigured {r : LogRequest} (hr : Fit r) (h : Host) :
    ComesTo (fun _ _ => True)
      (fun f => Own f ∨ f = .syslog .portTooLarge ∧ r.PortTooLarge h.resolver)
      (setUpLoggerAsConfigured r) h := by
  unfold setUpLoggerAsConfigured
  rcases hrun : (setUpLogger r).runOn h with ⟨outcome, h'⟩
  refine .after (x := outcome) (by rw [runOn_attempt, hrun]) ?_
  cases outcome with
  | ok name => exact .of_ok rfl trivial
  | error f =>
      dsimp only
      rcases hr.refuses (setUpLogger_error_iff.mp hrun).1 with hkind | ⟨rfl, hport⟩
      · have htold : (f.family == .system || f.family == .value) = true := by
          rcases hkind with hfamily | hfamily <;> simp [hfamily]
        rw [if_pos htold]
        exact .of_error rfl (.inl rfl)
      · exact .of_error rfl (.inr ⟨rfl, hport⟩)

theorem runOn_debugLevel {h : Host} (hlevels : Config.IsLevels (h.config.get "debug_levels"))
    (slot : Text) : ∃ n, (debugLevel slot).runOn h = (.ok (.int n), h) := by
  obtain ⟨levels, hget, hall⟩ := hlevels
  have htable : debugLevels.runOn h = (.ok levels, h) := by
    unfold debugLevels
    rw [runOn_bind_ok (show (configured "debug_levels").runOn h = (.ok (.dict levels), h) by
      rw [← hget]; rfl)]
    rfl
  have hnumber : ∃ n, (Value.lookup (.text slot) levels).getD (.int 0) = .int n := by
    cases hlookup : Value.lookup (.text slot) levels with
    | none => exact ⟨0, rfl⟩
    | some v =>
        obtain ⟨e, hfind, rfl⟩ := Option.map_eq_some_iff.mp hlookup
        exact hall e (List.mem_of_find?_eq_some hfind)
  obtain ⟨n, hn⟩ := hnumber
  refine ⟨n, ?_⟩
  unfold debugLevel
  rw [runOn_bind_ok htable, hn]
  rfl

/-- A sound configuration asks for a logger that can be named. -/
theorem runOn_loggerRequest {h : Host} (hsound : h.config.Sound) :
    ∃ r, (loggerRequest {}).runOn h = (.ok r, h) ∧ Fit r ∧
      r.syslog = (!h.config.flag "file_logging" && h.config.flag "syslog_enabled") ∧
      r.address = h.config.get "syslog_address" := by
  obtain ⟨level, hlevel⟩ := runOn_debugLevel hsound.levels GlobalOptions.Slot.timestamps.name
  have htimed : ∃ timed, (timedBy .null).runOn h = (.ok timed, h) := by
    unfold timedBy
    dsimp only
    rw [runOn_bind_ok hlevel]
    exact ⟨_, rfl⟩
  have hstderr : ∃ b, (toStderr h.config).runOn h = (.ok b, h) := by
    obtain ⟨-, n, hn⟩ := hsound.verbosity
    unfold toStderr
    rw [hn]
    split
    · exact ⟨_, rfl⟩
    · split
      · exact ⟨_, rfl⟩
      · exact ⟨_, rfl⟩
  obtain ⟨timed, htimed⟩ := htimed
  obtain ⟨stderr, hstderr⟩ := hstderr
  obtain ⟨-, title, htitle⟩ := hsound.text "tool_name" (by simp [Config.textNames])
  have hname : (loggerTitle h.config).runOn h = (.ok title, h) := by
    unfold loggerTitle
    rw [htitle]
    rfl
  unfold loggerRequest
  rw [runOn_bind_ok htimed, runOn_bind_ok (runOn_read _ _), runOn_bind_ok hstderr,
    runOn_bind_ok hname]
  refine ⟨_, rfl, ⟨(hsound.text "syslog_address" (by simp [Config.textNames])).2,
    (hsound.text "syslog_facility" (by simp [Config.textNames])).2, ?_⟩, rfl, rfl⟩
  dsimp only
  split
  · exact (hsound.optional "logfile" (by simp [Config.optionalNames])).2
  · exact .inl rfl

/-- What getting the logger fails with: a flaw, or the port of the system log. -/
def LoggerFlaw (h : Host) (f : Fault) : Prop :=
  Own f ∨ f = .syslog .portTooLarge ∧ h.config.LogPortTooLarge h.resolver

/-- A logger is set up for a sound configuration that has none, or there is a flaw. -/
theorem comesTo_setUpConfiguredLogger {h : Host} (hsound : h.config.Sound)
    (hmissing : h.config.get Host.loggerVariable = .null) :
    ComesTo (fun v _ => ∃ name, v = .logger name) (LoggerFlaw h) (setUpConfiguredLogger {}) h := by
  obtain ⟨r, hrequest, hfit, hsyslog, haddress⟩ := runOn_loggerRequest hsound
  have hquiet : Quiet (setUpLoggerAsConfigured r) :=
    Keeps.of_respects fun h₀ => respects_setUpLoggerAsConfigured (logsTogether_quiet h₀) r
  unfold setUpConfiguredLogger
  refine .after hrequest ?_
  rcases hsetUp : (setUpLoggerAsConfigured r).runOn h with ⟨outcome, h₁⟩
  cases outcome with
  | error f =>
      refine .of_error (runOn_bind_error hsetUp) ?_
      refine ((hfit.comesTo_setUpLoggerAsConfigured h).error hsetUp).imp_right ?_
      rintro ⟨rfl, hasked, hport⟩
      rw [haddress] at hport
      exact ⟨rfl, hmissing, hsyslog.symm.trans hasked, hport⟩
  | ok name =>
      have hkept := (hquiet h).config "debug_levels" (by decide)
      rw [hsetUp] at hkept
      refine .after hsetUp ?_
      rcases hset : h₁.config.set "_logger" (.logger name) with f | config
      · exact .of_error (runOn_bind_error (runOn_configure_error hset)) (.inl rfl)
      · have hconfigure := runOn_configure_ok hset
        have hlevels : Config.IsLevels (config.get "debug_levels") := by
          rw [Config.get_set hset (by decide), hkept]
          exact hsound.levels
        obtain ⟨level, hlevel⟩ := runOn_debugLevel (h := { h₁ with config }) hlevels
          GlobalOptions.Slot.netTraffic.name
        exact .after hconfigure (.after hlevel (.after (runOn_read _ _)
          (.after (runOn_change _ _) (.of_ok rfl ⟨name, rfl⟩))))

/-- **What asking for the logger of a sound configuration comes to**: a logger, which is kept, or a
flaw, or a port that is too large. -/
theorem comesTo_logger {h : Host} (hsound : h.config.Sound) :
    ComesTo (fun v h' => ∃ name, v = .logger name ∧ h'.config.get Host.loggerVariable = v)
      (LoggerFlaw h) logger h := by
  have hgiven : ComesTo (fun v _ => ∃ name, v = .logger name) (LoggerFlaw h) logger h := by
    rcases hsound.logger with hnone | ⟨name, hname⟩
    · refine .congr (runOn_logger_of_missing ?_) (comesTo_setUpConfiguredLogger hsound hnone)
      rw [show h.config.get Host.loggerVariable = _ from hnone]
      exact Bool.false_ne_true
    · refine .of_ok (runOn_logger_of_there ?_) ⟨name, hname⟩
      rw [show h.config.get Host.loggerVariable = _ from hname]
      rfl
  rcases hrun : logger.runOn h with ⟨r, h'⟩
  cases r with
  | ok v =>
      obtain ⟨name, hname⟩ := hgiven.ok hrun
      exact .of_ok hrun ⟨name, hname, (runOn_logger_ok hrun).1⟩
  | error f => exact .of_error hrun (hgiven.error hrun)

end Action

end OtpRegistrar
