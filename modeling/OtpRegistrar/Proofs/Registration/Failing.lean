/-
What a run fails with.

Each stage of a run takes care of its own kind of failure: what is wrong with the
arguments is explained, so is a password that cannot be read, and so is a connection
that cannot be made.  A failure of another kind is handed on, and unless it is one of
the program's own nothing will take care of it.  `Uncaught` lists these, for machines
on which nothing but the ordinary goes wrong.

The course is the one of `Ending`, and the same invariant is carried along it: the
logger is at hand, and the rest of the run sees the host that the run began on.
-/
import OtpRegistrar.Proofs.Config.Failing
import OtpRegistrar.Proofs.Directory.Passing
import OtpRegistrar.Proofs.Password.Failing
import OtpRegistrar.Proofs.Registration.Ending
import OtpRegistrar.Proofs.Registration.Request
import OtpRegistrar.Proofs.Value.Table

namespace OtpRegistrar

/-- Settings differ from what is said in the port alone. -/
theorem Settings.eq_of_make {said s : Settings} (hmake : Settings.make said = .ok s) :
    s = { said with port := s.port } := by
  unfold Settings.make at hmake
  split at hmake
  · cases hmake
  · split at hmake
    · cases hmake
      rfl
    · cases hmake
      rfl

/-- Nothing but the ordinary goes wrong on the machine: neither the line nor any home directory
holds a NUL, the prompts fail as prompts do, the server as servers do, and the configuration holds
values of the types that are declared. -/
structure Host.Ordinary (h : Host) (line : List Text) : Prop where
  line : CommandLine.NulFree line
  homes : h.homes.NulFree
  prompts : h.Answerable
  server : h.server.Proper
  config : h.config.Sound

namespace Registration

open OtpRegistrar.Action OtpRegistrar.CommandLine

/-- What nothing in a run for the command line takes care of. -/
inductive Uncaught (line : List Text) (h : Host) : Fault → Prop
  /-- The port of the system log is too large to be looked up. -/
  | logPort (hport : h.config.LogPortTooLarge h.resolver) :
      Uncaught line h (.syslog .portTooLarge)
  /-- The configuration names the file of the password to bind with by a path that holds a NUL. -/
  | passwordPath {bound : Bindings} {s : Settings} {path : Text}
      (haccepted : Accepted h line bound s)
      (hpath : h.config.get "ldap_bind_password_file" = .text path) (hnul : ¬path.NulFree) :
      Uncaught line h .nulInPath
  /-- Something passes through the session on the way to it. -/
  | contact {bound : Bindings} {s : Settings} {f : Fault} (haccepted : Accepted h line bound s)
      (hpasses : s.Passes h.server f) : Uncaught line h f
  /-- The result of the request cannot be shown. -/
  | result {bound : Bindings} {s : Settings} {f : Fault} (haccepted : Accepted h line bound s)
      (hunshown : Unshown h.server f) : Uncaught line h f
  /-- The server refuses a step with a code that cannot become a status. -/
  | code {bound : Bindings} {s : Settings} {message : Text} {code : Value}
      (haccepted : Accepted h line bound s)
      (hrefused : s.setback? h.server = some (.refused message code))
      (hcode : ResultCode.exitStatus? code = none) : Uncaught line h (.defect .wrongType)

/-! ### On the way -/

theorem runsTogether_prompts (h₀ : Host) :
    Host.RunsTogether (Itself Host.Prompts h₀) fun e e' => e' = e ∧ e.isPrinted = false :=
  .itself (fun h _ _ => List.suffix_refl h.prompts) (fun h _ => List.suffix_refl h.prompts)
    (fun h _ => List.suffix_refl h.prompts) (fun h _ => List.suffix_refl h.prompts)
    (fun h _ => List.suffix_refl h.prompts) h₀

theorem prompts_logger : Keeps Host.Prompts logger :=
  Keeps.of_respects fun h₀ => respects_runLogger (runsTogether_prompts h₀)

theorem prompts_log (entries : Value) (level : LogLevel) (t : Text) :
    Keeps Host.Prompts (log entries level t) :=
  Keeps.of_respects fun h₀ => respects_entry (runsTogether_prompts h₀) entries level t

theorem prompts_logOtp : Keeps Host.Prompts logOtp := by
  unfold logOtp
  refine Keeps.bind (Keeps.read _) fun bound => ?_
  split
  · unfold logIdentity
    refine Keeps.bind prompts_logger fun entries => Keeps.bind (Keeps.orFail _ _) fun _ => ?_
    exact prompts_log _ _ _
  · exact Keeps.pure _

theorem prompts_called (line : List Text) : Keeps Host.Prompts (called line) :=
  Keeps.of_respects fun h₀ => respects_called (runsTogether_prompts h₀) line

/-- What a run has come to behind the line that it accepts: a logger is at hand, and the rest of the
run sees the host that it began on, with the variables bound. -/
structure Underway (h : Host) (bound : Bindings) (name : Text) (g : Host) : Prop where
  resembles : ({ h with bound } : Host).Resembles g
  logger : g.HasLogger name
  prompts : h.Prompts g

theorem Underway.emits {h g g' : Host} {bound : Bindings} {name : Text} {es : List Event}
    (hg : Underway h bound name g) (hemits : g.Emits es g') (hprompts : g.Prompts g') :
    Underway h bound name g' :=
  ⟨hg.resembles.trans hemits.toResembles, hg.logger.of_emits hemits,
    IsTrans.trans _ _ _ hg.prompts hprompts⟩

theorem comesTo_called {h : Host} (hsound : h.config.Sound) (line : List Text) :
    ComesTo (fun entries h' => ∃ name, entries = .logger name ∧ h'.HasLogger name) (LoggerFlaw h)
      (called line) h := by
  unfold called
  refine ComesTo.bind (comesTo_logger hsound) ?_
  rintro _ h₁ ⟨name, rfl, hname⟩
  have hlogged : ∃ h₂, (logInvocation line).runOn h₁ = (.ok (), h₂) := by
    unfold logInvocation
    rw [runOn_bind_ok (show (configured "log_tool_invocation").runOn h₁ = (.ok _, h₁) from rfl)]
    split
    · rw [runOn_bind_ok (runOn_logger_of_hasLogger hname)]
      exact ⟨_, rfl⟩
    · exact ⟨h₁, rfl⟩
  obtain ⟨h₂, hlogged⟩ := hlogged
  have hquiet := quiet_logInvocation line h₁
  rw [hlogged] at hquiet
  exact .after hlogged (.of_ok rfl ⟨name, rfl, Host.HasLogger.of_emits hname hquiet⟩)

/-! ### Explaining -/

section Explaining

variable {h : Host} {f : Fault} {P : Fault → Prop}

theorem comesTo_explain (hf : f = .helpRequested ∨ ∃ u, f = .usage u) :
    ComesTo (fun _ _ => True) P (explain f) h := by
  rcases hf with rfl | ⟨u, rfl⟩
  · exact .of_ok rfl trivial
  · exact .of_ok rfl trivial

theorem comesTo_explainPassword (which : Text) (hf : Unread f ∨ P f) :
    ComesTo (fun _ _ => True) P (explainPassword which f) h := by
  unfold explainPassword
  split
  · exact .of_ok rfl trivial
  · rename_i hother
    exact .of_error rfl (hf.resolve_left hother)

theorem comesTo_explainConnection (hf : f.isKind .connectionFailed = true ∨ P f) :
    ComesTo (fun _ _ => True) P (explainConnection f) h := by
  unfold explainConnection
  split
  · exact .of_ok rfl trivial
  · rename_i hother
    exact .of_error rfl (hf.resolve_left hother)

theorem comesTo_conclude (name : Text) (operation : DeviceOperation) {result : ExtendedResult}
    (hshown : ∃ t, result.shown = .ok t) :
    ComesTo (fun _ _ => True) P (conclude (.logger name) operation result) h := by
  obtain ⟨t, ht⟩ := hshown
  unfold conclude
  refine .after (runOn_read _ _) ?_
  split
  · exact .of_ok rfl trivial
  · rw [ht]
    exact .of_ok rfl trivial

end Explaining

/-! ### The passwords -/

/-- A source of the password of the user can be chosen; a file is named by the command line. -/
theorem userPassword_ok (bound : Bindings) :
    ∃ source, userPassword bound = .ok source ∧ source ≠ .unsettled ∧
      ∀ path, source = .file path → textArgument bound "user_password_file" = some path :=
  PasswordSource.choose_ok _ _ _ _ PasswordSource.asksAccount_userQuestion

/-- A source of the password to bind with can be chosen; a file is named by the command line or by
the configuration. -/
theorem bindPassword_ok (bound : Bindings) (config : Config) :
    ∃ source, bindPassword bound config = .ok source ∧ source ≠ .unsettled ∧
      ∀ path, source = .file path → textArgument bound "bind_password_file" = some path ∨
        config.get "ldap_bind_password_file" = .text path := by
  have hchosen : ∀ (path : Option Text) (asked : Bool),
      (∀ p, path = some p → textArgument bound "bind_password_file" = some p ∨
        config.get "ldap_bind_password_file" = .text p) →
      ∃ source, PasswordSource.choose (textArgument bound "bind_password") path asked
          (bindDn bound config) PasswordSource.bindQuestion = .ok source ∧ source ≠ .unsettled ∧
        ∀ p, source = .file p → textArgument bound "bind_password_file" = some p ∨
          config.get "ldap_bind_password_file" = .text p := by
    intro path asked hpath
    obtain ⟨source, hsource, hsettled, hfile⟩ := PasswordSource.choose_ok
      (textArgument bound "bind_password") path (bindDn bound config) asked
      PasswordSource.asksAccount_bindQuestion
    exact ⟨source, hsource, hsettled, fun p hp => hpath p (hfile p hp)⟩
  unfold bindPassword
  dsimp only
  split
  · exact hchosen _ _ fun p hp => .inl hp
  · split
    · split
      · exact hchosen _ _ fun p hp => nomatch hp
      · exact hchosen _ _ fun p hp => nomatch hp
      · rename_i configured _ hconfigured
        refine hchosen _ _ fun p hp => .inr ?_
        cases hp
        exact Value.eq_text_of_text? hconfigured
    · exact hchosen _ _ fun p hp => .inl hp

section Reading

variable {h g : Host} {bound : Bindings} {name : Text}

/-- A password is read from a source that is chosen, and the run goes on. -/
theorem comesTo_readCurrent (hg : Underway h bound name g) (hanswerable : h.Answerable)
    {current : Action PasswordSource} {source : PasswordSource} (hsettled : source ≠ .unsettled)
    (hcurrent : current.runOn g = (.ok source, g)) :
    ComesTo (fun password g' =>
        Underway h bound name g' ∧ ∀ bytes, password = some bytes → Spelled bytes)
      (fun f => Unread f ∨ ∃ path, source = .file path ∧ ¬path.NulFree ∧ f = .nulInPath)
      (current >>= readPassword) g := by
  have hread := comesTo_readPassword hsettled (hanswerable.of_prompts hg.prompts)
  have hemits := emits_readPassword source g
  have hprompts := prompts_readPassword source g
  refine .after hcurrent ?_
  rcases hrun : (readPassword source).runOn g with ⟨r, g'⟩
  rw [hrun] at hemits hprompts
  cases r with
  | ok password => exact .of_ok hrun ⟨hg.emits hemits hprompts, hread.ok hrun⟩
  | error f => exact .of_error hrun (hread.error hrun)

theorem comesTo_logOtp (hg : Underway h bound name g) :
    ComesTo (fun _ g' => Underway h bound name g') Own logOtp g := by
  have hlogged : ComesTo (fun _ _ => True) Own logOtp g := by
    unfold logOtp
    refine .after (runOn_read _ _) ?_
    split
    · unfold logIdentity
      refine .after (runOn_logger_of_hasLogger hg.logger) ?_
      exact ComesTo.bind (Q := fun _ _ => True) (.orFail (fun _ _ => trivial) fun e _ => rfl)
        fun entry g' _ => .of_ok rfl trivial
    · exact .of_ok rfl trivial
  refine ((hlogged.keeping quiet_logOtp).keeping prompts_logOtp).mono ?_ fun _ hf => hf
  rintro _ g' ⟨⟨-, hemits⟩, hprompts⟩
  exact hg.emits hemits hprompts

variable {line : List Text} {pieces : List (Piece arguments)}
  (hconsists : Consists h.homes line [] pieces bound) (hordinary : h.Ordinary line)
  (hg : Underway h bound name g)

include hconsists hordinary hg

/-- The password of the user is read, or cannot be read. -/
theorem comesTo_readUserPassword :
    ComesTo (fun _ g' => Underway h bound name g') Unread readUserPassword g := by
  obtain ⟨source, hsource, hsettled, hfile⟩ := userPassword_ok bound
  have hcurrent : currentUserPassword.runOn g = (.ok source, g) := by
    unfold currentUserPassword
    rw [runOn_bind_ok (runOn_read _ _), runOn_orFail, hg.resembles.bound, hsource]
    rfl
  refine (comesTo_readCurrent hg hordinary.prompts hsettled hcurrent).mono (fun _ _ hq => hq.1) ?_
  rintro f (hunread | ⟨path, hpath, hnul, -⟩)
  · exact hunread
  · exact absurd (hconsists.nulFree hordinary.line hordinary.homes (by decide) (hfile path hpath))
      hnul

/-- The password to bind with is read, or cannot be read, or is in a file that the configuration
names by a path with a NUL. -/
theorem comesTo_readBindPassword :
    ComesTo (fun password g' =>
        Underway h bound name g' ∧ ∀ bytes, password = some bytes → Spelled bytes)
      (fun f => Unread f ∨ ∃ path, h.config.get "ldap_bind_password_file" = .text path ∧
        ¬path.NulFree ∧ f = .nulInPath) readBindPassword g := by
  obtain ⟨source, hsource, hsettled, hfile⟩ := bindPassword_ok bound h.config
  have hcurrent : currentBindPassword.runOn g = (.ok source, g) := by
    unfold currentBindPassword
    rw [runOn_bind_ok (runOn_read _ _), runOn_orFail]
    dsimp only [id]
    rw [hg.resembles.bound, bindPassword_congr hg.resembles.config, hsource]
    rfl
  refine (comesTo_readCurrent hg hordinary.prompts hsettled hcurrent).mono (fun _ _ hq => hq) ?_
  rintro f (hunread | ⟨path, hpath, hnul, rfl⟩)
  · exact .inl hunread
  · rcases hfile path hpath with hgiven | hconfigured
    · exact absurd (hconsists.nulFree hordinary.line hordinary.homes (by decide) hgiven) hnul
    · exact .inr ⟨path, hconfigured, hnul, rfl⟩

end Reading

/-! ### The request -/

/-- The exchange leaves closing to its session. -/
theorem leavesClosing_exchange (bound : Bindings) (password : Option (List UInt8)) :
    LeavesClosing (exchange bound password) := by
  refine ⟨fun h => ?_, fun h name hname => ?_⟩
  · obtain ⟨es, hemits, rfl | ⟨oid, value, rfl⟩⟩ := emits_exchange bound password h
    · exact hemits.closings
    · exact hemits.closings
  · obtain ⟨es, hemits, -⟩ := emits_exchange bound password h
    exact ⟨name, hname.of_emits hemits⟩

/-- What an argument with a value is bound to counts as a text before the configuration. -/
theorem valueOr_cases {homes : Homes} {line : List Text} {bound : Bindings}
    {pieces : List (Piece arguments)} (hconsists : Consists homes line [] pieces bound)
    (name : Text) (hvalued : ∀ a ∈ arguments, a.variableName = name → a.flag = none)
    (config : Config) (variable_ : Text) :
    (∃ t, valueOr bound config name variable_ = .text t) ∨
      valueOr bound config name variable_ = config.get variable_ := by
  unfold valueOr
  cases hbound : bound.get? name with
  | none => exact .inr rfl
  | some v =>
      rw [hconsists.get?_eq] at hbound
      obtain ⟨p, hfind, rfl⟩ := Option.map_eq_some_iff.mp hbound
      have hname : p.name = name := by simpa using List.find?_some hfind
      obtain ⟨t, -, hvalue⟩ := Piece.value_of_flag_none homes (hvalued _ p.argument_mem hname)
      exact .inl ⟨_, hvalue⟩

section Accepted

variable {h g : Host} {line : List Text} {bound : Bindings} {s : Settings} {name : Text}
  (hordinary : h.Ordinary line) (haccepted : Accepted h line bound s)

include hordinary haccepted

/-- What a line is accepted with can be used to connect. -/
theorem usable_of_accepted {password : Option (List UInt8)}
    (hspelled : ∀ bytes, password = some bytes → Spelled bytes) :
    ({ s with bindPassword := (password.map Value.bytes).getD .null } : Settings).Usable := by
  obtain ⟨pieces, hconsists⟩ := consists_of_read haccepted.read
  obtain ⟨port, timeout, hmake⟩ := made_of_settled haccepted.settled
  have hsame := Settings.eq_of_make hmake
  refine ⟨?_, ?_, ?_⟩
  · rw [hsame]
    rcases valueOr_cases hconsists "hostname" (by decide) h.config "ldap_host" with
      hgiven | hconfigured
    · exact hgiven
    · obtain ⟨-, t, ht⟩ := hordinary.config.text "ldap_host" (by simp [Config.textNames])
      exact ⟨t, hconfigured.trans ht⟩
  · rw [hsame]
    rcases valueOr_cases hconsists "ca_cert_file" (by decide) h.config "ldap_ca_cert" with
      hgiven | hconfigured
    · exact .inr hgiven
    · obtain ⟨-, hheld⟩ := hordinary.config.optional "ldap_ca_cert" (by simp [Config.optionalNames])
      rw [← hconfigured] at hheld
      exact hheld
  · cases password with
    | none => exact .inl rfl
    | some bytes => exact .inr ⟨bytes, rfl, hspelled bytes rfl⟩

theorem comesTo_exchange (password : Option (List UInt8)) (hname : g.HasLogger name)
    (hserver : g.server = h.server) :
    ComesTo (fun answered _ => ∃ t, answered.2.shown = .ok t) (Unshown h.server)
      (exchange bound password) g := by
  obtain ⟨pieces, hconsists⟩ := consists_of_read haccepted.read
  obtain ⟨r, hmake, hvalue⟩ := value_of_check hconsists haccepted.checked password
  have hproper : g.server.Proper := hserver ▸ hordinary.server
  have hsubmit := comesTo_submit hvalue hname hproper
  rw [hserver] at hsubmit
  have hmade : (orFail (DeviceRequest.make (authId bound) password (otp bound)
      (deregisters bound)) Fault.request).runOn g = (.ok r, g) := by
    rw [runOn_orFail, hmake]
    rfl
  unfold exchange
  refine .after hmade ?_
  exact hsubmit.bind fun result g' hshown => .of_ok rfl hshown

section Underway

variable (hg : Underway h bound name g)

include hg

/-- **What the request of a run comes to**: its result, unless there is no connection or something
passes through. -/
theorem comesTo_request (password : Option (List UInt8)) {bindPassword : Option (List UInt8)}
    (hspelled : ∀ bytes, bindPassword = some bytes → Spelled bytes) :
    ComesTo (fun answered _ => ∃ t, answered.2.shown = .ok t)
      (fun f => f.isKind .connectionFailed = true ∨ Uncaught line h f)
      (request { s with bindPassword := (bindPassword.map Value.bytes).getD .null } password)
      g := by
  have hserver : g.server = h.server := hg.resembles.server
  have hsession := comesTo_session (P := Unshown h.server)
    (usable_of_accepted hordinary haccepted hspelled) hg.logger (hserver ▸ hordinary.server)
    (leavesClosing_exchange bound password)
    (fun g' => by
      obtain ⟨es, hemits, -⟩ := emits_exchange bound password g'
      exact hemits.server)
    fun g' hname hsame =>
      comesTo_exchange hordinary haccepted password hname (hsame.trans hserver)
  refine .congr (runOn_request _ _ _) ?_
  rw [show g.bound = bound from hg.resembles.bound]
  refine hsession.mono (fun _ _ hq => hq) ?_
  rintro f (hconnection | hpasses | hunshown)
  · exact .inl hconnection
  · -- the password to bind with does not matter for what passes through
    refine .inr (.contact haccepted ?_)
    rw [hserver] at hpasses
    cases hpasses with
    | port hhost hresolve => exact .port hhost hresolve
    | making hraised hother => exact .making hraised hother
  · exact .inr (.result haccepted hunshown)

theorem comesTo_perform (password : Option (List UInt8)) {bindPassword : Option (List UInt8)}
    (hspelled : ∀ bytes, bindPassword = some bytes → Spelled bytes) :
    ComesTo (fun _ _ => True) (Uncaught line h)
      (perform (.logger name)
        { s with bindPassword := (bindPassword.map Value.bytes).getD .null } password) g := by
  unfold perform
  refine ComesTo.attempt_bind (comesTo_request hordinary haccepted hg password hspelled)
    (fun answered g' hshown => ?_) fun f g' hf => ?_
  · exact comesTo_conclude name answered.1 hshown
  · exact comesTo_explainConnection hf

/-- **What a run comes to behind the line that it accepts.** -/
theorem comesTo_proceed :
    ComesTo (fun _ _ => True) (fun f => Own f ∨ Uncaught line h f)
      (proceed (.logger name) s) g := by
  obtain ⟨pieces, hconsists⟩ := consists_of_read haccepted.read
  show ComesTo _ _ (attempt readUserPassword >>= _) g
  refine ComesTo.attempt_bind (comesTo_readUserPassword hconsists hordinary hg)
    (fun password g₁ hg₁ => ?_) fun f g₁ hf => comesTo_explainPassword _ (.inl hf)
  show ComesTo _ _ (attempt readBindPassword >>= _) g₁
  refine ComesTo.attempt_bind (comesTo_readBindPassword hconsists hordinary hg₁) ?_ ?_
  · rintro bindPassword g₂ ⟨hg₂, hspelled⟩
    refine ComesTo.bind ((comesTo_logOtp hg₂).mono (fun _ _ hq => hq)
      fun _ hf => .inl hf) fun _ g₃ hg₃ => ?_
    exact (comesTo_perform hordinary haccepted hg₃ password hspelled).mono (fun _ _ hq => hq)
      fun _ hf => .inr hf
  · intro f g₂ hf
    refine comesTo_explainPassword _ (hf.imp_right ?_)
    rintro ⟨path, hpath, hnul, rfl⟩
    exact .inr (.passwordPath haccepted hpath hnul)

end Underway

end Accepted

/-! ### The run -/

/-- The code to which a run comes can become a status, unless it is one with which the server
refuses a step. -/
theorem Ending.uncaught {line : List Text} {h h' : Host} {code : Value}
    (hproper : h.server.Proper) (hending : Ending line h h' code)
    (hcode : ResultCode.exitStatus? code = none) : Uncaught line h (.defect .wrongType) := by
  cases hending with
  | help => cases hcode
  | argument => cases hcode
  | password => cases hcode
  | success => cases hcode
  | failure _ _ hanswer =>
      obtain ⟨n, hn⟩ := hproper.code_of_answers hanswer
      rw [hn] at hcode
      cases hcode
  | connection haccepted hfailed hkind =>
      cases hfailed with
      | refused message => cases hcode
      | raised hr =>
          rw [hproper.isKind_raised hr] at hkind
          cases hkind
      | @setback b hb =>
          cases b with
          | refused message code => exact .code haccepted hb hcode
          | raised r =>
              rw [Setback.fault_raised (hproper.not_escapes hb)] at hcode
              cases hcode

/-- An outcome without a status is one for a code that cannot become a status. -/
theorem Outcome.exitStatus_ofCode_error {code : Value} {d : Defect}
    (hstatus : (Outcome.ofCode code).exitStatus = .error d) :
    d = .wrongType ∧ ResultCode.exitStatus? code = none := by
  unfold exitStatus at hstatus
  split at hstatus
  · cases hstatus
  · rename_i hnone
    cases hstatus
    refine ⟨rfl, ?_⟩
    unfold ofCode at hnone
    split at hnone
    · cases hnone
    · exact hnone

/-- **What a run comes to on an ordinary machine**: to an outcome with a status, or to a failure of
the program's own, or to one of those that nothing takes care of. -/
theorem comesTo_run {h : Host} {line : List Text} (hordinary : h.Ordinary line) :
    ComesTo (fun outcome _ => ∀ d, outcome.exitStatus = .error d → Uncaught line h (.defect d))
      (fun f => Own f ∨ Uncaught line h f) (run line) h := by
  have hcomes : ComesTo (fun _ _ => True) (fun f => Own f ∨ Uncaught line h f) (run line) h := by
    rw [run_eq]
    unfold judged
    rw [bind_assoc]
    have hcalled := ((comesTo_called hordinary.config line).keeping (quiet_called line)).keeping
      (prompts_called line)
    refine ComesTo.bind (hcalled.mono (fun _ _ hq => hq) ?_) ?_
    · rintro f (hown | ⟨rfl, hport⟩)
      · exact .inl hown
      · exact .inr (.logPort hport)
    rintro _ h₁ ⟨⟨⟨name, rfl, hname⟩, hquiet⟩, hprompts⟩
    obtain ⟨r, hread, hright, hwrong⟩ := runOn_readArguments line h₁
    rw [bind_assoc]
    refine .after (x := r) (by rw [runOn_attempt, hread]) (.after rfl ?_)
    cases r with
    | error f =>
        refine comesTo_explain ?_
        rcases hwrong f rfl with ⟨rfl, -⟩ | husage | ⟨-, hnul⟩
        · exact .inl rfl
        · exact .inr husage
        · exact absurd hnul (scan_ne_nulInPath _ _ _ hordinary.line)
    | ok s =>
        have haccepted := (hright s rfl).of_resembles hquiet.toResembles
        refine comesTo_proceed hordinary haccepted ⟨?_, hname, hprompts⟩
        exact ⟨hquiet.server, hquiet.homes, rfl, hquiet.config⟩
  have hends := run_ends line h
  rcases hrun : (run line).runOn h with ⟨r, h'⟩
  rw [hrun] at hends
  cases r with
  | error f => exact .of_error hrun (hcomes.error hrun)
  | ok outcome =>
      obtain ⟨code, rfl, hending⟩ := hends
      refine .of_ok hrun fun d hd => ?_
      obtain ⟨rfl, hcode⟩ := Outcome.exitStatus_ofCode_error hd
      exact hending.uncaught hordinary.server hcode

end Registration

end OtpRegistrar
