/-
The stages of a run.

A run gets through four stages: the command line is accepted, the password of the
user is read, the password to bind with is read, and the session stands.  Each
stage is an action of its own here, made of the same parts as the run and failing
where the run would turn to explaining what went wrong.  "The user password was
read" is then that an action succeeds, on the host that the run began with.

What each stage emits is known from its result.  Up to the first password that is
nothing at all, and the passwords emit what their sources ask for.
-/
import OtpRegistrar.Registration.Run
import OtpRegistrar.Proofs.Directory.Parallel

namespace OtpRegistrar

/-! ### Passwords -/

/-- What reading a password from its source does outward. -/
def PasswordSource.asks : PasswordSource → List Event
  | .file path => [.passwordFileRead path]
  | .prompt _ question => [.prompted question]
  | .none | .inline _ | .unsettled => []

namespace Action

/-- Reading a password does what its source asks for, whether or not there is a password in the
end. -/
theorem emits_readPassword (source : PasswordSource) (h : Host) :
    h.Emits source.asks ((readPassword source).runOn h).2 := by
  unfold readPassword
  cases source with
  | none => exact Host.Emits.refl h
  | inline t => exact Keeps.map (R := fun h h' => h.Emits [] h') (Keeps.orFail _ _) _ h
  | unsettled => exact Host.Emits.refl h
  | file path =>
      dsimp only
      rw [runOn_map]
      unfold readPasswordFile
      rw [runOn_ofFunction]
      dsimp only
      split
      · exact h.emits_outward rfl
      · split
        · exact h.emits_outward rfl
        · exact h.emits_outward rfl
  | prompt account question =>
      dsimp only
      rw [runOn_map]
      unfold readPrompt
      rw [runOn_attempt_bind]
      have hasked : h.Emits [.prompted question] ((ask question).runOn h).2 := by
        have hnote := h.emits_outward (e := .prompted question) rfl
        unfold ask
        rw [runOn_ofFunction]
        dsimp only
        split
        · exact hnote
        · exact hnote.before (Host.emits_nothing rfl rfl rfl rfl rfl)
        · exact hnote.before (Host.emits_nothing rfl rfl rfl rfl rfl)
      refine hasked.before ?_
      split
      · exact Host.Emits.refl _
      · split <;> exact Host.Emits.refl _

end Action

namespace Registration

open OtpRegistrar.Action

/-! ### Acceptance -/

/-- The command line is accepted on the host: it can be read, keeps the constraints and the checks
of the command, and what it binds comes to settings of the connection. -/
structure Accepted (h : Host) (line : List Text) (bound : Bindings) (s : Settings) : Prop where
  read : CommandLine.read h.homes arguments line = (bound, .ok ())
  constrained : Constraint.checkAll arguments bound constraints = .ok ()
  checked : check bound = .ok ()
  settled : settings bound h.config .null = .ok s

section Configuration

variable {config config' : Config}
  (hsame : ∀ name, name ≠ Host.loggerVariable → config'.get name = config.get name)

include hsame

theorem bindDn_congr (bound : Bindings) : bindDn bound config' = bindDn bound config := by
  unfold bindDn Config.text?
  rw [hsame _ (by decide)]

/-- The settings of the connection do not depend on the logger. -/
theorem settings_congr (bound : Bindings) (password : Value) :
    settings bound config' password = settings bound config password := by
  unfold settings saidSettings valueOr switchOf
  rw [bindDn_congr hsame]
  simp (disch := decide) only [hsame]

/-- The source of the password to bind with does not depend on the logger. -/
theorem bindPassword_congr (bound : Bindings) :
    bindPassword bound config' = bindPassword bound config := by
  unfold bindPassword Config.text?
  rw [bindDn_congr hsame, hsame _ (by decide)]

end Configuration

/-- Settings of the connection are made of what is said about it. -/
theorem made_of_settled {bound : Bindings} {config : Config} {password : Value} {s : Settings}
    (hsettled : settings bound config password = .ok s) :
    ∃ port timeout, Settings.make (saidSettings bound config password port timeout) = .ok s := by
  unfold settings at hsettled
  split at hsettled
  · cases hsettled
  · rename_i port _
    split at hsettled
    · cases hsettled
    · rename_i timeout _
      split at hsettled
      · cases hsettled
      · rename_i hmake
        cases hsettled
        exact ⟨port, timeout, hmake⟩

/-- What is left of accepting a command line once it has been read. -/
def acceptance : Action Settings := do
  let bound ← read (·.bound)
  orFail (Constraint.checkAll arguments bound constraints) .usage
  orFail (check bound) .usage
  currentSettings .null

theorem runOn_readArguments_of_read {line : List Text} {h : Host} {bound : Bindings}
    (hread : CommandLine.read h.homes arguments line = (bound, .ok ())) :
    (readArguments line >>= fun _ => currentSettings .null).runOn h =
      acceptance.runOn { h with bound } := by
  have hline : (readLine line).runOn h = (.ok (), { h with bound }) := by
    unfold readLine
    rw [runOn_ofFunction, hread]
    rfl
  unfold readArguments acceptance
  rw [bind_assoc, runOn_bind_ok hline, bind_assoc]
  simp only [bind_assoc]

/-- What a line binds is accepted, or something is wrong with the arguments. -/
theorem runOn_acceptance (h : Host) :
    (∃ u, acceptance.runOn h = (.error (.usage u), h)) ∨
    ∃ s, acceptance.runOn h = (.ok s, h) ∧
      Constraint.checkAll arguments h.bound constraints = .ok () ∧ check h.bound = .ok () ∧
      settings h.bound h.config .null = .ok s := by
  unfold acceptance currentSettings
  rw [runOn_bind_ok (runOn_read _ _), runOn_bind, runOn_orFail]
  cases hconstrained : Constraint.checkAll arguments h.bound constraints with
  | error u => exact .inl ⟨u, rfl⟩
  | ok _ =>
  dsimp only [Except.mapError]
  rw [runOn_bind, runOn_orFail]
  cases hchecked : check h.bound with
  | error u => exact .inl ⟨u, rfl⟩
  | ok _ =>
  dsimp only [Except.mapError]
  rw [runOn_bind_ok (runOn_read _ _), runOn_orFail]
  dsimp only [id]
  cases hsettled : settings h.bound h.config .null with
  | error u => exact .inl ⟨u, rfl⟩
  | ok s => exact .inr ⟨s, rfl, rfl, rfl, rfl⟩

/-- Reading and checking a command line binds its variables, and leaves the host as it is
otherwise. It fails because help is asked for, or because something is wrong with the arguments or
with a path among them. -/
theorem runOn_readArguments (line : List Text) (h : Host) :
    ∃ r, (readArguments line >>= fun _ => currentSettings .null).runOn h =
        (r, { h with bound := (CommandLine.read h.homes arguments line).1 }) ∧
      (∀ s, r = .ok s → Accepted h line (CommandLine.read h.homes arguments line).1 s) ∧
      ∀ f, r = .error f →
        f = .helpRequested ∧ (CommandLine.read h.homes arguments line).2 = .error .helpRequested ∨
        (∃ u, f = .usage u) ∨
        f = .nulInPath ∧ (CommandLine.read h.homes arguments line).2 = .error .nulInPath := by
  rcases hread : CommandLine.read h.homes arguments line with ⟨bound, outcome⟩
  have hstopped : ∀ f, (readLine line).runOn h = (.error f, { h with bound }) →
      (readArguments line >>= fun _ => currentSettings .null).runOn h =
        (.error f, { h with bound }) := by
    intro f hline
    unfold readArguments
    rw [bind_assoc]
    exact runOn_bind_error hline
  unfold readLine at hstopped
  rw [runOn_ofFunction, hread] at hstopped
  cases outcome with
  | error stop =>
      cases stop with
      | helpRequested =>
          refine ⟨_, hstopped _ rfl, fun s hs => (nomatch hs), fun f hf => ?_⟩
          cases hf
          exact .inl ⟨rfl, rfl⟩
      | usage u =>
          refine ⟨_, hstopped _ rfl, fun s hs => (nomatch hs), fun f hf => ?_⟩
          cases hf
          exact .inr (.inl ⟨u, rfl⟩)
      | nulInPath =>
          refine ⟨_, hstopped _ rfl, fun s hs => (nomatch hs), fun f hf => ?_⟩
          cases hf
          exact .inr (.inr ⟨rfl, rfl⟩)
  | ok _ =>
      rw [runOn_readArguments_of_read hread]
      rcases runOn_acceptance { h with bound } with
        ⟨u, hrun⟩ | ⟨s, hrun, hconstrained, hchecked, hs⟩
      · refine ⟨_, hrun, fun s hs => (nomatch hs), fun f hf => ?_⟩
        cases hf
        exact .inr (.inl ⟨u, rfl⟩)
      · refine ⟨_, hrun, fun s' hs' => ?_, fun f hf => nomatch hf⟩
        cases hs'
        exact ⟨hread, hconstrained, hchecked, hs⟩

/-! ### The stages -/

/-- The logger is had, the call is logged, and the command line is accepted. -/
def prepared (line : List Text) : Action (Value × Settings) := do
  let entries ← logger
  logInvocation line
  let s ← readArguments line >>= fun _ => currentSettings .null
  return (entries, s)

/-- The logger is had, and the call is logged. -/
def called (line : List Text) : Action Value := do
  let entries ← logger
  logInvocation line
  return entries

/-- The command line is accepted, or there is something wrong with it. -/
def judged (line : List Text) : Action (Value × Except Fault Settings) := do
  let entries ← called line
  let outcome ← attempt (readArguments line >>= fun _ => currentSettings .null)
  return (entries, outcome)

theorem prepared_eq (line : List Text) :
    prepared line = called line >>= fun entries =>
      (readArguments line >>= fun _ => currentSettings .null) >>= fun s => pure (entries, s) := by
  unfold prepared called
  simp only [bind_assoc, pure_bind]

theorem prepared_of_judged {line : List Text} {h g : Host} {entries : Value} {s : Settings}
    (hjudged : (judged line).runOn h = (.ok (entries, .ok s), g)) :
    (prepared line).runOn h = (.ok (entries, s), g) := by
  obtain ⟨entries', h₁, hcalled, hrest⟩ := runOn_bind_inv hjudged
  rw [runOn_attempt_bind] at hrest
  rcases haccepted : (readArguments line >>= fun _ => currentSettings .null).runOn h₁ with ⟨r, h₂⟩
  rw [haccepted] at hrest
  cases hrest
  rw [prepared_eq, runOn_bind_ok hcalled, runOn_bind_ok haccepted]
  rfl

theorem run_eq (line : List Text) :
    run line = judged line >>= fun (entries, outcome) =>
      match outcome with
      | .error f => explain f
      | .ok s => proceed entries s := by
  unfold run judged called
  rw [bind_assoc, bind_assoc]
  refine bind_congr fun entries => ?_
  rw [bind_assoc]
  refine bind_congr fun _ => ?_
  rw [pure_bind, bind_assoc]
  refine bind_congr fun outcome => ?_
  cases outcome with
  | error f => exact (pure_bind _ _).symm
  | ok s => exact (pure_bind _ _).symm

/-- A command line that can be read is accepted or not by what it binds. -/
theorem runOn_judged {line : List Text} {h g : Host} {entries : Value} {bound : Bindings}
    (hcalled : (called line).runOn h = (.ok entries, g))
    (hread : CommandLine.read g.homes arguments line = (bound, .ok ())) :
    (judged line).runOn h = (.ok (entries, (acceptance.runOn { g with bound }).1),
      (acceptance.runOn { g with bound }).2) := by
  unfold judged
  rw [runOn_bind_ok hcalled, runOn_attempt_bind, runOn_readArguments_of_read hread]
  rfl

/-- The password of the user is read from its source. -/
def readUserPassword : Action (Option (List UInt8)) := do readPassword (← currentUserPassword)

/-- The password to bind with is read from its source. -/
def readBindPassword : Action (Option (List UInt8)) := do readPassword (← currentBindPassword)

/-- Reading a password begins with choosing its source; if there is none to choose, nothing has
happened. -/
theorem runOn_readCurrent {current : Action PasswordSource}
    {source : Except Template.Flaw PasswordSource} {h : Host}
    (hcurrent : current.runOn h = (source.mapError .template, h)) :
    (∃ f, (current >>= readPassword).runOn h = (.error f, h)) ∨
    ∃ chosen, source = .ok chosen ∧
      (current >>= readPassword).runOn h = (readPassword chosen).runOn h := by
  rw [runOn_bind, hcurrent]
  cases source with
  | error e => exact .inl ⟨_, rfl⟩
  | ok chosen => exact .inr ⟨chosen, rfl, rfl⟩

theorem runOn_readUserPassword (h : Host) :
    (∃ f, readUserPassword.runOn h = (.error f, h)) ∨
    ∃ chosen, userPassword h.bound = .ok chosen ∧
      readUserPassword.runOn h = (readPassword chosen).runOn h := by
  refine runOn_readCurrent ?_
  unfold currentUserPassword
  rw [runOn_bind_ok (runOn_read _ _), runOn_orFail]

theorem runOn_readBindPassword (h : Host) :
    (∃ f, readBindPassword.runOn h = (.error f, h)) ∨
    ∃ chosen, bindPassword h.bound h.config = .ok chosen ∧
      readBindPassword.runOn h = (readPassword chosen).runOn h := by
  refine runOn_readCurrent ?_
  unfold currentBindPassword
  rw [runOn_bind_ok (runOn_read _ _), runOn_orFail]
  rfl

/-- A run up to the point where the password of the user has been read. -/
def userPasswordRead (line : List Text) : Action (Option (List UInt8)) := do
  let _ ← prepared line
  readUserPassword

/-- A run up to the point where both passwords have been read; the settings hold the one to bind
with. -/
def bothPasswordsRead (line : List Text) : Action (Option (List UInt8) × Settings) := do
  let (_, s) ← prepared line
  let password ← readUserPassword
  let bindPassword ← readBindPassword
  return (password, { s with bindPassword := (bindPassword.map Value.bytes).getD .null })

/-- A run up to the point where the session stands. -/
def connected (line : List Text) : Action (Option (List UInt8)) := do
  let (password, s) ← bothPasswordsRead line
  logOtp
  connect s
  return password

/-- What a run does inside its session. -/
def exchange (bound : Bindings) (password : Option (List UInt8)) :
    Action (DeviceOperation × ExtendedResult) := do
  let r ←
    orFail (DeviceRequest.make (authId bound) password (otp bound) (deregisters bound)) .request
  let result ← submit r
  return (r.operation, result)

/-- The request of a run is one session. -/
theorem runOn_request (s : Settings) (password : Option (List UInt8)) (h : Host) :
    (request s password).runOn h = (session s (exchange h.bound password)).runOn h :=
  runOn_bind_ok (runOn_read _ _)

/-- Inside the session a request is submitted, unless there is none to make. -/
theorem runOn_exchange (bound : Bindings) (password : Option (List UInt8)) (h : Host) :
    (∃ e, DeviceRequest.make (authId bound) password (otp bound) (deregisters bound) = .error e ∧
      (exchange bound password).runOn h = (.error (.request e), h)) ∨
    ∃ r, DeviceRequest.make (authId bound) password (otp bound) (deregisters bound) = .ok r ∧
      (exchange bound password).runOn h = (((submit r).runOn h).1.map fun result =>
        (r.operation, result), ((submit r).runOn h).2) := by
  unfold exchange
  rw [runOn_bind, runOn_orFail]
  cases DeviceRequest.make (authId bound) password (otp bound) (deregisters bound) with
  | error e => exact .inl ⟨e, rfl, rfl⟩
  | ok r =>
      refine .inr ⟨r, rfl, ?_⟩
      dsimp only [Except.mapError]
      rw [← runOn_map, map_eq_pure_bind]

theorem quiet_logInvocation (line : List Text) : Quiet (logInvocation line) := by
  unfold logInvocation
  refine Keeps.bind (Keeps.configured _) fun v => Keeps.ite ?_ (Keeps.pure _)
  exact Keeps.bind quiet_logger fun entries => quiet_log _ _ _

theorem quiet_called (line : List Text) : Quiet (called line) :=
  Keeps.bind quiet_logger fun _ => Keeps.bind (quiet_logInvocation line) fun _ => Keeps.pure _

section

variable {S : Host → Host → Prop} {E : Event → Event → Prop}

theorem respects_logInvocation (hS : Host.RunsTogether S E) (line : List Text) :
    Respects S (logInvocation line) := by
  unfold logInvocation
  refine Agree.bind_eq (respects_configured hS.toLogsTogether _) fun wanted => ?_
  refine Agree.ite ?_ (Agree.pure rfl)
  exact Agree.bind_eq (respects_runLogger hS) fun entries => respects_entry hS _ _ _

theorem respects_called (hS : Host.RunsTogether S E) (line : List Text) :
    Respects S (called line) := by
  refine Agree.bind_eq (respects_runLogger hS) fun entries => ?_
  exact Agree.bind_eq (respects_logInvocation hS line) fun _ => Agree.pure rfl

end

/-- What is wrong with a command line is told to the user alone. -/
theorem quiet_explain (f : Fault) : Quiet (explain f) := by
  unfold explain
  refine Keeps.ite ?_ (Keeps.ite ?_ (Keeps.fail _))
  · exact Keeps.bind (quiet_say _) fun _ => Keeps.pure _
  · exact Keeps.bind (quiet_complain _) fun _ => Keeps.bind (quiet_complain _) fun _ =>
      Keeps.pure _

theorem Accepted.of_resembles {h h' : Host} {line : List Text} {bound : Bindings} {s : Settings}
    (hsame : h.Resembles h') (haccepted : Accepted h' line bound s) : Accepted h line bound s where
  read := by rw [← hsame.homes]; exact haccepted.read
  constrained := haccepted.constrained
  checked := haccepted.checked
  settled := by rw [← settings_congr hsame.config]; exact haccepted.settled

/-- **Nothing is emitted before a command line is accepted.** A run that is not prepared emits
nothing at all, and a run that is goes on from there with the variables bound. -/
theorem runOn_prepared (line : List Text) (h : Host) :
    (∃ f h', (prepared line).runOn h = (.error f, h') ∧
      ((run line).runOn h).2.outward = h.outward) ∨
    ∃ entries s bound h', (prepared line).runOn h = (.ok (entries, s), h') ∧
      (run line).runOn h = (proceed entries s).runOn h' ∧
      Accepted h line bound s ∧ ({ h with bound } : Host).Emits [] h' := by
  unfold prepared run
  have hlogger := quiet_logger h
  rw [runOn_bind, runOn_bind]
  rcases hgiven : logger.runOn h with ⟨r, h₁⟩
  rw [hgiven] at hlogger
  cases r with
  | error f => exact .inl ⟨f, h₁, rfl, by rw [hlogger.outward, List.append_nil]⟩
  | ok entries =>
  have hentry := quiet_logInvocation line h₁
  dsimp only
  rw [runOn_bind, runOn_bind]
  rcases hlogged : (logInvocation line).runOn h₁ with ⟨r, h₂⟩
  rw [hlogged] at hentry
  have hquiet : h.Emits [] h₂ := hlogger.after hentry
  cases r with
  | error f => exact .inl ⟨f, h₂, rfl, by rw [hquiet.outward, List.append_nil]⟩
  | ok _ =>
  obtain ⟨r, hread, haccepted, -⟩ := runOn_readArguments line h₂
  dsimp only
  rw [runOn_bind, runOn_attempt_bind, hread]
  cases r with
  | error f =>
      refine .inl ⟨f, _, rfl, ?_⟩
      rw [(quiet_explain f _).outward, List.append_nil]
      show h₂.outward = h.outward
      rw [hquiet.outward, List.append_nil]
  | ok s =>
      have hbound := (haccepted s rfl).of_resembles hquiet.toResembles
      refine .inr ⟨entries, s, _, _, rfl, rfl, hbound, ?_⟩
      exact ⟨⟨hquiet.server, hquiet.homes, rfl, hquiet.config⟩, hquiet.outward, hquiet.logger⟩

/-- What is known once the command line has been accepted. -/
theorem prepared_ok {line : List Text} {entries : Value} {s : Settings} {h h' : Host}
    (hprepared : (prepared line).runOn h = (.ok (entries, s), h')) :
    (run line).runOn h = (proceed entries s).runOn h' ∧
      ∃ bound, Accepted h line bound s ∧ ({ h with bound } : Host).Emits [] h' := by
  rcases runOn_prepared line h with ⟨f, h₁, hfail, -⟩ | ⟨entries', s', bound, h₁, hok, hrun, hrest⟩
  · rw [hprepared] at hfail
    cases hfail
  · rw [hprepared] at hok
    cases hok
    exact ⟨hrun, bound, hrest⟩

/-! ### Behind the command line -/

section Proceeding

variable {line : List Text} {entries : Value} {s : Settings} {h h₁ h₂ : Host} {f : Fault}
  {password bindPassword : Option (List UInt8)}

theorem runOn_proceed_of_user_error (huser : readUserPassword.runOn h = (.error f, h₁)) :
    (proceed entries s).runOn h = (explainPassword "user" f).runOn h₁ := by
  show (attempt readUserPassword >>= _).runOn h = _
  rw [runOn_attempt_bind, huser]

theorem runOn_proceed_of_bind_error (huser : readUserPassword.runOn h = (.ok password, h₁))
    (hbind : readBindPassword.runOn h₁ = (.error f, h₂)) :
    (proceed entries s).runOn h = (explainPassword "bind" f).runOn h₂ := by
  show (attempt readUserPassword >>= _).runOn h = _
  rw [runOn_attempt_bind, huser]
  show (attempt readBindPassword >>= _).runOn h₁ = _
  rw [runOn_attempt_bind, hbind]

/-- Once both passwords have been read the server is contacted. -/
theorem runOn_proceed_of_both (huser : readUserPassword.runOn h = (.ok password, h₁))
    (hbind : readBindPassword.runOn h₁ = (.ok bindPassword, h₂)) :
    (proceed entries s).runOn h = (logOtp >>= fun _ => perform entries
      { s with bindPassword := (bindPassword.map Value.bytes).getD .null } password).runOn h₂ := by
  show (attempt readUserPassword >>= _).runOn h = _
  rw [runOn_attempt_bind, huser]
  show (attempt readBindPassword >>= _).runOn h₁ = _
  rw [runOn_attempt_bind, hbind]

theorem runOn_userPasswordRead {h₀ : Host}
    (hprepared : (prepared line).runOn h₀ = (.ok (entries, s), h))
    (huser : readUserPassword.runOn h = (.ok password, h₁)) :
    (userPasswordRead line).runOn h₀ = (.ok password, h₁) := by
  unfold userPasswordRead
  rw [runOn_bind_ok hprepared, huser]

theorem runOn_bothPasswordsRead {h₀ : Host}
    (hprepared : (prepared line).runOn h₀ = (.ok (entries, s), h))
    (huser : readUserPassword.runOn h = (.ok password, h₁))
    (hbind : readBindPassword.runOn h₁ = (.ok bindPassword, h₂)) :
    (bothPasswordsRead line).runOn h₀ =
      (.ok (password, { s with bindPassword := (bindPassword.map Value.bytes).getD .null }),
        h₂) := by
  unfold bothPasswordsRead
  rw [runOn_bind_ok hprepared]
  dsimp only
  rw [runOn_bind_ok huser, runOn_bind_ok hbind]
  rfl

/-- Both passwords have been read only if the one of the user has. -/
theorem Succeeds.userPasswordRead {h₀ : Host} (hboth : (bothPasswordsRead line).Succeeds h₀) :
    (userPasswordRead line).Succeeds h₀ := by
  obtain ⟨y, hy⟩ := hboth
  have hrun : (bothPasswordsRead line).runOn h₀ = (.ok y, ((bothPasswordsRead line).runOn h₀).2) :=
    Prod.ext hy rfl
  obtain ⟨⟨entries, s⟩, h, hprepared, hrun⟩ := runOn_bind_inv hrun
  obtain ⟨password, h₁, huser, -⟩ := runOn_bind_inv hrun
  exact ⟨password, by rw [runOn_userPasswordRead hprepared huser]⟩

/-- The session stands only if every stage before it has been passed. -/
theorem connected_inv {h₀ : Host} (hconnected : ((connected line).runOn h₀).1 = .ok password) :
    ∃ entries s h h₁ bindPassword h₂ h₃ h₄,
      (prepared line).runOn h₀ = (.ok (entries, s), h) ∧
      readUserPassword.runOn h = (.ok password, h₁) ∧
      readBindPassword.runOn h₁ = (.ok bindPassword, h₂) ∧ logOtp.runOn h₂ = (.ok (), h₃) ∧
      (connect { s with bindPassword := (bindPassword.map Value.bytes).getD .null }).runOn h₃ =
        (.ok (), h₄) := by
  have hrun : (connected line).runOn h₀ = (.ok password, ((connected line).runOn h₀).2) :=
    Prod.ext hconnected rfl
  obtain ⟨⟨password', s'⟩, h₂, hboth, hrun⟩ := runOn_bind_inv hrun
  obtain ⟨⟨⟩, h₃, hlogged, hrun⟩ := runOn_bind_inv hrun
  obtain ⟨⟨⟩, h₄, hconnect, hrun⟩ := runOn_bind_inv hrun
  cases hrun
  obtain ⟨⟨entries, s⟩, h, hprepared, hrun⟩ := runOn_bind_inv hboth
  obtain ⟨password', h₁, huser, hrun⟩ := runOn_bind_inv hrun
  obtain ⟨bindPassword, h₂', hbind, hrun⟩ := runOn_bind_inv hrun
  cases hrun
  exact ⟨entries, s, h, h₁, bindPassword, h₂, h₃, _, hprepared, huser, hbind, hlogged, hconnect⟩

end Proceeding

end Registration

end OtpRegistrar
