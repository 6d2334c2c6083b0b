/-
The order of a run.

Everything outward that a run does is one of nine kinds of event, and each kind has
its place: it may come only behind certain others, and only if the run has got that
far.  `Due` lists what must be so for each kind, and the main theorem says that
every event of every run was due when it came, whatever the command line, the
configuration, the files, the answers at the prompt and the server.

Two steps lead there.  The events of a run are first put together from those of its
stages, which gives a few possible shapes of the whole.  Then each event is looked
up in the shape; within a session its place in the course tells what came before.
-/
import OtpRegistrar.Proofs.Registration.Stages

namespace OtpRegistrar.Registration

open OtpRegistrar.Action

/-! ### What the stages emit -/

theorem quiet_explainPassword (which : Text) (f : Fault) : Quiet (explainPassword which f) := by
  unfold explainPassword
  exact Keeps.ite (Keeps.bind (quiet_complain _) fun _ => Keeps.pure _) (Keeps.fail _)

theorem quiet_logOtp : Quiet logOtp := by
  unfold logOtp
  refine Keeps.bind (Keeps.read _) fun bound => ?_
  split
  · unfold logIdentity
    refine Keeps.bind quiet_logger fun entries => Keeps.bind (Keeps.orFail _ _) fun entry => ?_
    exact quiet_log _ _ _
  · exact Keeps.pure _

theorem quiet_conclude (entries : Value) (operation : DeviceOperation) (result : ExtendedResult) :
    Quiet (conclude entries operation result) := by
  unfold conclude
  refine Keeps.bind (Keeps.read _) fun bound => Keeps.ite ?_ ?_
  · refine Keeps.bind (quiet_say _) fun _ => Keeps.bind (quiet_log _ _ _) fun _ => ?_
    exact Keeps.pure _
  · refine Keeps.bind (Keeps.orFail _ _) fun shown => Keeps.bind (quiet_complain _) fun _ => ?_
    exact Keeps.bind (quiet_log _ _ _) fun _ => Keeps.pure _

/-- Inside its session a run sends at most one request. -/
theorem emits_exchange (bound : Bindings) (password : Option (List UInt8)) (h : Host) :
    ∃ es, h.Emits es ((exchange bound password).runOn h).2 ∧
      (es = [] ∨ ∃ oid value, es = [.extendedSent oid value]) := by
  rcases runOn_exchange bound password h with ⟨e, -, hrun⟩ | ⟨r, -, hrun⟩
  · rw [hrun]
    exact ⟨[], Host.Emits.refl h, .inl rfl⟩
  · rw [hrun]
    rcases emits_submit r h with ⟨hquiet, -⟩ | ⟨value, -, hsent⟩
    · exact ⟨[], hquiet, .inl rfl⟩
    · exact ⟨_, hsent, .inr ⟨_, _, rfl⟩⟩

theorem emits_request (s : Settings) (password : Option (List UInt8)) (h : Host) :
    ∃ es, h.Emits es ((request s password).runOn h).2 ∧ InSession s h.server es := by
  rw [runOn_request]
  exact emits_session s h (emits_exchange h.bound password)

/-- Telling what came of a request emits nothing more. -/
theorem emits_perform_of_request {entries : Value} {s : Settings} {password : Option (List UInt8)}
    {h h' : Host} {es : List Event} (hrequest : h'.Emits es ((request s password).runOn h).2) :
    h'.Emits es ((perform entries s password).runOn h).2 := by
  unfold perform
  rw [runOn_attempt_bind]
  refine hrequest.before ?_
  split
  · unfold explainConnection
    exact Keeps.ite (R := fun h h' => h.Emits [] h')
      (Keeps.bind (quiet_complain _) fun _ => Keeps.pure _) (Keeps.fail _) _
  · exact quiet_conclude entries _ _ _

/-! ### The shape of a run -/

/-- What an accepted run emits, by the stage in which it ends. -/
inductive Shape (line : List Text) (h : Host) (bound : Bindings) (s : Settings) :
    List Event → Prop
  /-- It ends before the password of the user is asked for. -/
  | silent : Shape line h bound s []
  /-- It ends with the password of the user. -/
  | user {user : PasswordSource} (huser : userPassword bound = .ok user) :
      Shape line h bound s user.asks
  /-- It ends with the password to bind with. -/
  | bind {user bind : PasswordSource} (huser : userPassword bound = .ok user)
      (hbind : bindPassword bound h.config = .ok bind)
      (hread : (userPasswordRead line).Succeeds h) :
      Shape line h bound s (user.asks ++ bind.asks)
  /-- It comes to a session. -/
  | session {user bind : PasswordSource} {password : Value} {es : List Event}
      (huser : userPassword bound = .ok user) (hbind : bindPassword bound h.config = .ok bind)
      (hread : (bothPasswordsRead line).Succeeds h)
      (hsession : InSession { s with bindPassword := password } h.server es) :
      Shape line h bound s (user.asks ++ bind.asks ++ es)

/-- Behind the preparations a run has one of these shapes. -/
theorem emits_proceed {line : List Text} {h h₀ : Host} {entries : Value} {s : Settings}
    {bound : Bindings} (hprepared : (prepared line).runOn h = (.ok (entries, s), h₀))
    (hquiet : ({ h with bound } : Host).Emits [] h₀) :
    ∃ es, h₀.Emits es ((proceed entries s).runOn h₀).2 ∧ Shape line h bound s es := by
  have hbound : h₀.bound = bound := hquiet.bound
  rcases hu : readUserPassword.runOn h₀ with ⟨r, h₁⟩
  rcases runOn_readUserPassword h₀ with ⟨f, hnone⟩ | ⟨user, huser, hchosen⟩
  · rw [runOn_proceed_of_user_error hnone]
    exact ⟨[], quiet_explainPassword _ _ _, .silent⟩
  rw [hbound] at huser
  have hemits := emits_readPassword user h₀
  rw [← hchosen, hu] at hemits
  cases r with
  | error f =>
      rw [runOn_proceed_of_user_error hu]
      exact ⟨user.asks, hemits.before (quiet_explainPassword _ _ _), .user huser⟩
  | ok password =>
  have hread : (userPasswordRead line).Succeeds h :=
    ⟨password, by rw [runOn_userPasswordRead hprepared hu]⟩
  rcases hb : readBindPassword.runOn h₁ with ⟨r, h₂⟩
  rcases runOn_readBindPassword h₁ with ⟨f, hnone⟩ | ⟨bind, hbind, hchosen'⟩
  · rw [runOn_proceed_of_bind_error hu hnone]
    exact ⟨user.asks, hemits.before (quiet_explainPassword _ _ _), .user huser⟩
  have hconfig : ∀ name, name ≠ Host.loggerVariable → h₁.config.get name = h.config.get name :=
    (hquiet.toResembles.trans hemits.toResembles).config
  rw [hemits.bound, hbound, bindPassword_congr hconfig] at hbind
  have hemits' := emits_readPassword bind h₁
  rw [← hchosen', hb] at hemits'
  cases r with
  | error f =>
      rw [runOn_proceed_of_bind_error hu hb]
      exact ⟨_, (hemits.trans hemits').before (quiet_explainPassword _ _ _),
        .bind huser hbind hread⟩
  | ok bindPassword =>
  have hboth : (bothPasswordsRead line).Succeeds h :=
    ⟨_, by rw [runOn_bothPasswordsRead hprepared hu hb]⟩
  rw [runOn_proceed_of_both hu hb, runOn_bind]
  have hlogged := quiet_logOtp h₂
  rcases hlog : logOtp.runOn h₂ with ⟨r, h₃⟩
  rw [hlog] at hlogged
  have hasked := (hemits.trans hemits').before hlogged
  cases r with
  | error f => exact ⟨_, hasked, .bind huser hbind hread⟩
  | ok _ =>
      obtain ⟨es, hrequested, hsession⟩ := emits_request
        { s with bindPassword := (bindPassword.map Value.bytes).getD .null } password h₃
      rw [hasked.server, hquiet.server] at hsession
      exact ⟨_, hasked.trans (emits_perform_of_request hrequested),
        .session huser hbind hboth hsession⟩

/-- **Every run has such a shape**: it emits nothing, or its line is accepted and it ends in one of
the stages. -/
theorem outward_run (line : List Text) (h : Host) :
    ∃ es, ((run line).runOn h).2.outward = h.outward ++ es ∧
      (es = [] ∨ ∃ bound s, Accepted h line bound s ∧ Shape line h bound s es) := by
  rcases runOn_prepared line h with ⟨f, h', -, hsilent⟩ |
    ⟨entries, s, bound, h₀, hprepared, hrun, haccepted, hquiet⟩
  · exact ⟨[], by rw [hsilent, List.append_nil], .inl rfl⟩
  · obtain ⟨es, hemits, hshape⟩ := emits_proceed hprepared hquiet
    refine ⟨es, ?_, .inr ⟨bound, s, haccepted, hshape⟩⟩
    rw [hrun]
    exact (hquiet.after hemits).outward

/-! ### When an event is due -/

/-- Does an event ask for a password? -/
def asksPassword : Event → Bool
  | .passwordFileRead _ | .prompted _ => true
  | _ => false

/-- A password may be asked for: the one of the user first of all, and the one to bind with directly
behind it, once it has been read. -/
def PasswordDue (line : List Text) (h : Host) (bound : Bindings) (past : List Event) (e : Event) :
    Prop :=
  ∃ user, userPassword bound = .ok user ∧
    (past = [] ∧ user.asks = [e] ∨
      past = user.asks ∧ (userPasswordRead line).Succeeds h ∧
        ∃ bind, bindPassword bound h.config = .ok bind ∧ bind.asks = [e])

/-- Both passwords have been asked for, the one of the user first, and nothing else has come. -/
def BothAsked (h : Host) (bound : Bindings) (past : List Event) : Prop :=
  ∃ user bind, userPassword bound = .ok user ∧ bindPassword bound h.config = .ok bind ∧
    past = user.asks ++ bind.asks

/-- What must be so when an event comes behind others: which of them have come, how far the run has
got, and what the server has agreed to. -/
def Due (line : List Text) (h : Host) (bound : Bindings) (s : Settings) (past : List Event) :
    Event → Prop
  | .passwordFileRead path => PasswordDue line h bound past (.passwordFileRead path)
  | .prompted question => PasswordDue line h bound past (.prompted question)
  | .serverMade _ _ _ =>
    (bothPasswordsRead line).Succeeds h ∧ BothAsked h bound past
  | .connectionMade _ _ =>
    (bothPasswordsRead line).Succeeds h ∧ ∃ asked server timeout tls,
      past = asked ++ [.serverMade server timeout tls] ∧ BothAsked h bound asked
  | .opened => ∃ before user password, past = before ++ [.connectionMade user password]
  | .tlsStarted =>
    s.useStartTls.truthy = true ∧ h.server.start.Returns ∧ ∃ before, past = before ++ [.opened]
  | .bound =>
    s.bindDn.truthy = true ∧ h.server.start.Returns ∧ .opened ∈ past ∧
      (s.useStartTls.truthy = true → .tlsStarted ∈ past ∧ h.server.startTls.Agrees)
  | .extendedSent _ _ =>
    h.server.start.Returns ∧ .opened ∈ past ∧
      (s.useStartTls.truthy = true → .tlsStarted ∈ past ∧ h.server.startTls.Agrees) ∧
      (s.bindDn.truthy = true → .bound ∈ past ∧ h.server.bind.Agrees) ∧
      ∀ oid value, .extendedSent oid value ∉ past
  | .unbound => .opened ∈ past
  | _ => False

section

variable {line : List Text} {h : Host} {bound : Bindings} {s : Settings}

/-- A source asks for one password at most, and does nothing else. -/
theorem asks_split {source : PasswordSource} {past future : List Event} {e : Event}
    (hsplit : source.asks = past ++ e :: future) :
    past = [] ∧ source.asks = [e] ∧ asksPassword e = true := by
  have hone : ∀ e', source.asks = [e'] → asksPassword e' = true →
      past = [] ∧ source.asks = [e] ∧ asksPassword e = true := by
    intro e' hasks hpassword
    rw [hasks] at hsplit ⊢
    obtain ⟨rfl, rfl⟩ := split_singleton hsplit
    exact ⟨rfl, rfl, hpassword⟩
  cases source with
  | file path => exact hone _ rfl rfl
  | prompt account question => exact hone _ rfl rfl
  | _ => simp [PasswordSource.asks] at hsplit

theorem asksPassword_of_mem_asks {source : PasswordSource} {e : Event} (he : e ∈ source.asks) :
    asksPassword e = true := by
  obtain ⟨past, future, hsplit⟩ := List.append_of_mem he
  exact (asks_split hsplit).2.2

theorem asksPassword_of_mem_both {user bind : PasswordSource} {e : Event}
    (he : e ∈ user.asks ++ bind.asks) : asksPassword e = true :=
  (List.mem_append.mp he).elim asksPassword_of_mem_asks asksPassword_of_mem_asks

theorem BothAsked.asksPassword {past : List Event} (hasked : BothAsked h bound past) {e : Event}
    (he : e ∈ past) : asksPassword e = true := by
  obtain ⟨user, bind, -, -, rfl⟩ := hasked
  exact asksPassword_of_mem_both he

theorem PasswordDue.due {past : List Event} {e : Event} (hpassword : asksPassword e = true)
    (hdue : PasswordDue line h bound past e) : Due line h bound s past e := by
  cases e <;> first | exact hdue | cases hpassword

/-- Both passwords are asked for when they are due. -/
theorem due_of_asks {user bind : PasswordSource} {past future : List Event} {e : Event}
    (huser : userPassword bound = .ok user) (hbind : bindPassword bound h.config = .ok bind)
    (hread : (userPasswordRead line).Succeeds h)
    (hsplit : user.asks ++ bind.asks = past ++ e :: future) :
    .unbound ∉ past ∧ Due line h bound s past e := by
  rcases split_append hsplit with ⟨rest, huserAsks⟩ | ⟨between, rfl, hbindAsks⟩
  · obtain ⟨rfl, hasks, hpassword⟩ := asks_split huserAsks
    exact ⟨List.not_mem_nil, PasswordDue.due hpassword ⟨user, huser, .inl ⟨rfl, hasks⟩⟩⟩
  · obtain ⟨rfl, hasks, hpassword⟩ := asks_split hbindAsks
    rw [List.append_nil]
    refine ⟨fun hmem => ?_, PasswordDue.due hpassword
      ⟨user, huser, .inr ⟨rfl, hread, bind, hbind, hasks⟩⟩⟩
    cases asksPassword_of_mem_asks hmem

/-- A step that is there on a condition has its place at the front, if it holds. -/
theorem place_optional {c : Prop} [Decidable c] {optional step : Step} {before rest : List Step}
    (hplace : (if c then [optional] else []) = before ++ step :: rest) :
    c ∧ before = [] ∧ step = optional := by
  by_cases hc : c
  · rw [if_pos hc] at hplace
    exact ⟨hc, split_singleton hplace⟩
  · rw [if_neg hc] at hplace
    simp at hplace

/-- What comes behind the opening of a connection is due once the steps before it have passed. -/
theorem due_of_opened {oid : Text} {value : List UInt8} {done : List Event}
    {before after : List Step} {step : Step} (hstart : h.server.start.Returns)
    (hdone : ∀ oid value, .extendedSent oid value ∉ done)
    (hplace : (if s.useStartTls.truthy then [⟨.tlsStarted, h.server.startTls.Agrees⟩] else []) ++
      ((if s.bindDn.truthy then [⟨.bound, h.server.bind.Agrees⟩] else []) ++
        [⟨.extendedSent oid value, True⟩]) = before ++ step :: after)
    (hpassed : Step.AllPassed before) :
    Due line h bound s (done ++ .opened :: Step.events before) step.event := by
  have hopened : ∀ es : List Event, .opened ∈ done ++ .opened :: es := fun es =>
    List.mem_append_right _ List.mem_cons_self
  -- a step asked for that lies in front has come, and the server has agreed to it
  have hcome : ∀ {c : Prop} [Decidable c] {e : Event} {p : Prop} {steps : List Step},
      (if c then [⟨e, p⟩] else []) ⊆ steps → Step.AllPassed steps → c →
        e ∈ done ++ .opened :: Step.events steps ∧ p := by
    intro c _ e p steps hsteps hall hc
    rw [if_pos hc] at hsteps
    have hmem : (⟨e, p⟩ : Step) ∈ steps := hsteps List.mem_cons_self
    have hevent : e ∈ Step.events steps := List.mem_map_of_mem hmem
    exact ⟨List.mem_append_right _ (.tail _ hevent), hall _ hmem⟩
  rcases split_append hplace with ⟨rest, htls⟩ | ⟨between, rfl, hbehind⟩
  · obtain ⟨hasks, rfl, rfl⟩ := place_optional htls
    exact ⟨hasks, hstart, done, rfl⟩
  rcases split_append hbehind with ⟨rest, hbind⟩ | ⟨between', rfl, hlast⟩
  · obtain ⟨hasks, rfl, rfl⟩ := place_optional hbind
    exact ⟨hasks, hstart, hopened _, hcome (List.subset_append_left _ _) hpassed⟩
  · obtain ⟨rfl, rfl⟩ := split_singleton hlast
    refine ⟨hstart, hopened _, hcome (List.subset_append_left _ _) hpassed, ?_, ?_⟩
    · refine hcome ?_ hpassed
      rw [List.append_nil]
      exact List.subset_append_right _ _
    · intro oid' value' hsent
      rcases List.mem_append.mp hsent with hmem | hmem
      · exact hdone _ _ hmem
      · simp at hmem

/-- A step of the course of a contact and its request is due once those before it have passed. -/
theorem due_of_place {password : Value} {c : Contact { s with bindPassword := password }}
    {oid : Text} {value : List UInt8} {asked : List Event} {before after : List Step} {step : Step}
    (hread : (bothPasswordsRead line).Succeeds h)
    (hasked : BothAsked h bound asked)
    (hplace : c.course h.server ++ [⟨.extendedSent oid value, True⟩] = before ++ step :: after)
    (hpassed : Step.AllPassed before) :
    Due line h bound s (asked ++ Step.events before) step.event := by
  simp only [Contact.course, Contact.preparing, establishing, List.cons_append, List.nil_append,
    List.append_assoc] at hplace
  -- the first three steps are always there, what comes behind them depends on the settings
  rcases before with _ | ⟨first, _ | ⟨second, _ | ⟨third, before⟩⟩⟩
  · obtain ⟨rfl, -⟩ := List.cons.inj hplace
    refine ⟨hread, ?_⟩
    rwa [Step.events_nil, List.append_nil]
  · simp only [List.cons_append, List.nil_append, List.cons.injEq] at hplace
    obtain ⟨rfl, rfl, -⟩ := hplace
    exact ⟨hread, asked, _, _, _, rfl, hasked⟩
  · simp only [List.cons_append, List.nil_append, List.cons.injEq] at hplace
    obtain ⟨rfl, rfl, rfl, -⟩ := hplace
    exact ⟨asked ++ [_], _, _, List.append_cons _ _ _⟩
  · simp only [List.cons_append, List.cons.injEq] at hplace
    obtain ⟨rfl, rfl, rfl, hplace⟩ := hplace
    obtain ⟨-, hpassed⟩ := List.forall_mem_cons.mp hpassed
    obtain ⟨-, hpassed⟩ := List.forall_mem_cons.mp hpassed
    obtain ⟨hstart, hpassed⟩ := List.forall_mem_cons.mp hpassed
    simp only [Step.events_cons]
    rw [List.append_cons, List.append_cons]
    refine due_of_opened hstart ?_ hplace hpassed
    intro oid' value' hsent
    have hmem : .extendedSent oid' value' ∈ asked := by simpa using hsent
    cases hasked.asksPassword hmem

/-- Closing is no step of a course. -/
theorem unbound_not_mem_course {s : Settings} {c : Contact s} {server : DirectoryServer}
    {oid : Text} {value : List UInt8} :
    .unbound ∉ Step.events (c.course server ++ [⟨.extendedSent oid value, True⟩]) := by
  simp [Contact.course, Contact.preparing, establishing]

/-- **Every event of a session is due**, and closing comes last. -/
theorem due_in_session {password : Value} {asked es past future : List Event} {e : Event}
    (hread : (bothPasswordsRead line).Succeeds h) (hasked : BothAsked h bound asked)
    (hsession : InSession { s with bindPassword := password } h.server es)
    (hsplit : es = past ++ e :: future) :
    .unbound ∉ past ∧ Due line h bound s (asked ++ past) e := by
  rcases hsession with rfl | ⟨c, oid, value, steps, closing, rfl, -, hfollows, hclosing⟩
  · simp at hsplit
  have hopen : .unbound ∉ steps := fun hmem => unbound_not_mem_course (hfollows.subset hmem)
  rcases split_append hsplit with ⟨rest, hsteps⟩ | ⟨between, rfl, hclosed⟩
  · obtain ⟨before, step, after, hplace, rfl, rfl, hpassed⟩ := hfollows.place hsteps
    refine ⟨fun hmem => hopen ?_, due_of_place hread hasked hplace hpassed⟩
    rw [hsteps]
    exact List.mem_append_left _ hmem
  · rcases hclosing with rfl | ⟨rfl, hopened⟩
    · simp at hclosed
    obtain ⟨rfl, rfl⟩ := split_singleton hclosed
    rw [List.append_nil]
    exact ⟨hopen, List.mem_append_right _ hopened⟩

end

/-- Every event of a run with such a shape is due, and closing comes last. -/
theorem due_of_shape {line : List Text} {h : Host} {bound : Bindings} {s : Settings}
    {es past future : List Event} {e : Event} (hshape : Shape line h bound s es)
    (hsplit : es = past ++ e :: future) : .unbound ∉ past ∧ Due line h bound s past e := by
  cases hshape with
  | silent => simp at hsplit
  | @user user huser =>
      obtain ⟨rfl, hasks, hpassword⟩ := asks_split hsplit
      exact ⟨List.not_mem_nil, PasswordDue.due hpassword ⟨user, huser, .inl ⟨rfl, hasks⟩⟩⟩
  | @bind user bind huser hbind hread => exact due_of_asks huser hbind hread hsplit
  | @session user bind password es huser hbind hread hsession =>
      have hasked : BothAsked h bound (user.asks ++ bind.asks) :=
        ⟨user, bind, huser, hbind, rfl⟩
      rcases split_append hsplit with ⟨rest, hasks⟩ | ⟨between, rfl, hes⟩
      · exact due_of_asks huser hbind (Succeeds.userPasswordRead hread) hasks
      · obtain ⟨hopen, hdue⟩ := due_in_session hread hasked hsession hes
        refine ⟨fun hmem => ?_, hdue⟩
        rcases List.mem_append.mp hmem with hmem | hmem
        · cases hasked.asksPassword hmem
        · exact hopen hmem

/-- **The order of every run.** A run that does anything outward has accepted its command line; and
every event is due when it comes, and nothing comes once the connection has been closed. -/
theorem run_in_order (line : List Text) (h : Host) :
    ∃ es, ((run line).runOn h).2.outward = h.outward ++ es ∧
      (es ≠ [] → ∃ bound s, Accepted h line bound s ∧
        ∀ past e future, es = past ++ e :: future →
          .unbound ∉ past ∧ Due line h bound s past e) := by
  obtain ⟨es, houtward, hshape⟩ := outward_run line h
  refine ⟨es, houtward, fun hsome => ?_⟩
  rcases hshape with rfl | ⟨bound, s, haccepted, hshape⟩
  · exact absurd rfl hsome
  exact ⟨bound, s, haccepted, fun past e future hsplit => due_of_shape hshape hsplit⟩

end OtpRegistrar.Registration
