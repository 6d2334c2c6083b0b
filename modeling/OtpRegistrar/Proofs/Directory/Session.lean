/-
The course of a session.

What a session does outward depends on its settings and on how the server behaves,
and on nothing else.  `Contact.course` leads up to the point where the session
stands: the server is described, a connection made ready, and then established.
Behind it comes the request, if the body of the session gets that far, and the
connection is closed last of all.
-/
import OtpRegistrar.Proofs.Directory.Establishing

namespace OtpRegistrar

/-! ### Making contact -/

/-- What the directory client is given for settings: the server they resolve to, the TLS settings
made for it, and a password to bind with. -/
structure Contact (s : Settings) where
  endpoint : Endpoint
  tls : Option Tls
  password : Value
  resolved : ∃ host, s.host = .text host ∧
    Endpoint.resolve host s.port s.useSsl.truthy = .ok endpoint
  secured : ∃ files asked, s.tls files = .ok asked ∧
    tls = if endpoint.secure && asked.isNone then some Tls.unchecked else asked

namespace Contact

variable {s : Settings}

/-- The course in which a server is described and a connection made ready. -/
def preparing (c : Contact s) (server : DirectoryServer) : List Step :=
  [⟨.serverMade c.endpoint s.timeout c.tls, True⟩,
   ⟨.connectionMade s.bindDn c.password, server.connect.Returns⟩]

/-- The course up to the point where the session stands. -/
def course (c : Contact s) (server : DirectoryServer) : List Step :=
  c.preparing server ++ Action.establishing s server

/-- The course has a bind in it if there is a name to bind with. -/
theorem bound_mem_course (c : Contact s) (server : DirectoryServer)
    (hname : s.bindDn.truthy = true) : .bound ∈ Step.events (c.course server) := by
  simp [course, preparing, Action.establishing, hname]

end Contact

namespace Action

variable {α : Type}

/-- A server is described, unless the host is of no use. -/
theorem runOn_makeServer (s : Settings) (asked : Option Tls) (h : Host) :
    (∃ f, (makeServer s asked).runOn h = (.error f, h) ∧ f.isKind .connectionFailed = false) ∨
    ∃ host endpoint, s.host = .text host ∧
      Endpoint.resolve host s.port s.useSsl.truthy = .ok endpoint ∧
      (makeServer s asked).runOn h = (.ok (), h.note (.serverMade endpoint s.timeout
        (if endpoint.secure && asked.isNone then some Tls.unchecked else asked))) := by
  unfold makeServer
  cases hhost : s.host with
  | text host =>
      dsimp only
      cases hresolve : Endpoint.resolve host s.port s.useSsl.truthy with
      | error e =>
          refine .inl ⟨.endpoint e, runOn_bind_error (runOn_orFail _ _ _), ?_⟩
          cases e <;> rfl
      | ok endpoint =>
          exact .inr ⟨host, endpoint, rfl, hresolve, runOn_bind_ok (runOn_orFail _ _ _)⟩
  | _ => exact .inl ⟨.defect .missingAttribute, rfl, rfl⟩

/-- A connection is made ready for a contact, unless the settings are of no use. -/
theorem runOn_makeConnection (s : Settings) (password : Value) (h : Host) :
    (∃ f, (makeConnection s password).runOn h = (.error f, h) ∧
      f.isKind .connectionFailed = false) ∨
    ∃ (c : Contact s) (h' : Host),
      (makeConnection s password).runOn h = (h.server.connect.outcome, h') ∧
      h.Emits (Step.events (c.preparing h.server)) h' ∧
      h'.answer = h.server.connect.answer.getD .null := by
  have htlsOf : (tlsOf s).runOn h = ((s.tls h.files).mapError .tls, h) := rfl
  unfold makeConnection
  rw [runOn_bind, htlsOf]
  cases hasked : s.tls h.files with
  | error e => exact .inl ⟨.tls e, rfl, by cases e <;> rfl⟩
  | ok asked =>
      dsimp only [Except.mapError]
      rcases runOn_makeServer s asked h with
        ⟨f, hf, hkind⟩ | ⟨host, endpoint, hhost, hresolve, hmade⟩
      · exact .inl ⟨f, runOn_bind_error hf, hkind⟩
      · rw [runOn_bind_ok hmade, runOn_bind_ok (runOn_change _ _)]
        let c : Contact s := ⟨endpoint, _, password, ⟨host, hhost, hresolve⟩,
          ⟨h.files, asked, hasked, rfl⟩⟩
        let h₁ := h.note (.serverMade endpoint s.timeout c.tls)
        let h₂ := { h₁ with answer := .null }
        have hmade : h.Emits [.serverMade endpoint s.timeout c.tls] h₁ := h.emits_outward rfl
        have hcleared : h₁.Emits [] h₂ := Host.emits_nothing rfl rfl rfl rfl rfl
        obtain ⟨h', hemits, hanswer, hserve⟩ :=
          runOn_serve (e := .connectionMade s.bindDn password) rfl (·.connect) .null h₂
        refine .inr ⟨c, h', ?_, (hmade.before hcleared).trans hemits, hanswer⟩
        rw [show h₂.server = h.server from rfl] at hserve
        rw [runOn_bind, hserve]
        unfold Reply.outcome
        cases h.server.connect.failure <;> rfl

end Action

/-- What comes out of a fault while a connection is made ready. -/
def Fault.unready (f : Fault) : Fault :=
  if f.family.isDirectory then
    .connection ("Invalid connection settings: " ++ f.shown) (.int ResultCode.paramError.code)
  else f

namespace Action

/-- Getting ready differs from making the connection only in what it fails with. -/
theorem runOn_prepare (s : Settings) (password : Value) (h : Host) :
    (prepare s password).runOn h =
      (((makeConnection s password).runOn h).1.mapError Fault.unready,
        ((makeConnection s password).runOn h).2) := by
  unfold prepare
  rw [runOn_attempt_bind]
  cases ((makeConnection s password).runOn h).1 with
  | ok x => rfl
  | error f =>
      dsimp only [Except.mapError]
      unfold Fault.unready
      split <;> rfl

/-- A connection that is opened, and ready for a bind, is bound if there is a name to bind with. -/
def BindsWhenReady (s : Settings) (server : DirectoryServer) (es : List Event) : Prop :=
  .opened ∈ es → s.Ready server → s.bindDn.truthy = true → .bound ∈ es

/-- What is emitted on the way to a session that is broken off at some point, or not at all: the
steps of a contact as far as they came, and the closing of a connection that was opened. -/
def InSession (s : Settings) (server : DirectoryServer) (es : List Event) : Prop :=
  es = [] ∨ ∃ (c : Contact s) (oid : Text) (value : List UInt8) (steps closing : List Event),
    es = steps ++ closing ∧ BindsWhenReady s server steps ∧
    Follows (c.course server ++ [⟨.extendedSent oid value, True⟩]) steps ∧
    (closing = [] ∨ closing = [.unbound] ∧ .opened ∈ steps)

theorem InSession.of_follows {s : Settings} {server : DirectoryServer} (c : Contact s)
    {steps closing : List Event} (hfollows : Follows (c.course server) steps)
    (hbinds : BindsWhenReady s server steps)
    (hclosing : closing = [] ∨ closing = [.unbound] ∧ .opened ∈ steps) :
    InSession s server (steps ++ closing) :=
  .inr ⟨c, [], [], steps, closing, rfl, hbinds, hfollows.extend _, hclosing⟩

theorem InSession.bindsWhenReady {s : Settings} {server : DirectoryServer} {es : List Event}
    (hsession : InSession s server es) : BindsWhenReady s server es := by
  rcases hsession with rfl | ⟨c, oid, value, steps, closing, rfl, hbinds, -, hclosing⟩
  · exact fun hopened => nomatch hopened
  · intro hopened hready hname
    refine List.mem_append_left _ (hbinds ?_ hready hname)
    rcases hclosing with rfl | ⟨rfl, hopened'⟩
    · rwa [List.append_nil] at hopened
    · exact hopened'

theorem quiet_decoded (password : Value) : Quiet (decoded password) := by
  unfold decoded
  split
  · exact Keeps.map (Keeps.orFail _ _) _
  · exact Keeps.pure _

/-- What connecting does once its logger and the password are at hand. -/
def contact (entries : Value) (s : Settings) (password : Value) : Action Unit := do
  prepare s password
  log entries .debug ("Connecting to server: " ++ s.uri)
  establishOrGiveUp entries s

theorem connect_eq (s : Settings) : connect s = (do
    let entries ← logger
    let password ← decoded s.bindPassword
    contact entries s password) := rfl

/-- Once the password is at hand, connecting follows the course of a contact: all of it is done, or
it is broken off. -/
theorem runOn_contact (entries : Value) (s : Settings) (password : Value) (h : Host) :
    (∃ (c : Contact s) (h' : Host), (contact entries s password).runOn h = (.ok (), h') ∧
      h.Emits (Step.events (c.course h.server)) h' ∧ Step.AllPassed (c.course h.server) ∧
      ∃ name, entries = .logger name) ∨
    ∃ f h' es, (contact entries s password).runOn h = (.error f, h') ∧ h.Emits es h' ∧
      InSession s h.server es := by
  unfold contact
  have hprepare := runOn_prepare s password h
  rcases runOn_makeConnection s password h with ⟨f, hmade, -⟩ | ⟨c, h₁, hmade, hready, -⟩
  · rw [hmade] at hprepare
    exact .inr ⟨f.unready, h, [], runOn_bind_error hprepare, Host.Emits.refl h, .inl rfl⟩
  rw [hmade] at hprepare
  have hfollowed : Follows (c.course h.server) (Step.events (c.preparing h.server)) :=
    Follows.extend (.pass trivial (.halt _ _)) _
  have hbroken : InSession s h.server (Step.events (c.preparing h.server)) := by
    have hnone : .opened ∉ Step.events (c.preparing h.server) := by simp [Contact.preparing]
    have := InSession.of_follows c hfollowed (fun hopened => absurd hopened hnone) (.inl rfl)
    rwa [List.append_nil] at this
  cases houtcome : h.server.connect.outcome with
  | error f =>
      rw [houtcome] at hprepare
      exact .inr ⟨f.unready, h₁, _, runOn_bind_error hprepare, hready, hbroken⟩
  | ok _ =>
  rw [houtcome] at hprepare
  have hpassed : Step.AllPassed (c.preparing h.server) :=
    .cons trivial (.cons (Reply.outcome_eq_ok_iff.mp houtcome) .nil)
  have hentry := quiet_log entries .debug ("Connecting to server: " ++ s.uri) h₁
  rw [runOn_bind_ok hprepare, runOn_bind]
  rcases hlog : (log entries .debug ("Connecting to server: " ++ s.uri)).runOn h₁ with ⟨r, h₂⟩
  rw [hlog] at hentry
  have hready' := hready.before hentry
  cases r with
  | error f => exact .inr ⟨f, h₂, _, rfl, hready', hbroken⟩
  | ok _ =>
  have htaken := takes_establishOrGiveUp entries s h.server h₂ hready'.server
  dsimp only
  rcases hrest : (establishOrGiveUp entries s).runOn h₂ with ⟨r, h₃⟩
  rw [hrest] at htaken
  cases r with
  | ok _ =>
      obtain ⟨hemits, hestablished⟩ := htaken
      refine .inl ⟨c, h₃, rfl, ?_, hpassed.append hestablished, runOn_log_ok hlog⟩
      unfold Contact.course
      rw [Step.events_append]
      exact hready'.trans hemits
  | error f =>
      obtain ⟨steps, closing, hemits, hstops, hclosing⟩ := htaken
      refine .inr ⟨f, h₃, _, rfl, hready'.trans hemits, ?_⟩
      rw [← List.append_assoc]
      refine InSession.of_follows c (hstops.follows.append hpassed) ?_
        (hclosing.imp_right fun hl => ?_)
      · exact fun _ hready hname => List.mem_append_right _ (bound_mem_of_stops hstops hready hname)
      · exact ⟨hl.1, List.mem_append_right _ (opened_mem_of_stops hstops)⟩

/-- **Connecting follows the course of a contact.** Either all of it is done, and then the logger is
at hand for the rest of the session; or it is broken off, and what was opened may have been closed
again. -/
theorem runOn_connect (s : Settings) (h : Host) :
    (∃ (c : Contact s) (h' : Host), (connect s).runOn h = (.ok (), h') ∧
      h.Emits (Step.events (c.course h.server)) h' ∧ Step.AllPassed (c.course h.server) ∧
      ∃ name, h'.config.get Host.loggerVariable = .logger name) ∨
    ∃ f h' es, (connect s).runOn h = (.error f, h') ∧ h.Emits es h' ∧ InSession s h.server es := by
  have hlogger := quiet_logger h
  rw [connect_eq, runOn_bind]
  rcases hgiven : logger.runOn h with ⟨r, h₁⟩
  rw [hgiven] at hlogger
  cases r with
  | error f => exact .inr ⟨f, h₁, [], rfl, hlogger, .inl rfl⟩
  | ok entries =>
  obtain ⟨hkept, hthere⟩ := runOn_logger_ok hgiven
  have hdecoded := quiet_decoded s.bindPassword h₁
  dsimp only
  rw [runOn_bind]
  rcases hpassword : (decoded s.bindPassword).runOn h₁ with ⟨r, h₂⟩
  rw [hpassword] at hdecoded
  have hquiet : h.Emits [] h₂ := hlogger.after hdecoded
  cases r with
  | error f => exact .inr ⟨f, h₂, [], rfl, hquiet, .inl rfl⟩
  | ok password =>
  have hserver : h₂.server = h.server := hquiet.server
  rcases runOn_contact entries s password h₂ with
    ⟨c, h₃, hrun, hemits, hpassed, name, hname⟩ | ⟨f, h₃, es, hrun, hemits, hbroken⟩
  · rw [hserver] at hemits hpassed
    refine .inl ⟨c, h₃, hrun, hquiet.after hemits, hpassed, name, ?_⟩
    rw [(hdecoded.after hemits).logger (by rw [hkept]; exact hthere), hkept, hname]
  · rw [hserver] at hbroken
    exact .inr ⟨f, h₃, es, hrun, hquiet.after hemits, hbroken⟩

/-- A session that stands has taken the whole course. -/
theorem connect_ok {s : Settings} {h h' : Host} (hrun : (connect s).runOn h = (.ok (), h')) :
    ∃ c : Contact s, h.Emits (Step.events (c.course h.server)) h' ∧
      Step.AllPassed (c.course h.server) ∧
      ∃ name, h'.config.get Host.loggerVariable = .logger name := by
  rcases runOn_connect s h with ⟨c, h₁, hok, hrest⟩ | ⟨f, h₁, es, hfail, -⟩
  · rw [hrun] at hok
    cases hok
    exact ⟨c, hrest⟩
  · rw [hrun] at hfail
    cases hfail

/-- What connecting emits is part of a session. -/
theorem emits_connect (s : Settings) (h : Host) :
    ∃ es, h.Emits es ((connect s).runOn h).2 ∧ InSession s h.server es := by
  rcases runOn_connect s h with
    ⟨c, h', hrun, hemits, hpassed, -⟩ | ⟨f, h', es, hrun, hemits, hbroken⟩
  · rw [hrun]
    have hwhole := InSession.of_follows c (Follows.whole hpassed)
      (fun _ _ hname => c.bound_mem_course _ hname) (.inl rfl)
    rw [List.append_nil] at hwhole
    exact ⟨_, hemits, hwhole⟩
  · rw [hrun]
    exact ⟨es, hemits, hbroken⟩

/-- A session describes its server first of all, and only once. -/
theorem InSession.head {s : Settings} {server : DirectoryServer} {es : List Event}
    (hsession : InSession s server es) :
    es = [] ∨ ∃ (c : Contact s) (rest : List Event),
      es = .serverMade c.endpoint s.timeout c.tls :: rest ∧
      (∀ endpoint timeout tls, .serverMade endpoint timeout tls ∉ rest) ∧
      (.tlsStarted ∈ rest → s.useStartTls.truthy = true) := by
  rcases hsession with rfl | ⟨c, oid, value, steps, closing, rfl, -, hfollows, hclosing⟩
  · exact .inl rfl
  have hbehind : ∀ e ∈ closing, e = .unbound := by
    rcases hclosing with rfl | ⟨rfl, -⟩
    · exact fun e he => nomatch he
    · exact fun e he => List.mem_singleton.mp he
  have hnone : steps = [] → closing = [] := by
    intro hsteps
    rcases hclosing with rfl | ⟨-, hopened⟩
    · rfl
    · rw [hsteps] at hopened
      cases hopened
  unfold Contact.course Contact.preparing establishing at hfollows
  cases hfollows with
  | stop => exact .inl (by rw [hnone rfl]; rfl)
  | halt =>
      refine .inr ⟨c, closing, rfl, fun endpoint timeout tls hmem => ?_, fun hmem => ?_⟩
      · cases hbehind _ hmem
      · cases hbehind _ hmem
  | @pass _ _ es _ hrest =>
      have hsubset := hrest.subset
      refine .inr ⟨c, es ++ closing, rfl, fun endpoint timeout tls hmem => ?_, fun hmem => ?_⟩
      · rcases List.mem_append.mp hmem with hmem | hmem
        · have hcourse := hsubset hmem
          simp at hcourse
        · cases hbehind _ hmem
      · rcases List.mem_append.mp hmem with hmem | hmem
        · simpa using hsubset hmem
        · cases hbehind _ hmem

/-! ### Sending the request -/

/-- What comes behind the request is read off the answer, and logged. -/
def submitted (entries : Value) (outcome : Except Fault Unit) : Action ExtendedResult :=
  match outcome with
  | .ok () => do
    let answer ← read (·.answer)
    let result ← orFail (ExtendedResult.ofAnswer answer) .defect
    let shown ← orFail result.shown .defect
    log entries .debug ("Got result: " ++ shown)
    return result
  | .error f =>
    match f with
    | .raised raised =>
      if f.isRefusal then do
        log entries .warning ("Request failed: " ++ f.shown)
        return ExtendedResult.ofRaised raised
      else fail f
    | f => fail f

theorem submit_eq (r : DeviceRequest) : submit r = (do
    let entries ← logger
    let value ← orFail r.value .request
    log entries .debug
      ("Sending " ++ r.operation.name ++ " request (" ++ r.oid ++ ") for: " ++
        (Value.ofText? r.authId).shown)
    let outcome ← attempt (submit.extend r.oid value)
    submitted entries outcome) := rfl

theorem quiet_submitted (entries : Value) (outcome : Except Fault Unit) :
    Quiet (submitted entries outcome) := by
  unfold submitted
  split
  · refine Keeps.bind (Keeps.read _) fun answer => ?_
    refine Keeps.bind (Keeps.orFail _ _) fun result => ?_
    refine Keeps.bind (Keeps.orFail _ _) fun shown => ?_
    exact Keeps.bind (quiet_log _ _ _) fun _ => Keeps.pure _
  · split
    · exact Keeps.ite (Keeps.bind (quiet_log _ _ _) fun _ => Keeps.pure _) (Keeps.fail _)
    · exact Keeps.fail _

/-- The operation is sent, and leaves an answer whether it fails or not. -/
theorem runOn_extend (oid : Text) (value : List UInt8) (h : Host) :
    ∃ h', (submit.extend oid value).runOn h = (h.server.extended.outcome, h') ∧
      h.Emits [.extendedSent oid value] h' ∧
      h'.answer = h.server.extended.answer.getD ServerAnswer.success := by
  unfold submit.extend
  obtain ⟨h', hemits, hanswer, hserve⟩ := runOn_serve (e := .extendedSent oid value) rfl
    (fun server =>
      { server.extended with answer := some (server.extended.answer.getD ServerAnswer.success) })
    (.bool true) h
  refine ⟨h', ?_, hemits, hanswer⟩
  rw [runOn_bind, hserve]
  unfold Reply.outcome
  cases h.server.extended.failure <;> rfl

/-- **A request whose value can be written is sent once the logger has taken its entry**, and its
result is read off what comes back. -/
theorem submit_cases (r : DeviceRequest) (h : Host) :
    (∃ f h', (submit r).runOn h = (.error f, h') ∧ h.Emits [] h' ∧
      f.isKind .connectionFailed = false ∧
      ∀ value name, r.value = .ok value → h.config.get Host.loggerVariable ≠ .logger name) ∨
    ∃ value entries h', r.value = .ok value ∧ h.Emits [.extendedSent r.oid value] h' ∧
      h'.answer = h.server.extended.answer.getD ServerAnswer.success ∧
      (submit r).runOn h = (submitted entries h.server.extended.outcome).runOn h' := by
  rw [submit_eq]
  have hlogger := quiet_logger h
  rcases hgiven : logger.runOn h with ⟨given, h₁⟩
  rw [hgiven] at hlogger
  cases given with
  | error f =>
      have hinner := failsOnly_logger h f (by rw [hgiven])
      refine .inl ⟨f, h₁, runOn_bind_error hgiven, hlogger, hinner.noConnection,
        fun value name _ hname => ?_⟩
      rw [runOn_logger_of_there (by rw [hname]; rfl)] at hgiven
      cases hgiven
  | ok entries =>
  rw [runOn_bind_ok hgiven, runOn_bind, runOn_orFail]
  cases hvalue : r.value with
  | error e =>
      refine .inl ⟨.request e, h₁, rfl, hlogger, ?_, fun value name hok => nomatch hok⟩
      cases e <;> rfl
  | ok value =>
  dsimp only [Except.mapError]
  have hentry := quiet_log entries .debug ("Sending " ++ r.operation.name ++ " request (" ++
    r.oid ++ ") for: " ++ (Value.ofText? r.authId).shown) h₁
  have hinner := failsOnly_log entries .debug ("Sending " ++ r.operation.name ++ " request (" ++
    r.oid ++ ") for: " ++ (Value.ofText? r.authId).shown) h₁
  rcases hlog : (log entries .debug ("Sending " ++ r.operation.name ++ " request (" ++ r.oid ++
    ") for: " ++ (Value.ofText? r.authId).shown)).runOn h₁ with ⟨logged, h₂⟩
  rw [hlog] at hentry hinner
  have hquiet : h.Emits [] h₂ := hlogger.after hentry
  cases logged with
  | error f =>
      refine .inl ⟨f, h₂, runOn_bind_error hlog, hquiet, (hinner f rfl).noConnection,
        fun value name _ hname => ?_⟩
      rw [runOn_logger_of_there (by rw [hname]; rfl), hname] at hgiven
      cases hgiven
      cases hlog
  | ok _ =>
      obtain ⟨h₃, hextend, hsent, hanswer⟩ := runOn_extend r.oid value h₂
      rw [hquiet.server] at hextend hanswer
      refine .inr ⟨value, entries, h₃, rfl, hquiet.after hsent, hanswer, ?_⟩
      rw [runOn_bind_ok hlog, runOn_attempt_bind, hextend]

/-- What is emitted by submitting a request is at most the request. -/
theorem emits_submit (r : DeviceRequest) (h : Host) :
    (h.Emits [] ((submit r).runOn h).2 ∧
      ∀ value name, r.value = .ok value → h.config.get Host.loggerVariable ≠ .logger name) ∨
    ∃ value, r.value = .ok value ∧ h.Emits [.extendedSent r.oid value] ((submit r).runOn h).2 := by
  rcases submit_cases r h with
    ⟨f, h', hrun, hquiet, -, hnever⟩ | ⟨value, entries, h', hvalue, hsent, -, hrun⟩
  · rw [hrun]
    exact .inl ⟨hquiet, hnever⟩
  · rw [hrun]
    exact .inr ⟨value, hvalue, hsent.before (quiet_submitted entries _ _)⟩

/-! ### The session -/

/-- Behind the body of a session its connection is closed. -/
theorem emits_session_of_connected {s : Settings} {body : Action α} {h h₁ : Host} {es : List Event}
    (hconnect : (connect s).runOn h = (.ok (), h₁)) (hbody : h₁.Emits es (body.runOn h₁).2) :
    h₁.Emits (es ++ [.unbound]) ((session s body).runOn h).2 := by
  unfold session
  rw [runOn_bind_ok hconnect, runOn_attempt_bind]
  obtain ⟨hclosed, -⟩ := runOn_close (body.runOn h₁).2
  rw [runOn_bind]
  rcases hclose : close.runOn (body.runOn h₁).2 with ⟨r, h₂⟩
  rw [hclose] at hclosed
  cases r with
  | error f => exact hbody.trans hclosed
  | ok _ => exact hbody.trans hclosed

/-- **What a session emits**, if its body sends at most one request: it follows the course of a
contact and of the request as far as it comes, and closes last of all. -/
theorem emits_session (s : Settings) {body : Action α} (h : Host)
    (hbody : ∀ h₁ : Host, ∃ es : List Event, h₁.Emits es (body.runOn h₁).2 ∧
      (es = [] ∨ ∃ oid value, es = [.extendedSent oid value])) :
    ∃ es, h.Emits es ((session s body).runOn h).2 ∧ InSession s h.server es := by
  rcases runOn_connect s h with
    ⟨c, h₁, hrun, hemits, hpassed, -⟩ | ⟨f, h₁, es, hrun, hemits, hbroken⟩
  · obtain ⟨es, hsent, hrequest⟩ := hbody h₁
    refine ⟨_, hemits.trans (emits_session_of_connected hrun hsent), ?_⟩
    rw [← List.append_assoc]
    have hopened : .opened ∈ Step.events (c.course h.server) :=
      List.mem_cons_of_mem _ (List.mem_cons_of_mem _ List.mem_cons_self)
    rcases hrequest with rfl | ⟨oid, value, rfl⟩
    · rw [List.append_nil]
      exact InSession.of_follows c (Follows.whole hpassed)
        (fun _ _ hname => c.bound_mem_course _ hname) (.inr ⟨rfl, hopened⟩)
    · exact .inr ⟨c, oid, value, _, _, rfl,
        fun _ _ hname => List.mem_append_left _ (c.bound_mem_course _ hname),
        Follows.append hpassed (.halt _ _), .inr ⟨rfl, List.mem_append_left _ hopened⟩⟩
  · refine ⟨es, ?_, hbroken⟩
    unfold session
    rw [runOn_bind_error hrun]
    exact hemits

end Action

end OtpRegistrar
