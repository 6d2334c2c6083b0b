/-
Why there is no connection, and what comes of a request.

A failure to connect comes out of a session in three ways.  The directory client
does not take the settings; or something goes wrong on the way, which is a setback
and known from the replies of the server; or a step raises the failure to connect
itself, as if it were the program's own.  The code that it carries is never zero in
the first two ways: a server that refuses without a code that counts stands for a
failed connection.  So a code of zero has been raised.

The directory client knows nothing of the program, and so it does not raise the failure
that is the program's own; and its codes are numbers, whatever else they may be.  A
client of this kind is `Genuine`, and with it the third way is closed.

What comes of a request is read off the answer that the connection holds behind it,
or off the refusal that the step raises.
-/
import OtpRegistrar.Proofs.Directory.Closing
import OtpRegistrar.Proofs.NamedCode.Status

namespace OtpRegistrar

/-- The replies of a server to all kinds of steps. -/
def DirectoryServer.replies (server : DirectoryServer) : List Reply :=
  [server.connect, server.start, server.startTls, server.bind, server.extended, server.unbind]

/-- A step of the server raises the failure. -/
def DirectoryServer.Raises (server : DirectoryServer) (r : Raised) : Prop :=
  ∃ reply ∈ server.replies, reply.failure = some r

/-- What comes of a request that is sent to the server. -/
inductive DirectoryServer.Answers (server : DirectoryServer) : ExtendedResult → Prop
  /-- The connection holds an answer. -/
  | answer {result : ExtendedResult} (hreturns : server.extended.Returns)
      (hresult : ExtendedResult.ofAnswer (server.extended.answer.getD ServerAnswer.success) =
        .ok result) : Answers server result
  /-- The step is refused. -/
  | refusal {r : Raised} (hraised : server.extended.failure = some r)
      (hrefused : (Fault.raised r).isRefusal = true) : Answers server (.ofRaised r)

/-- Why there is no connection with the settings to the server. -/
inductive Settings.NotConnected (s : Settings) (server : DirectoryServer) : Fault → Prop
  /-- The directory client does not take the settings. -/
  | refused (message : Text) :
      NotConnected s server (.connection message (.int ResultCode.paramError.code))
  /-- Something goes wrong on the way to a session. -/
  | setback {b : Setback} (hb : s.setback? server = some b) : NotConnected s server b.fault
  /-- A step raises it. -/
  | raised {r : Raised} (hr : server.Raises r) : NotConnected s server (.raised r)

/-! ### Codes that are not zero -/

/-- A setback is one of a single step, with the answer that the connection held then: the one of
before or that of a step. -/
theorem DirectoryServer.setback?_mem {server : DirectoryServer} {b : Setback} :
    ∀ (demands : List Demand) (answer : Value), server.setback? demands answer = some b →
      ∃ d ∈ demands, ∃ held,
        (held = answer ∨ ∃ d' ∈ demands, (d'.reply server).answer = some held) ∧
        d.setback? server held = some b := by
  intro demands
  induction demands with
  | nil => exact fun answer hb => nomatch hb
  | cons d rest ih =>
      intro answer hb
      have hheld : (d.reply server).answer.getD answer = answer ∨
          (d.reply server).answer = some ((d.reply server).answer.getD answer) := by
        cases (d.reply server).answer with
        | none => exact .inl rfl
        | some _ => exact .inr rfl
      unfold setback? at hb
      dsimp only at hb
      rcases Option.or_eq_some_iff.mp hb with hfirst | ⟨-, hlater⟩
      · exact ⟨d, List.mem_cons_self, _,
          hheld.imp_right fun h => ⟨d, List.mem_cons_self, h⟩, hfirst⟩
      · obtain ⟨d', hd', held, hfrom, hsome⟩ := ih _ hlater
        refine ⟨d', List.mem_cons_of_mem _ hd', held, ?_, hsome⟩
        rcases hfrom with rfl | ⟨d'', hd'', hanswer⟩
        · exact hheld.imp_right fun h => ⟨d, List.mem_cons_self, h⟩
        · exact .inr ⟨d'', List.mem_cons_of_mem _ hd'', hanswer⟩

theorem Settings.reply_mem_of_demands {s : Settings} {d : Demand} (server : DirectoryServer)
    (hd : d ∈ s.demands) : d.reply server ∈ server.replies := by
  unfold Settings.demands at hd
  simp only [List.mem_cons, List.mem_append, List.mem_ite_nil_right, List.not_mem_nil,
    or_false] at hd
  unfold DirectoryServer.replies
  rcases hd with rfl | ⟨-, rfl⟩ | ⟨-, rfl⟩ <;> simp

/-- The code in an answer is never zero. -/
theorem ServerAnswer.not_isZero_code (answer : Value) : ¬(ServerAnswer.code answer).IsZero := by
  unfold code
  split
  · split
    · rename_i htruthy
      exact Value.not_isZero_of_truthy htruthy
    · decide
  · decide

/-- A setback that does not carry the code of a failed step has been raised by it. -/
theorem Demand.setback?_cases {d : Demand} {server : DirectoryServer} {held : Value} {b : Setback}
    (hb : d.setback? server held = some b) :
    (∃ r, b = .raised r ∧ (d.reply server).failure = some r) ∨
    ∃ message, b = .refused message (ServerAnswer.code held) := by
  unfold setback? at hb
  split at hb
  · rename_i raised _ hraised
    cases hb
    exact .inl ⟨_, rfl, ‹_›⟩
  · cases hb
  · split at hb
    · cases hb
    · cases hb
      exact .inr ⟨_, rfl⟩

/-- **A failure to connect with a code of zero has been raised by a step.** -/
theorem Settings.NotConnected.raised_of_isZero {s : Settings} {server : DirectoryServer}
    {f : Fault} (hf : s.NotConnected server f) (hzero : (f.code?.getD .null).IsZero) :
    ∃ r, server.Raises r ∧ f = .raised r := by
  have hconnect : ¬(Value.int ResultCode.connectError.code).IsZero := by decide
  have hparam : ¬(Value.int ResultCode.paramError.code).IsZero := by decide
  cases hf with
  | refused message => exact absurd hzero hparam
  | raised hr => exact ⟨_, hr, rfl⟩
  | @setback b hb =>
      obtain ⟨d, hd, held, -, hsome⟩ := DirectoryServer.setback?_mem _ _ hb
      rcases Demand.setback?_cases hsome with ⟨r, rfl, hr⟩ | ⟨message, rfl⟩
      · unfold Setback.fault at hzero ⊢
        dsimp only at hzero ⊢
        split at hzero
        · exact absurd hzero hconnect
        · rename_i hother
          exact ⟨r, ⟨_, reply_mem_of_demands server hd, hr⟩, by rw [if_neg hother]⟩
      · exact absurd hzero (ServerAnswer.not_isZero_code held)

/-! ### What a directory client delivers -/

/-- The directory client hands a code over. -/
inductive DirectoryServer.Delivers (server : DirectoryServer) : Value → Prop
  /-- A step raises an error answer with it. -/
  | raised {r : Raised} {result description dn message : Value} (hr : server.Raises r)
      (hdetail : r.detail = .answer result description dn message) : Delivers server result
  /-- It stands in the answer behind a step. -/
  | answer {reply : Reply} {answer code : Value} (hreply : reply ∈ server.replies)
      (hanswer : reply.answer = some answer) (hcode : answer.field "result" = .ok code) :
      Delivers server code

/-- The directory client does what a directory client does: the failure to connect that is the
program's own is not raised by it, and none of its codes, which are whole numbers, is a NaN. -/
structure DirectoryServer.Genuine (server : DirectoryServer) : Prop where
  foreign : ∀ r, server.Raises r → (Fault.raised r).isKind .connectionFailed = false
  numbered : ∀ code, server.Delivers code → code ≠ .float .nan

/-- The code in an answer that holds no NaN is none. -/
theorem ServerAnswer.code_ne_nan {answer : Value}
    (hcode : ∀ code, answer.field "result" = .ok code → code ≠ .float .nan) :
    ServerAnswer.code answer ≠ .float .nan := by
  unfold code
  split
  · rename_i v hv
    split
    · exact hcode v hv
    · exact fun hnan => nomatch hnan
  · exact fun hnan => nomatch hnan

namespace DirectoryServer.Genuine

variable {server : DirectoryServer} (hgenuine : server.Genuine)

include hgenuine

/-- The answer behind a step holds no NaN, if the one before it held none. -/
theorem code_of_held {reply : Reply} (hreply : reply ∈ server.replies) {before code : Value}
    (hbefore : ∀ code, before.field "result" = .ok code → code ≠ .float .nan)
    (hcode : (reply.answer.getD before).field "result" = .ok code) : code ≠ .float .nan := by
  cases hheld : reply.answer with
  | none =>
      rw [hheld] at hcode
      exact hbefore _ hcode
  | some answer =>
      rw [hheld] at hcode
      exact hgenuine.numbered _ (.answer hreply hheld hcode)

/-- **The code of a failure to connect is neither zero nor a NaN.** -/
theorem code_of_notConnected {s : Settings} {f : Fault} (hf : s.NotConnected server f)
    (hkind : f.isKind .connectionFailed = true) :
    ¬(f.code?.getD .null).IsZero ∧ f.code?.getD .null ≠ .float .nan := by
  have hforeign : ∀ {r : Raised}, server.Raises r → ¬(Fault.raised r).isKind .connectionFailed :=
    fun hr hown => absurd ((hgenuine.foreign _ hr).symm.trans hown) Bool.false_ne_true
  refine ⟨fun hzero => ?_, ?_⟩
  · obtain ⟨r, hr, rfl⟩ := hf.raised_of_isZero hzero
    exact hforeign hr hkind
  cases hf with
  | refused message => exact fun hnan => nomatch hnan
  | raised hr => exact absurd hkind (hforeign hr)
  | @setback b hb =>
      obtain ⟨d, hd, held, hfrom, hsome⟩ := setback?_mem _ _ hb
      rcases Demand.setback?_cases hsome with ⟨r, rfl, hr⟩ | ⟨message, rfl⟩
      · unfold Setback.fault at hkind ⊢
        dsimp only at hkind ⊢
        split at hkind
        · rename_i hrefused
          rw [if_pos hrefused]
          exact fun hnan => nomatch hnan
        · exact absurd hkind (hforeign ⟨_, Settings.reply_mem_of_demands server hd, hr⟩)
      · refine ServerAnswer.code_ne_nan fun code hcode => ?_
        rcases hfrom with rfl | ⟨d', hd', hanswer⟩
        · have hnull : ∀ code, Value.null.field "result" = .ok code → code ≠ .float .nan := by
            intro _ hnone
            cases hnone
          exact hgenuine.code_of_held List.mem_cons_self hnull hcode
        · exact hgenuine.numbered _
            (.answer (Settings.reply_mem_of_demands server hd') hanswer hcode)

/-- The code of what comes of a request is no NaN. -/
theorem code_of_answers {result : ExtendedResult} (hanswer : server.Answers result) :
    result.code ≠ .float .nan := by
  have hmem : server.extended ∈ server.replies := by simp [replies]
  cases hanswer with
  | answer hreturns hresult =>
      unfold ExtendedResult.ofAnswer at hresult
      split at hresult
      · cases hresult
      rename_i code hcode
      cases hresult
      have hsuccess : ∀ code, ServerAnswer.success.field "result" = .ok code →
          code ≠ .float .nan := by
        rintro _ hzero rfl
        cases hzero
      exact hgenuine.code_of_held hmem hsuccess hcode
  | @refusal r hraised hrefused =>
      unfold ExtendedResult.ofRaised
      split
      · rename_i result _ dn message hdetail
        exact hgenuine.numbered _ (.raised ⟨_, hmem, hraised⟩ hdetail)
      · split <;> exact fun hnan => nomatch hnan

end DirectoryServer.Genuine

namespace Action

/-! ### Failures to connect -/

/-- Nothing but a step that raises it fails to connect, once a connection is there. -/
def RaisedOnly (server : DirectoryServer) (f : Fault) : Prop :=
  f.isKind .connectionFailed = true → ∃ r, server.Raises r ∧ f = .raised r

theorem RaisedOnly.of_other {server : DirectoryServer} {f : Fault}
    (hkind : f.isKind .connectionFailed = false) : RaisedOnly server f :=
  fun hconnection => absurd (hkind.symm.trans hconnection) Bool.false_ne_true

theorem RaisedOnly.raised {server : DirectoryServer} {reply : Reply} {r : Raised}
    (hreply : reply ∈ server.replies) (hr : reply.failure = some r) :
    RaisedOnly server (.raised r) := fun _ => ⟨r, ⟨reply, hreply, hr⟩, rfl⟩

theorem unbind_mem_replies (server : DirectoryServer) : server.unbind ∈ server.replies := by
  simp [DirectoryServer.replies]

theorem extended_mem_replies (server : DirectoryServer) : server.extended ∈ server.replies := by
  simp [DirectoryServer.replies]

/-- **What connecting fails with, if it is a failure to connect, is known from the server.** -/
theorem connect_error {s : Settings} {h h' : Host} {f : Fault}
    (hrun : (connect s).runOn h = (.error f, h')) (hkind : f.isKind .connectionFailed = true) :
    s.NotConnected h.server f := by
  rcases connect_cases s h with
    ⟨f', h₁, hfail, hunready, -⟩ | ⟨name, h₁, hname, hcloses, hanswer, hconnect⟩
  · rw [hrun] at hfail
    cases hfail
    rcases hunready hkind with ⟨message, rfl⟩ | ⟨r, hr, rfl⟩
    · exact .refused message
    · exact .raised ⟨_, List.mem_cons_self, hr⟩
  · have hestablish := runOn_establishOrGiveUp hname s
    rw [← hconnect, hrun, hcloses.server, hanswer] at hestablish
    cases hturn : s.setback? h.server with
    | none =>
        rw [show h.server.setback? s.demands _ = none from hturn] at hestablish
        cases hestablish.1
    | some b =>
        rw [show h.server.setback? s.demands _ = some b from hturn] at hestablish
        obtain ⟨herror, -⟩ := hestablish
        split at herror
        · cases herror
          exact .setback hturn
        · rcases Reply.settling_eq_error herror.symm with rfl | ⟨raised, hraised, rfl⟩
          · exact .setback hturn
          · exact .raised ⟨_, unbind_mem_replies _, hraised⟩

theorem close_error {h h' : Host} {f : Fault} (hrun : close.runOn h = (.error f, h')) :
    RaisedOnly h.server f := by
  obtain ⟨h₁, -, -, hserve⟩ := runOn_serve (e := .unbound) rfl (·.unbind) (.bool true) h
  unfold close at hrun
  rw [runOn_attempt_bind, hserve] at hrun
  cases hfailure : h.server.unbind.failure with
  | none =>
      rw [hfailure] at hrun
      cases hrun
  | some raised =>
      rw [hfailure] at hrun
      dsimp only at hrun
      split at hrun
      · have hinner := FailsOnly.bind failsOnly_logger fun entries => failsOnly_log entries
          .warning ("Error closing connection: " ++ (Fault.raised raised).shown)
        exact .of_other (hinner h₁ f (by rw [hrun])).noConnection
      · cases hrun
        exact .raised (unbind_mem_replies _) hfailure

/-! ### The request -/

/-- What comes behind the request is what the server answers. -/
theorem submitted_ok {entries : Value} {server : DirectoryServer} {result : ExtendedResult}
    {h h' : Host} (hanswer : h.answer = server.extended.answer.getD ServerAnswer.success)
    (hrun : (submitted entries server.extended.outcome).runOn h = (.ok result, h')) :
    server.Answers result := by
  unfold Reply.outcome at hrun
  cases hfailure : server.extended.failure with
  | none =>
      rw [hfailure] at hrun
      unfold submitted at hrun
      dsimp only at hrun
      rw [runOn_bind_ok (runOn_read _ _)] at hrun
      obtain ⟨result', h₁, hresult, hshowing⟩ := runOn_bind_inv hrun
      obtain ⟨shown, h₂, -, hlogging⟩ := runOn_bind_inv hshowing
      obtain ⟨_, h₃, -, hend⟩ := runOn_bind_inv hlogging
      cases hend
      obtain ⟨hresult, -⟩ := runOn_orFail_inv hresult
      rw [hanswer] at hresult
      exact .answer hfailure hresult
  | some raised =>
      rw [hfailure] at hrun
      unfold submitted at hrun
      dsimp only at hrun
      split at hrun
      · rename_i hrefused
        obtain ⟨_, h₁, -, hrun⟩ := runOn_bind_inv hrun
        cases hrun
        exact .refusal hfailure hrefused
      · cases hrun

theorem submitted_error {entries : Value} {server : DirectoryServer} {f : Fault} {h h' : Host}
    (hrun : (submitted entries server.extended.outcome).runOn h = (.error f, h')) :
    RaisedOnly server f := by
  have hdefect : ∀ d, (Fault.defect d).isKind .connectionFailed = false := fun _ => rfl
  unfold Reply.outcome at hrun
  cases hfailure : server.extended.failure with
  | none =>
      rw [hfailure] at hrun
      have hother : FailsOnly (fun f => f.isKind .connectionFailed = false)
          (submitted entries (.ok ())) := by
        unfold submitted
        refine FailsOnly.bind (FailsOnly.read _) fun answer => ?_
        refine FailsOnly.bind (FailsOnly.orFail fun d _ => hdefect d) fun result => ?_
        refine FailsOnly.bind (FailsOnly.orFail fun d _ => hdefect d) fun shown => ?_
        refine FailsOnly.bind ?_ fun _ => FailsOnly.pure _
        exact fun h f hf => (failsOnly_log _ _ _ h f hf).noConnection
      exact .of_other (hother h f (by rw [hrun]))
  | some raised =>
      rw [hfailure] at hrun
      unfold submitted at hrun
      dsimp only at hrun
      split at hrun
      · have hinner := FailsOnly.bind (failsOnly_log entries .warning
          ("Request failed: " ++ (Fault.raised raised).shown))
          fun _ => FailsOnly.pure (ExtendedResult.ofRaised raised)
        exact .of_other (hinner h f (by rw [hrun])).noConnection
      · cases hrun
        exact .raised (extended_mem_replies _) hfailure

theorem submit_error {r : DeviceRequest} {h h' : Host} {f : Fault}
    (hrun : (submit r).runOn h = (.error f, h')) : RaisedOnly h.server f := by
  rcases submit_cases r h with
    ⟨f', h₁, hfail, -, hkind, -⟩ | ⟨value, entries, h₁, -, -, -, hsubmit⟩
  · rw [hrun] at hfail
    cases hfail
    exact .of_other hkind
  · rw [hrun] at hsubmit
    exact submitted_error hsubmit.symm

theorem submit_ok {r : DeviceRequest} {h h' : Host} {result : ExtendedResult}
    (hrun : (submit r).runOn h = (.ok result, h')) :
    h.server.Answers result ∧ ∃ value, h.Emits [.extendedSent r.oid value] h' := by
  rcases submit_cases r h with
    ⟨f', h₁, hfail, -⟩ | ⟨value, entries, h₁, -, hsent, hanswer, hsubmit⟩
  · rw [hrun] at hfail
    cases hfail
  · rw [hrun] at hsubmit
    have hquiet := quiet_submitted entries h.server.extended.outcome h₁
    rw [← hsubmit] at hquiet
    exact ⟨submitted_ok hanswer hsubmit.symm, value, hsent.before hquiet⟩

/-! ### The session -/

variable {α : Type}

/-- A session that ends with a value has got it from its body. -/
theorem session_ok {s : Settings} {body : Action α} {x : α} {h h' : Host}
    (hrun : (session s body).runOn h = (.ok x, h')) :
    ∃ h₁ h₂, (connect s).runOn h = (.ok (), h₁) ∧ body.runOn h₁ = (.ok x, h₂) ∧
      h₂.Emits [.unbound] h' := by
  unfold session at hrun
  obtain ⟨⟨⟩, h₁, hconnect, hbody⟩ := runOn_bind_inv hrun
  rw [runOn_attempt_bind] at hbody
  obtain ⟨⟨⟩, h₂, hclose, hend⟩ := runOn_bind_inv hbody
  obtain ⟨hclosed, -⟩ := runOn_close (body.runOn h₁).2
  rw [hclose] at hclosed
  obtain ⟨hvalue, rfl⟩ := Prod.mk.inj hend
  exact ⟨h₁, (body.runOn h₁).2, hconnect, Prod.ext hvalue rfl, hclosed⟩

/-- **What a session fails with, if it is a failure to connect, is known from the server**, as long
as its body does not fail to connect by itself. -/
theorem session_error {s : Settings} {body : Action α} {h h' : Host} {f : Fault}
    (hserver : ∀ h₁, (body.runOn h₁).2.server = h₁.server)
    (hbody : ∀ h₁ h₂ f, body.runOn h₁ = (.error f, h₂) → RaisedOnly h₁.server f)
    (hrun : (session s body).runOn h = (.error f, h')) (hkind : f.isKind .connectionFailed = true) :
    s.NotConnected h.server f := by
  rcases hconnect : (connect s).runOn h with ⟨r, h₁⟩
  cases r with
  | error e =>
      rw [runOn_session_of_error (by rw [hconnect])] at hrun
      cases hrun
      exact connect_error hconnect hkind
  | ok _ =>
      obtain ⟨c, hemits, -⟩ := connect_ok hconnect
      have hraised : RaisedOnly h₁.server f := by
        unfold session at hrun
        rw [runOn_bind_ok hconnect, runOn_attempt_bind, runOn_bind] at hrun
        rcases hclose : close.runOn (body.runOn h₁).2 with ⟨r, h₂⟩
        rw [hclose] at hrun
        cases r with
        | error e =>
            cases hrun
            rw [← hserver h₁]
            exact close_error hclose
        | ok _ =>
            have hend : (body.runOn h₁).1 = .error f := congrArg Prod.fst hrun
            exact hbody h₁ _ f (Prod.ext hend rfl)
      obtain ⟨r, hr, rfl⟩ := hraised hkind
      rw [hemits.server] at hr
      exact .raised hr

end Action

end OtpRegistrar
