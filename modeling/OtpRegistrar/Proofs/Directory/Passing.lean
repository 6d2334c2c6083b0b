/-
What passes through a session.

A session takes care of what the directory client and the operating system raise: on
the way to it a refusal becomes a failure to connect, and behind it an answer to the
request.  A server that raises nothing else is `Proper`, and then hardly anything
passes through.  The exceptions are listed here.  Two of them lie before the first
contact, where only the directory client's own failures are looked for: a port in a
URL that has more digits than are read, and a refusal of the operating system while
the connection object is made.  The last one lies behind the answer, which may hold
referrals that are no texts and so cannot be shown.
-/
import OtpRegistrar.Proofs.Directory.Failure
import OtpRegistrar.Proofs.Password.Reading

namespace OtpRegistrar

/-- The server raises nothing but failures of the directory client and of the operating system, and
what comes of a request holds a number as its code. -/
structure DirectoryServer.Proper (server : DirectoryServer) : Prop where
  raises : ∀ r, server.Raises r → r.family.isDirectory = true ∨ r.family = .system
  raisedCode : ∀ r, server.extended.failure = some r →
    ∀ result description dn message, r.detail = .answer result description dn message →
      ∃ n, result = .int n
  answerCode : ∀ answer, server.extended.answer = some answer →
    ∃ n, answer.field "result" = .ok (.int n)

/-- The settings can be used to connect: they name a host, at most one file of authorities by its
path, and at most one password that spells a text. -/
structure Settings.Usable (s : Settings) : Prop where
  host : ∃ t, s.host = .text t
  caFile : s.caFile = .null ∨ ∃ t, s.caFile = .text t
  bindPassword : s.bindPassword = .null ∨ ∃ bytes, s.bindPassword = .bytes bytes ∧ Spelled bytes

/-- What no part of a session takes care of on the way to the first contact. -/
inductive Settings.Passes (s : Settings) (server : DirectoryServer) : Fault → Prop
  /-- The port in a URL has more digits than are read. -/
  | port {host : Text} {e : Integer.Flaw} (hhost : s.host = .text host)
      (hresolve : Endpoint.resolve host s.port s.useSsl.truthy = .error (.unreadablePort e)) :
      Passes s server (.endpoint (.unreadablePort e))
  /-- Making the connection object raises a failure that is none of the directory client. -/
  | making {r : Raised} (hraised : server.connect.failure = some r)
      (hother : r.family.isDirectory = false) : Passes s server (.raised r)

namespace DirectoryServer.Proper

variable {server : DirectoryServer} (hproper : server.Proper)

include hproper

theorem isRefusal {r : Raised} (hraises : server.Raises r) : (Fault.raised r).isRefusal = true := by
  rcases hproper.raises r hraises with hdirectory | hsystem
  · unfold Fault.isRefusal
    rw [show (Fault.raised r).family = r.family from rfl, hdirectory, Bool.true_or]
  · unfold Fault.isRefusal
    rw [show (Fault.raised r).isSystem = r.isSystem from rfl, Raised.isSystem, hsystem]
    exact Bool.or_true _

theorem isKind_raised {r : Raised} (hraises : server.Raises r) (kind : OwnKind) :
    (Fault.raised r).isKind kind = false := by
  have hother : r.family ≠ .own kind := by
    rintro hown
    rcases hproper.raises r hraises with hdirectory | hsystem
    · rw [hown] at hdirectory
      cases hdirectory
    · rw [hown] at hsystem
      cases hsystem
  exact beq_eq_false_iff_ne.mpr hother

theorem field_answer :
    ∃ n, (server.extended.answer.getD ServerAnswer.success).field "result" = .ok (.int n) := by
  cases hheld : server.extended.answer with
  | none => exact ⟨0, rfl⟩
  | some answer => exact hproper.answerCode answer hheld

theorem code_of_answers {result : ExtendedResult} (hanswer : server.Answers result) :
    ∃ n, result.code = .int n := by
  cases hanswer with
  | answer hreturns hresult =>
      obtain ⟨n, hn⟩ := hproper.field_answer
      unfold ExtendedResult.ofAnswer at hresult
      rw [hn] at hresult
      cases hresult
      exact ⟨n, rfl⟩
  | @refusal r hraised hrefused =>
      unfold ExtendedResult.ofRaised
      split
      · rename_i result _ dn message hdetail
        exact hproper.raisedCode r hraised _ _ _ _ hdetail
      · split
        · exact ⟨_, rfl⟩
        · exact ⟨_, rfl⟩
        · exact ⟨_, rfl⟩

/-- A step on the way to a session that fails is refused. -/
theorem not_escapes {s : Settings} {b : Setback} (hb : s.setback? server = some b) :
    b.escapes = false := by
  obtain ⟨d, hd, held, -, hsome⟩ := setback?_mem _ _ hb
  rcases Demand.setback?_cases hsome with ⟨r, rfl, hr⟩ | ⟨message, rfl⟩
  · unfold Setback.escapes
    dsimp only
    rw [hproper.isRefusal ⟨_, Settings.reply_mem_of_demands server hd, hr⟩]
    rfl
  · rfl

/-- The failure to close takes nothing's place. -/
theorem settling {α : Type} (outcome : Except Fault α) :
    server.unbind.settling outcome = outcome := by
  unfold Reply.settling
  cases hfailure : server.unbind.failure with
  | none => rfl
  | some raised =>
      dsimp only
      rw [hproper.isRefusal ⟨_, Action.unbind_mem_replies server, hfailure⟩, if_pos rfl]

end DirectoryServer.Proper

theorem Setback.fault_raised {r : Raised} (hr : (raised r).escapes = false) :
    (raised r).fault =
      .connection (Fault.raised r).shown (.int ResultCode.connectError.code) := by
  have hrefused : (Fault.raised r).isRefusal = true := by
    unfold escapes at hr
    simpa using hr
  unfold fault
  exact if_pos hrefused

theorem Setback.isKind_fault {b : Setback} (hb : b.escapes = false) :
    b.fault.isKind .connectionFailed = true := by
  cases b with
  | refused message code => rfl
  | raised r =>
      rw [fault_raised hb]
      rfl

theorem ExtendedResult.shown_ofRaised (r : Raised) :
    ∃ t, (ExtendedResult.ofRaised r).shown = .ok t := by
  have hnone : (ExtendedResult.ofRaised r).referrals = .null := by
    unfold ofRaised
    split
    · rfl
    · split <;> rfl
  unfold shown
  rw [hnone]
  exact ⟨_, rfl⟩

/-- With files named by their paths, TLS settings fail only for a file that is not there. -/
theorem Settings.Usable.tls_error {s : Settings} (hs : s.Usable) {files : FileTree} {e : Tls.Flaw}
    (hasked : s.tls files = .error e) : e = .missingFile := by
  unfold tls at hasked
  split at hasked
  · rcases hs.caFile with hnull | ⟨path, hpath⟩
    · rw [hnull] at hasked
      cases hasked
    · rw [hpath] at hasked
      unfold Tls.make Tls.hasFile at hasked
      split at hasked
      · cases hasked
      · dsimp only at hasked
        split at hasked
        · cases hasked
        · cases hasked
          rfl
  · cases hasked

namespace Action

variable {α : Type} {h : Host}

/-! ### Connecting -/

theorem runOn_logger_of_hasLogger {name : Text} (hname : h.HasLogger name) :
    logger.runOn h = (.ok (.logger name), h) := by
  have hthere := runOn_logger_of_there (h := h) (by rw [hname]; rfl)
  rwa [hname] at hthere

theorem comesTo_serve (e : Event) (reply : DirectoryServer → Reply) (default : Value) :
    ComesTo (fun _ _ => True)
      (fun f => ∃ r, (reply h.server).failure = some r ∧ f = .raised r)
      (serve e reply default) h := by
  unfold ComesTo serve
  rw [runOn_ofFunction]
  dsimp only
  cases hfailure : (reply h.server).failure with
  | none => trivial
  | some r => exact ⟨r, rfl, rfl⟩

/-- The directory client fails to make a connection ready, or something passes through. -/
theorem comesTo_makeConnection {s : Settings} (hs : s.Usable) (password : Value) :
    ComesTo (fun _ _ => True) (fun f => f.family.isDirectory = true ∨ s.Passes h.server f)
      (makeConnection s password) h := by
  have htls : ComesTo (fun _ h' => h' = h)
      (fun f => f.family.isDirectory = true ∨ s.Passes h.server f) (tlsOf s) h := by
    unfold tlsOf
    refine .after (runOn_read _ _) (.orFail (fun _ _ => rfl) fun e he => .inl ?_)
    rw [hs.tls_error he]
    rfl
  unfold makeConnection
  refine ComesTo.bind htls ?_
  rintro tls h rfl
  have hserver : ComesTo (fun _ h' => h'.server = h.server)
      (fun f => f.family.isDirectory = true ∨ s.Passes h.server f) (makeServer s tls) h := by
    obtain ⟨host, hhost⟩ := hs.host
    unfold makeServer
    rw [hhost]
    refine ComesTo.bind (Q := fun _ h' => h' = h) (.orFail (fun _ _ => rfl) fun e he => ?_) ?_
    · cases e with
      | unreadablePort e => exact .inr (.port hhost he)
      | _ => exact .inl rfl
    · rintro endpoint h rfl
      exact .of_ok rfl rfl
  refine ComesTo.bind hserver fun _ h₁ hsame => .after (runOn_change _ _) ?_
  refine ComesTo.bind ((comesTo_serve _ _ _).mono (fun _ _ hq => hq) ?_)
    fun _ _ _ => .of_ok rfl trivial
  rintro _ ⟨r, hraised, rfl⟩
  rw [show ({ h₁ with answer := .null } : Host).server = h₁.server from rfl, hsame] at hraised
  cases hfamily : r.family.isDirectory with
  | true => exact .inl hfamily
  | false => exact .inr (.making hraised hfamily)

/-- What the directory client fails with is a failure to connect. -/
theorem comesTo_readying {s : Settings} (hs : s.Usable) :
    ComesTo (fun _ _ => True) (fun f => f.isKind .connectionFailed = true ∨ s.Passes h.server f)
      (readying s) h := by
  have hdecoded : ∃ password, (decoded s.bindPassword).runOn h = (.ok password, h) := by
    rcases hs.bindPassword with hnull | ⟨bytes, hbytes, hspelled⟩
    · rw [hnull]
      exact ⟨_, rfl⟩
    · obtain ⟨t, ht⟩ := decoded_spelled hspelled
      rw [hbytes, ht]
      exact ⟨_, rfl⟩
  obtain ⟨password, hpassword⟩ := hdecoded
  unfold readying prepare
  refine .after hpassword (ComesTo.attempt_bind (comesTo_makeConnection hs password)
    (fun _ _ _ => .of_ok rfl trivial) fun f h₁ hf => ?_)
  dsimp only
  split
  · exact .of_error rfl (.inl rfl)
  · rename_i hother
    exact .of_error rfl (.inr (hf.resolve_left hother))

/-- **What connecting to a proper server comes to**: the connection is established and the logger
still there, or there is a failure to connect, or something passes through. -/
theorem comesTo_connect {s : Settings} (hs : s.Usable) {name : Text} (hname : h.HasLogger name)
    (hproper : h.server.Proper) :
    ComesTo (fun _ h' => h'.HasLogger name ∧ h'.server = h.server)
      (fun f => f.isKind .connectionFailed = true ∨ s.Passes h.server f) (connect s) h := by
  have hgiven := runOn_logger_of_hasLogger hname
  have hconnect : connect s = (do
      let entries ← logger
      readying s
      log entries .debug ("Connecting to server: " ++ s.uri)
      establishOrGiveUp entries s) := by
    unfold readying
    simp only [bind_assoc]
    exact connect_eq s
  rw [hconnect]
  refine .after hgiven ?_
  rcases runOn_readying s h with ⟨f, h₁, hrun, -⟩ | ⟨es, h₁, hrun, hemits, -, hanswer⟩
  · exact .of_error (runOn_bind_error hrun) ((comesTo_readying hs).error hrun)
  obtain ⟨h₂, hlog, hlogged⟩ := runOn_log_logger name .debug ("Connecting to server: " ++ s.uri) h₁
  have hanswered := answer_log name .debug ("Connecting to server: " ++ s.uri) h₁
  rw [hlog, hanswer] at hanswered
  have hready := hemits.before hlogged
  refine .after hrun (.after hlog ?_)
  have hestablish := runOn_establishOrGiveUp (hname.of_emits hready) s
  rw [hready.server, hanswered] at hestablish
  rcases hrest : (establishOrGiveUp (.logger name) s).runOn h₂ with ⟨r, h₃⟩
  rw [hrest] at hestablish
  cases hturn : s.setback? h.server with
  | none =>
      rw [show h.server.setback? s.demands _ = none from hturn] at hestablish
      obtain ⟨rfl, hcloses⟩ := hestablish
      exact .of_ok hrest ⟨hcloses.logger name (hname.of_emits hready),
        hcloses.server.trans hready.server⟩
  | some b =>
      have hrefused := hproper.not_escapes hturn
      rw [show h.server.setback? s.demands _ = some b from hturn] at hestablish
      dsimp only at hestablish
      rw [hrefused, if_neg Bool.false_ne_true, hproper.settling] at hestablish
      obtain ⟨rfl, -⟩ := hestablish
      exact .of_error hrest (.inl (Setback.isKind_fault hrefused))

/-! ### The request -/

/-- What comes of a request cannot be shown: its referrals are no texts. -/
def Unshown (server : DirectoryServer) (f : Fault) : Prop :=
  ∃ result d, server.Answers result ∧ result.shown = .error d ∧ f = .defect d

/-- **What a request to a proper server comes to**: its result, or what cannot be shown. -/
theorem comesTo_submit {r : DeviceRequest} {value : List UInt8} (hvalue : r.value = .ok value)
    {name : Text} (hname : h.HasLogger name) (hproper : h.server.Proper) :
    ComesTo (fun result _ => ∃ t, result.shown = .ok t) (Unshown h.server) (submit r) h := by
  have hgiven := runOn_logger_of_hasLogger hname
  obtain ⟨h₁, hlog, hlogged⟩ := runOn_log_logger name .debug ("Sending " ++ r.operation.name ++
    " request (" ++ r.oid ++ ") for: " ++ (Value.ofText? r.authId).shown) h
  obtain ⟨h₂, hextend, -, hanswer⟩ := runOn_extend r.oid value h₁
  rw [hlogged.server] at hextend hanswer
  have htried : (attempt (submit.extend r.oid value)).runOn h₁ =
      (.ok h.server.extended.outcome, h₂) := by
    rw [runOn_attempt, hextend]
  rw [submit_eq]
  refine .after hgiven (.after (by rw [runOn_orFail, hvalue]; rfl) (.after hlog ?_))
  refine .after htried ?_
  unfold Reply.outcome submitted
  cases hfailure : h.server.extended.failure with
  | some raised =>
      have hrefused := hproper.isRefusal ⟨_, extended_mem_replies _, hfailure⟩
      dsimp only
      rw [if_pos hrefused]
      exact .of_ok rfl (ExtendedResult.shown_ofRaised raised)
  | none =>
      obtain ⟨n, hn⟩ := hproper.field_answer
      have hresult : ∃ result, ExtendedResult.ofAnswer h₂.answer = .ok result := by
        unfold ExtendedResult.ofAnswer
        rw [hanswer, hn]
        exact ⟨_, rfl⟩
      obtain ⟨result, hresult⟩ := hresult
      dsimp only
      refine .after (runOn_read _ _) (.after (by rw [runOn_orFail, hresult]; rfl) ?_)
      rw [hanswer] at hresult
      refine ComesTo.bind (Q := fun t _ => result.shown = .ok t) (.orFail (fun _ ht => ht)
        fun d hd => ⟨result, d, .answer hfailure hresult, hd, rfl⟩) fun t h₃ ht => ?_
      exact .of_ok rfl ⟨t, ht⟩

/-! ### The session -/

/-- **What a session with a proper server comes to**: what its body does, unless there is a failure
to connect or something passes through. -/
theorem comesTo_session {s : Settings} (hs : s.Usable) {name : Text} (hname : h.HasLogger name)
    (hproper : h.server.Proper) {body : Action α} (hleaves : LeavesClosing body)
    (hserver : ∀ h₁, (body.runOn h₁).2.server = h₁.server) {Q : α → Prop} {P : Fault → Prop}
    (hbody : ∀ h₁, h₁.HasLogger name → h₁.server = h.server →
      ComesTo (fun x _ => Q x) P body h₁) :
    ComesTo (fun x _ => Q x)
      (fun f => f.isKind .connectionFailed = true ∨ s.Passes h.server f ∨ P f)
      (session s body) h := by
  have hconnected := comesTo_connect hs hname hproper
  rcases hconnect : (connect s).runOn h with ⟨r, h₁⟩
  cases r with
  | error f =>
      refine .of_error (runOn_session_of_error (by rw [hconnect])) ?_
      exact (hconnected.error hconnect).imp_right .inl
  | ok _ =>
      obtain ⟨hname₁, hserver₁⟩ := hconnected.ok hconnect
      obtain ⟨-, hends⟩ := runOn_session_of_connected hconnect hname₁ hleaves
      rw [hserver, hserver₁, hproper.settling] at hends
      have hcomes := hbody h₁ hname₁ hserver₁
      rcases hrun : body.runOn h₁ with ⟨r, h₂⟩
      rw [hrun] at hends
      cases r with
      | ok x =>
          have hrun' : (session s body).runOn h = (.ok x, ((session s body).runOn h).2) :=
            Prod.ext hends rfl
          exact .of_ok hrun' (hcomes.ok hrun)
      | error f =>
          have hrun' : (session s body).runOn h = (.error f, ((session s body).runOn h).2) :=
            Prod.ext hends rfl
          exact .of_error hrun' (.inr (.inr (hcomes.error hrun)))

end Action

end OtpRegistrar
