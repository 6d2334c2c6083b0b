/-
A session with the server, side by side.

Whatever a session does is read off its settings, the answers of the server and the
files of authorities.  The password to bind with and the value of the request are
only handed on, each in an event of its own.  So two sessions that differ in these
alone agree in everything else, if the relation of their hosts takes the pair of
events: `RunsTogether` says which pairs it takes.

For two sessions that do not differ at all this says what a single session keeps.
-/
import OtpRegistrar.Proofs.Directory.Session

namespace OtpRegistrar

/-- Is something shown to the user that is no error? -/
def Event.isPrinted : Event → Bool
  | .printed _ => true
  | _ => false

/-- Hosts in the relation are the same in all that a session looks at, and stay in it whatever a
session does; of two events that are noted side by side it is enough that they are related. -/
structure Host.RunsTogether (S : Host → Host → Prop) (E : Event → Event → Prop) : Prop
    extends LogsTogether S where
  server : ∀ {h h'}, S h h' → h'.server = h.server
  answer : ∀ {h h'}, S h h' → h'.answer = h.answer
  present : ∀ {h h'}, S h h' → ∀ path, h'.files.exists? path = h.files.exists? path
  noted : ∀ {h h' e e'}, S h h' → E e e' → S (h.note e) (h'.note e')
  same : ∀ e, e.isPrinted = false → E e e
  answered : ∀ {h h'}, S h h' → ∀ answer, S { h with answer } { h' with answer }
  configure : ∀ value, Action.Respects S (Action.configure "_logger" value)

/-- An invariant of a single run survives a session if it is about nothing that a session changes;
of the events only those that are printed may matter to it. -/
theorem Host.RunsTogether.itself {R : Host → Host → Prop} [IsTrans Host R]
    (hnote : ∀ h e, e.isPrinted = false → R h (h.note e)) (hlogs : ∀ h logs, R h { h with logs })
    (hfiles : ∀ h files, R h { h with files }) (hanswer : ∀ h answer, R h { h with answer })
    (hconfig : ∀ h config, R h { h with config }) (h₀ : Host) :
    RunsTogether (Action.Itself R h₀) fun e e' => e' = e ∧ e.isPrinted = false where
  toLogsTogether := by
    refine .itself (fun h e he => hnote h e ?_) hlogs hfiles h₀
    cases e <;> first | rfl | cases he
  server hs := by rw [hs.1]
  answer hs := by rw [hs.1]
  present hs path := by rw [hs.1]
  noted := by
    rintro h _ e _ ⟨rfl, hr⟩ ⟨rfl, he⟩
    exact ⟨rfl, IsTrans.trans _ _ _ hr (hnote _ _ he)⟩
  same e he := ⟨rfl, he⟩
  answered := by
    rintro h _ ⟨rfl, hr⟩ answer
    exact ⟨rfl, IsTrans.trans _ _ _ hr (hanswer _ _)⟩
  configure := by
    rintro value h _ ⟨rfl, hr⟩
    refine ⟨.refl _, rfl, ?_⟩
    unfold Action.configure
    rw [Action.runOn_ofFunction]
    split
    · exact IsTrans.trans _ _ _ hr (hconfig _ _)
    · exact hr

/-- TLS settings depend on the files only as far as these are there. -/
theorem Settings.tls_congr {files files' : FileTree}
    (hsame : ∀ path, files'.exists? path = files.exists? path) (s : Settings) :
    s.tls files' = s.tls files := by
  unfold Settings.tls Tls.make Tls.hasFile
  simp only [hsame]

namespace Action

variable {α β : Type} {S : Host → Host → Prop} {E : Event → Event → Prop}

/-! ### Showing -/

theorem respects_displayError (hS : Host.RunsTogether S E) (v : Value) (colored : Bool)
    (style : Style) : Respects S (displayError v colored style) := by
  unfold displayError
  refine Agree.bind_eq (Agree.read fun h h' hs => (hS.screen hs).symm) fun screen => ?_
  exact Agree.change fun h h' hs => hS.noted hs (hS.same _ rfl)

theorem respects_complain (hS : Host.RunsTogether S E) (t : Text) : Respects S (complain t) :=
  respects_displayError hS _ _ _

/-! ### Steps of the server -/

theorem agree_serve (hS : Host.RunsTogether S E) {e e' : Event} (he : E e e')
    (reply : DirectoryServer → Reply) (default : Value) :
    Agree S Eq (serve e reply default) (serve e' reply default) := by
  intro h h' hs
  have hnoted := hS.noted hs he
  unfold serve
  rw [runOn_ofFunction, runOn_ofFunction, hS.server hs]
  dsimp only
  cases (reply h.server).answer with
  | none =>
      cases (reply h.server).failure with
      | none => exact ⟨.ok rfl, hnoted⟩
      | some raised => exact ⟨.error _, hnoted⟩
  | some answer =>
      have hanswered := hS.answered hnoted answer
      cases (reply h.server).failure with
      | none => exact ⟨.ok rfl, hanswered⟩
      | some raised => exact ⟨.error _, hanswered⟩

theorem respects_serve (hS : Host.RunsTogether S E) {e : Event} (he : e.isPrinted = false)
    (reply : DirectoryServer → Reply) (default : Value) : Respects S (serve e reply default) :=
  agree_serve hS (hS.same e he) reply default

theorem respects_runLogger (hS : Host.RunsTogether S E) : Respects S logger :=
  respects_logger hS.toLogsTogether hS.configure

theorem respects_entry (hS : Host.RunsTogether S E) (logger : Value) (level : LogLevel)
    (t : Text) : Respects S (log logger level t) :=
  respects_log hS.toLogsTogether logger level t

theorem respects_close (hS : Host.RunsTogether S E) : Respects S close := by
  unfold close
  refine (respects_serve hS rfl _ _).attempt_bind (fun _ _ _ => Agree.pure rfl) fun f => ?_
  exact Agree.ite (Agree.bind_eq (respects_runLogger hS) fun entries => respects_entry hS _ _ _)
    (Agree.fail _)

theorem respects_giveUp (hS : Host.RunsTogether S E) (entries : Value) (s : Settings)
    (message : Text) (code : Value) : Respects S (giveUp entries s message code) := by
  unfold giveUp
  refine Agree.bind_eq (respects_entry hS _ _ _) fun _ => ?_
  exact Agree.bind_eq (respects_close hS) fun _ => Agree.fail _

theorem respects_refuse (hS : Host.RunsTogether S E) (entries : Value) (s : Settings)
    (what : Text) : Respects S (refuse entries s what) := by
  unfold refuse
  exact Agree.bind_eq (Agree.read fun h h' hs => (hS.answer hs).symm) fun answer =>
    respects_giveUp hS _ _ _ _

theorem respects_demand (hS : Host.RunsTogether S E) (entries : Value) (s : Settings) {e : Event}
    (he : e.isPrinted = false) (reply : DirectoryServer → Reply) (what : Text) :
    Respects S (demand entries s e reply what) := by
  unfold demand
  refine Agree.bind_eq (respects_serve hS he _ _) fun done => ?_
  exact Agree.ite (respects_refuse hS _ _ _) (Agree.pure rfl)

theorem respects_establish (hS : Host.RunsTogether S E) (entries : Value) (s : Settings) :
    Respects S (establish entries s) := by
  rw [establish_steps]
  refine Agree.bind_eq (respects_serve hS rfl _ _) fun _ => ?_
  refine Agree.bind_eq (Agree.ite (respects_demand hS _ _ rfl _ _) (Agree.pure rfl)) fun _ => ?_
  exact Agree.ite (respects_demand hS _ _ rfl _ _) (Agree.pure rfl)

theorem respects_establishOrGiveUp (hS : Host.RunsTogether S E) (entries : Value) (s : Settings) :
    Respects S (establishOrGiveUp entries s) := by
  unfold establishOrGiveUp
  refine (respects_establish hS entries s).attempt_bind (fun _ _ _ => Agree.pure rfl) fun f => ?_
  exact Agree.ite (respects_giveUp hS _ _ _ _) (Agree.fail _)

/-! ### Two passwords -/

/-- Two passwords to bind with make no difference but in the event that hands them on. -/
def HandedOn (E : Event → Event → Prop) (s : Settings) (password password' : Value) : Prop :=
  E (.connectionMade s.bindDn password) (.connectionMade s.bindDn password')

theorem agree_makeConnection (hS : Host.RunsTogether S E) (s : Settings)
    {password password' : Value} (hpasswords : HandedOn E s password password') :
    Agree S Eq (makeConnection s password) (makeConnection s password') := by
  unfold makeConnection tlsOf
  refine Agree.bind_eq ?_ fun tls => ?_
  · refine Agree.bind (Agree.read (V := fun files files' => ∀ path, FileTree.exists? files' path =
      FileTree.exists? files path) fun h h' hs => hS.present hs) fun files files' hsame => ?_
    rw [Settings.tls_congr hsame s]
    exact Agree.orFail _ _
  refine Agree.bind_eq ?_ fun _ => ?_
  · unfold makeServer
    split
    · refine Agree.bind_eq (Agree.orFail _ _) fun endpoint => ?_
      exact Agree.change fun h h' hs => hS.noted hs (hS.same _ rfl)
    · exact Agree.fail _
  refine Agree.bind_eq (Agree.change fun h h' hs => hS.answered hs _) fun _ => ?_
  exact Agree.bind_eq (agree_serve hS hpasswords _ _) fun _ => Agree.pure rfl

theorem agree_prepare (hS : Host.RunsTogether S E) (s : Settings) {password password' : Value}
    (hpasswords : HandedOn E s password password') :
    Agree S Eq (prepare s password) (prepare s password') := by
  unfold prepare
  refine (agree_makeConnection hS s hpasswords).attempt_bind (fun _ _ _ => Agree.pure rfl)
    fun f => ?_
  exact Agree.ite (Agree.fail _) (Agree.fail _)

/-- **Two ways to connect that differ in their passwords agree**, if both passwords can be sent. -/
theorem agree_connect (hS : Host.RunsTogether S E) (s : Settings) {password password' : Value}
    (hpasswords : Agree S (HandedOn E s) (decoded password) (decoded password')) :
    Agree S Eq (connect { s with bindPassword := password })
      (connect { s with bindPassword := password' }) := by
  rw [connect_eq, connect_eq]
  refine Agree.bind_eq (respects_runLogger hS) fun entries => ?_
  refine Agree.bind hpasswords fun sent sent' hsent => ?_
  unfold contact
  refine Agree.bind_eq (agree_prepare hS _ hsent) fun _ => ?_
  refine Agree.bind_eq (respects_entry hS _ _ _) fun _ => ?_
  exact respects_establishOrGiveUp hS entries s

theorem respects_decoded (password : Value) : Respects S (decoded password) := by
  unfold decoded
  split
  · exact Respects.map (Agree.orFail _ _) _
  · exact Agree.pure rfl

theorem respects_connect (hS : Host.RunsTogether S E) (s : Settings) : Respects S (connect s) :=
  agree_connect hS s <| (respects_decoded s.bindPassword).mono fun _ _ hsame =>
    hsame ▸ hS.same _ rfl

/-- **Two sessions agree** if connecting and their bodies do. -/
theorem agree_session (hS : Host.RunsTogether S E) {s s' : Settings} {V : α → β → Prop}
    {body : Action α} {body' : Action β} (hconnect : Agree S Eq (connect s) (connect s'))
    (hbody : Agree S V body body') : Agree S V (session s body) (session s' body') := by
  unfold session
  refine Agree.bind_eq hconnect fun _ => ?_
  refine Agree.bind (Agree.attempt hbody) fun outcome outcome' halike => ?_
  exact Agree.bind_eq (respects_close hS) fun _ => Agree.settle halike

/-! ### Two requests -/

/-- Two requests of one kind, for one user, are the same but in the value that is sent. -/
structure Requested (E : Event → Event → Prop) (r r' : DeviceRequest) : Prop where
  operation : r'.operation = r.operation
  authId : r'.authId = r.authId
  value : Alike (fun value value' => E (.extendedSent r.oid value) (.extendedSent r.oid value'))
    (r.value.mapError Fault.request) (r'.value.mapError Fault.request)

theorem Requested.oid {r r' : DeviceRequest} (hr : Requested E r r') : r'.oid = r.oid := by
  unfold DeviceRequest.oid
  rw [hr.operation]

/-- **Two requests are submitted alike.** -/
theorem agree_submit (hS : Host.RunsTogether S E) {r r' : DeviceRequest} (hr : Requested E r r') :
    Agree S Eq (submit r) (submit r') := by
  unfold submit
  rw [hr.operation, hr.authId, hr.oid]
  refine Agree.bind_eq (respects_runLogger hS) fun entries => ?_
  refine Agree.bind (Agree.settle hr.value) fun value value' hvalues => ?_
  refine Agree.bind_eq (respects_entry hS _ _ _) fun _ => ?_
  have hextend : Agree S Eq (submit.extend r.oid value) (submit.extend r.oid value') := by
    unfold submit.extend
    exact Agree.bind_eq (agree_serve hS hvalues _ _) fun _ => Agree.pure rfl
  refine hextend.attempt_bind (fun _ _ _ => ?_) fun f => ?_
  · refine Agree.bind_eq (Agree.read fun h h' hs => (hS.answer hs).symm) fun answer => ?_
    refine Agree.bind_eq (Agree.orFail _ _) fun result => ?_
    refine Agree.bind_eq (Agree.orFail _ _) fun shown => ?_
    exact Agree.bind_eq (respects_entry hS _ _ _) fun _ => Agree.pure rfl
  · cases f with
    | raised raised =>
        exact Agree.ite (Agree.bind_eq (respects_entry hS _ _ _) fun _ => Agree.pure rfl)
          (Agree.fail _)
    | _ => exact Agree.fail _

theorem respects_submit (hS : Host.RunsTogether S E) (r : DeviceRequest) :
    Respects S (submit r) := by
  refine agree_submit hS ⟨rfl, rfl, ?_⟩
  cases r.value with
  | error e => exact .error _
  | ok value => exact .ok (hS.same _ rfl)

end Action

end OtpRegistrar
