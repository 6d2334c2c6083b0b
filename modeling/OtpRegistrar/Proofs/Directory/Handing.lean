/-
What a session hands to the server.

The directory client is given a user with a password when a connection is made, and an
operation with its value when one is sent; nothing else that it is given was not
there in the settings.  So it is enough to look at these two kinds of events, and to
ask of each what it may hold: an action that emits no others keeps this
(`Host.Hands`), whatever comes of it and in whatever order.
-/
import OtpRegistrar.Proofs.Directory.Session

namespace OtpRegistrar

/-- What is handed over in an event is what may be: the user and the password that a connection is
made with, or an operation that is sent with its value. -/
def Event.Hands (made : Value → Value → Prop) (sent : Text → List UInt8 → Prop) : Event → Prop
  | .connectionMade user password => made user password
  | .extendedSent oid value => sent oid value
  | _ => True

/-- One host follows another, and only what may be is handed over in between. -/
def Host.Hands (made : Value → Value → Prop) (sent : Text → List UInt8 → Prop) (h h' : Host) :
    Prop := ∃ es, h.Emits es h' ∧ ∀ e ∈ es, e.Hands made sent

section

variable {made : Value → Value → Prop} {sent : Text → List UInt8 → Prop}

theorem Host.Emits.hands {h h' : Host} {es : List Event} (hemits : h.Emits es h')
    (hes : ∀ e ∈ es, e.Hands made sent) : h.Hands made sent h' := ⟨es, hemits, hes⟩

theorem Host.Emits.hands_nothing {h h' : Host} (hquiet : h.Emits [] h') : h.Hands made sent h' :=
  hquiet.hands fun _ he => absurd he List.not_mem_nil

instance : IsPreorder Host (Host.Hands made sent) where
  refl h := (Host.Emits.refl h).hands_nothing
  trans := by
    rintro h h' h'' ⟨es, hemits, hes⟩ ⟨es', hemits', hes'⟩
    exact (hemits.trans hemits').hands (List.forall_mem_append.mpr ⟨hes, hes'⟩)

namespace Action

variable {α : Type} {s : Settings} {password : Value}

theorem hands_of_quiet {a : Action α} (ha : Quiet a) : Keeps (Host.Hands made sent) a :=
  fun h => (ha h).hands_nothing

/-- A step with the server hands over what its event holds. -/
theorem hands_serve {e : Event} (he : e.isOutward = true) (hhands : e.Hands made sent)
    (reply : DirectoryServer → Reply) (default : Value) :
    Keeps (Host.Hands made sent) (serve e reply default) := by
  intro h
  obtain ⟨h', hemits, -, hserve⟩ := runOn_serve he reply default h
  rw [hserve]
  exact hemits.hands (by simpa using hhands)

theorem hands_close : Keeps (Host.Hands made sent) close := by
  intro h
  exact (runOn_close h).1.hands (by simp [Event.Hands])

theorem hands_giveUp (entries : Value) (message : Text) (code : Value) :
    Keeps (Host.Hands made sent) (giveUp entries s message code) := by
  unfold giveUp
  refine Keeps.bind (hands_of_quiet (quiet_log _ _ _)) fun _ => ?_
  exact Keeps.bind hands_close fun _ => Keeps.fail _

theorem hands_demand (entries : Value) {e : Event} (he : e.isOutward = true)
    (hhands : e.Hands made sent) (reply : DirectoryServer → Reply) (what : Text) :
    Keeps (Host.Hands made sent) (demand entries s e reply what) := by
  unfold demand refuse
  refine Keeps.bind (hands_serve he hhands reply _) fun done => Keeps.ite ?_ (Keeps.pure _)
  exact Keeps.bind (Keeps.read _) fun answer => hands_giveUp _ _ _

theorem hands_establishOrGiveUp (entries : Value) :
    Keeps (Host.Hands made sent) (establishOrGiveUp entries s) := by
  have hestablish : Keeps (Host.Hands made sent) (establish entries s) := by
    rw [establish_steps]
    refine Keeps.bind (hands_serve (e := .opened) rfl trivial _ _) fun _ => ?_
    refine Keeps.bind ?_ fun _ => ?_
    · exact Keeps.ite (hands_demand entries (e := .tlsStarted) rfl trivial _ _) (Keeps.pure _)
    · exact Keeps.ite (hands_demand entries (e := .bound) rfl trivial _ _) (Keeps.pure _)
  unfold establishOrGiveUp
  refine Keeps.bind (Keeps.attempt hestablish) fun outcome => ?_
  cases outcome with
  | ok _ => exact Keeps.pure _
  | error f => exact Keeps.ite (hands_giveUp _ _ _) (Keeps.fail _)

/-- A connection is made with the name to bind with, and with the password that is given. -/
theorem hands_prepare (hmade : made s.bindDn password) :
    Keeps (Host.Hands made sent) (prepare s password) := by
  intro h
  rw [runOn_prepare]
  revert h
  show Keeps (Host.Hands made sent) (makeConnection s password)
  unfold makeConnection tlsOf
  refine Keeps.bind (Keeps.bind (Keeps.read _) fun files => Keeps.orFail _ _) fun tls => ?_
  refine Keeps.bind (fun h => ?_) fun _ => Keeps.bind (fun h => ?_) fun _ => ?_
  · rcases runOn_makeServer s tls h with ⟨f, hfail, -⟩ | ⟨host, endpoint, -, -, hnoted⟩
    · rw [hfail]
      exact (Host.Emits.refl h).hands_nothing
    · rw [hnoted]
      exact (h.emits_outward rfl).hands (by simp [Event.Hands])
  · have hcleared : h.Emits [] { h with answer := .null } := Host.emits_nothing rfl rfl rfl rfl rfl
    exact hcleared.hands_nothing
  · exact Keeps.bind (hands_serve (e := .connectionMade s.bindDn password) rfl hmade _ _) fun _ =>
      Keeps.pure _

theorem hands_connect (hdecoded : decoded s.bindPassword = pure password)
    (hmade : made s.bindDn password) : Keeps (Host.Hands made sent) (connect s) := by
  rw [connect_eq]
  refine Keeps.bind (hands_of_quiet quiet_logger) fun entries => ?_
  rw [hdecoded, pure_bind]
  refine Keeps.bind (hands_prepare hmade) fun _ => ?_
  exact Keeps.bind (hands_of_quiet (quiet_log _ _ _)) fun _ => hands_establishOrGiveUp entries

/-- **A session hands over its user and password, and what its body hands over.** -/
theorem hands_session {body : Action α} (hdecoded : decoded s.bindPassword = pure password)
    (hmade : made s.bindDn password) (hbody : Keeps (Host.Hands made sent) body) :
    Keeps (Host.Hands made sent) (session s body) := by
  unfold session
  refine Keeps.bind (hands_connect hdecoded hmade) fun _ => ?_
  refine Keeps.bind (Keeps.attempt hbody) fun outcome => ?_
  exact Keeps.bind hands_close fun _ => Keeps.settle _

theorem hands_submit {r : DeviceRequest} (hsent : ∀ value, r.value = .ok value → sent r.oid value) :
    Keeps (Host.Hands made sent) (submit r) := by
  intro h
  rcases emits_submit r h with ⟨hquiet, -⟩ | ⟨value, hvalue, hemits⟩
  · exact hquiet.hands_nothing
  · exact hemits.hands (by simpa [Event.Hands] using hsent value hvalue)

end Action

end

end OtpRegistrar
