/-
Establishing a connection.

A connection is opened and then, as far as the settings ask for it, upgraded and
bound.  The order is not hard to see as long as every step succeeds.  What takes
some care is the way out.  A step may be answered with a refusal or may fail, the
refusal is reported by a helper that closes the connection and fails itself, and
that failure is looked at again by what called the step.  The connection is closed
only once all the same, since a fault that comes from closing is never a refusal:
this is what `Closing` records, and what carries through the proofs below.

An action `Takes` a course if it does so in every run, however the run ends.  Two
actions in a row take the two courses one behind the other, and so the order of a
connection follows from its single steps.
-/
import OtpRegistrar.Proofs.Config.Logging
import OtpRegistrar.Proofs.Host.Course

namespace OtpRegistrar

/-! ### Answers of the server -/

/-- The server does its part without failing. -/
def Reply.Returns (r : Reply) : Prop := r.failure = none

/-- The server does what it is asked for. -/
def Reply.Agrees (r : Reply) : Prop :=
  r.Returns ∧ (r.value.getD (.bool true)).truthy = true

/-- What comes out of a step that nothing but its failure is asked of. -/
def Reply.outcome (r : Reply) : Except Fault Unit :=
  match r.failure with
  | some raised => .error (.raised raised)
  | none => .ok ()

theorem Reply.outcome_eq_ok_iff {r : Reply} : r.outcome = .ok () ↔ r.Returns := by
  unfold outcome Returns
  cases r.failure with
  | some raised => exact ⟨fun hok => (nomatch hok), fun hnone => nomatch hnone⟩
  | none => exact ⟨fun _ => rfl, fun _ => rfl⟩

/-- A connection with the settings is ready for a bind: the server opens it, and upgrades it if the
settings ask for that. -/
def Settings.Ready (s : Settings) (server : DirectoryServer) : Prop :=
  server.start.Returns ∧ (s.useStartTls.truthy = true → server.startTls.Agrees)

namespace Action

variable {α β : Type}

/-- Every step with the server is noted, and has the result that the server gives. -/
theorem runOn_serve {e : Event} (he : e.isOutward = true) (reply : DirectoryServer → Reply)
    (default : Value) (h : Host) :
    ∃ h', h.Emits [e] h' ∧ h'.answer = (reply h.server).answer.getD h.answer ∧
      (serve e reply default).runOn h =
        (match (reply h.server).failure with
          | some raised => .error (.raised raised)
          | none => .ok ((reply h.server).value.getD default), h') := by
  have hnote := h.emits_outward he
  refine ⟨{ h.note e with answer := (reply h.server).answer.getD (h.note e).answer },
    hnote.before (Host.emits_nothing rfl rfl rfl rfl rfl), rfl, ?_⟩
  unfold serve
  rw [runOn_ofFunction]
  dsimp only
  cases (reply h.server).failure <;> cases (reply h.server).answer <;> rfl

/-! ### Closing -/

/-- What an action that ends with the fault does last: nothing, or it closes the connection, and
then the fault is no refusal. -/
def Closing (f : Fault) (closing : List Event) : Prop :=
  closing = [] ∨ closing = [.unbound] ∧ NoRefusal f

/-- Closing is one step, and what it fails with is no refusal. -/
theorem runOn_close (h : Host) :
    h.Emits [.unbound] (close.runOn h).2 ∧ ∀ f, (close.runOn h).1 = .error f → NoRefusal f := by
  obtain ⟨h', hemits, -, hserve⟩ := runOn_serve (e := .unbound) rfl (·.unbind) (.bool true) h
  unfold close
  rw [runOn_attempt_bind, hserve]
  cases (h.server.unbind).failure with
  | none => exact ⟨hemits, fun f hf => nomatch hf⟩
  | some raised =>
      dsimp only
      split
      · refine ⟨hemits.before ?_, ?_⟩
        · exact Keeps.bind quiet_logger (fun entries => quiet_log entries _ _) h'
        · have hinner := FailsOnly.bind failsOnly_logger fun entries => failsOnly_log entries
            .warning ("Error closing connection: " ++ (Fault.raised raised).shown)
          exact fun f hf => (hinner h' f hf).noRefusal
      · rename_i hother
        refine ⟨hemits, ?_⟩
        intro f hf
        cases hf
        exact Bool.eq_false_iff.mpr hother

/-- Giving up closes the connection and fails; the fault is no refusal. -/
theorem runOn_giveUp (entries : Value) (s : Settings) (message : Text) (code : Value) (h : Host) :
    ∃ f h' closing, (giveUp entries s message code).runOn h = (.error f, h') ∧
      h.Emits closing h' ∧ NoRefusal f ∧ (closing = [] ∨ closing = [.unbound]) := by
  unfold giveUp
  have hlogged := quiet_log entries .warning
    ("Error connecting to server: " ++ s.uri ++ ": " ++ message) h
  have hkind := failsOnly_log entries .warning
    ("Error connecting to server: " ++ s.uri ++ ": " ++ message) h
  rw [runOn_bind]
  rcases hlog : (log entries .warning
    ("Error connecting to server: " ++ s.uri ++ ": " ++ message)).runOn h with ⟨r, h₁⟩
  rw [hlog] at hlogged hkind
  cases r with
  | error f => exact ⟨f, h₁, [], rfl, hlogged, (hkind f rfl).noRefusal, .inl rfl⟩
  | ok _ =>
      obtain ⟨hclosed, hnone⟩ := runOn_close h₁
      dsimp only
      rw [runOn_bind]
      rcases hclose : close.runOn h₁ with ⟨r, h₂⟩
      rw [hclose] at hclosed hnone
      cases r with
      | error f => exact ⟨f, h₂, _, rfl, hlogged.after hclosed, hnone f rfl, .inr rfl⟩
      | ok _ => exact ⟨_, h₂, _, rfl, hlogged.after hclosed, rfl, .inr rfl⟩

/-! ### Taking a course -/

/-- One run of an action takes a course: to its end if there is a value, else up to the step that
stops it, with a closing behind. -/
def Taken (course : List Step) (h : Host) : Except Fault α × Host → Prop
  | (.ok _, h') => h.Emits (Step.events course) h' ∧ Step.AllPassed course
  | (.error f, h') => ∃ steps closing, h.Emits (steps ++ closing) h' ∧ Stops course steps ∧
      Closing f closing

/-- The action takes the course on every host with the server. -/
def Takes (server : DirectoryServer) (course : List Step) (a : Action α) : Prop :=
  ∀ h, h.server = server → Taken course h (a.runOn h)

namespace Takes

variable {server : DirectoryServer}

theorem pure (x : α) : Takes server [] (Pure.pure x : Action α) :=
  fun h _ => ⟨Host.Emits.refl h, .nil⟩

/-- The courses of two actions are taken one behind the other. -/
theorem bind {course course' : List Step} {a : Action α} {f : α → Action β}
    (ha : Takes server course a) (hf : ∀ x, Takes server course' (f x)) :
    Takes server (course ++ course') (a >>= f) := by
  intro h hserver
  have htaken := ha h hserver
  rw [runOn_bind]
  rcases hr : a.runOn h with ⟨r, h'⟩
  rw [hr] at htaken
  cases r with
  | error e =>
      obtain ⟨steps, closing, hemits, hstops, hclosing⟩ := htaken
      exact ⟨steps, closing, hemits, hstops.extend course', hclosing⟩
  | ok x =>
      obtain ⟨hemits, hpassed⟩ := htaken
      have hrest := hf x h' (hemits.server.trans hserver)
      dsimp only
      rcases hr' : (f x).runOn h' with ⟨r', h''⟩
      rw [hr'] at hrest
      cases r' with
      | ok y =>
          obtain ⟨hemits', hpassed'⟩ := hrest
          refine ⟨?_, hpassed.append hpassed'⟩
          rw [Step.events_append]
          exact hemits.trans hemits'
      | error e =>
          obtain ⟨steps, closing, hemits', hstops, hclosing⟩ := hrest
          refine ⟨Step.events course ++ steps, closing, ?_, hstops.append hpassed, hclosing⟩
          rw [List.append_assoc]
          exact hemits.trans hemits'

theorem ite {course : List Step} {c : Prop} [Decidable c] {a b : Action α}
    (ha : c → Takes server course a) (hb : ¬c → Takes server [] b) :
    Takes server (if c then course else []) (if c then a else b) := by
  by_cases hc : c
  · rw [if_pos hc, if_pos hc]
    exact ha hc
  · rw [if_neg hc, if_neg hc]
    exact hb hc

end Takes

/-! ### Establishing -/

/-- A step that the server has to agree to. -/
def demand (entries : Value) (s : Settings) (e : Event) (reply : DirectoryServer → Reply)
    (what : Text) : Action Unit := do
  let done ← serve e reply (.bool true)
  if !done.truthy then refuse entries s what

theorem takes_demand (entries : Value) (s : Settings) (server : DirectoryServer) {e : Event}
    (he : e.isOutward = true) (reply : DirectoryServer → Reply) (what : Text) :
    Takes server [⟨e, (reply server).Agrees⟩] (demand entries s e reply what) := by
  intro h hserver
  obtain ⟨h', hemits, -, hserve⟩ := runOn_serve he reply (.bool true) h
  unfold demand
  rw [runOn_bind, hserve, hserver]
  cases hfailure : (reply server).failure with
  | some raised =>
      refine ⟨[e], [], hemits, .here fun hagrees => ?_, .inl rfl⟩
      cases hfailure.symm.trans hagrees.1
  | none =>
      dsimp only
      split
      · rename_i hrefused
        unfold refuse
        rw [runOn_bind_ok (runOn_read _ _)]
        obtain ⟨f, h'', closing, hgiveUp, hclosing, hnone, hlast⟩ :=
          runOn_giveUp entries s (what ++ " failed: " ++ (ServerAnswer.message h'.answer).shown)
            (ServerAnswer.code h'.answer) h'
        rw [hgiveUp]
        refine ⟨[e], closing, hemits.trans hclosing, .here fun hagrees => ?_,
          hlast.imp_right fun hclosed => ⟨hclosed, hnone⟩⟩
        rw [hagrees.2] at hrefused
        cases hrefused
      · rename_i hagreed
        exact ⟨hemits, .cons ⟨hfailure, by simpa using hagreed⟩ .nil⟩

/-- The course of a connection that is made ready: it is opened, upgraded if the settings ask for
it, and bound if there is a name to bind with. -/
def establishing (s : Settings) (server : DirectoryServer) : List Step :=
  ⟨.opened, server.start.Returns⟩ ::
    ((if s.useStartTls.truthy then [⟨.tlsStarted, server.startTls.Agrees⟩] else []) ++
      (if s.bindDn.truthy then [⟨.bound, server.bind.Agrees⟩] else []))

theorem takes_opened (server : DirectoryServer) :
    Takes server [⟨.opened, server.start.Returns⟩] (serve .opened (·.start) .null) := by
  intro h hserver
  obtain ⟨h', hemits, -, hserve⟩ := runOn_serve (e := .opened) rfl (·.start) .null h
  rw [hserve, hserver]
  cases hfailure : server.start.failure with
  | some raised =>
      refine ⟨[.opened], [], hemits, .here fun hreturns => ?_, .inl rfl⟩
      cases hfailure.symm.trans hreturns
  | none => exact ⟨hemits, .cons hfailure .nil⟩

/-- Establishing is a row of steps, of which the settings may leave some out. -/
theorem establish_steps (entries : Value) (s : Settings) : establish entries s = (do
    let _ ← serve .opened (·.start) .null
    (if s.useStartTls.truthy then demand entries s .tlsStarted (·.startTls) "StartTLS"
      else pure ())
    (if s.bindDn.truthy then demand entries s .bound (·.bind) "Bind" else pure ())) := by
  unfold establish demand
  refine bind_congr fun _ => ?_
  dsimp only
  split
  · rw [bind_assoc]
    refine bind_congr fun done => ?_
    split
    · rfl
    · rw [pure_bind]
  · rw [pure_bind]

/-- A connection is established in its order. -/
theorem takes_establish (entries : Value) (s : Settings) (server : DirectoryServer) :
    Takes server (establishing s server) (establish entries s) := by
  rw [establish_steps]
  refine Takes.bind (takes_opened server) fun _ => Takes.bind ?_ fun _ => ?_
  · exact Takes.ite (fun _ => takes_demand entries s server rfl (·.startTls) "StartTLS")
      fun _ => Takes.pure ()
  · exact Takes.ite (fun _ => takes_demand entries s server rfl (·.bind) "Bind")
      fun _ => Takes.pure ()

/-- Opening comes first, and nothing stands before it. -/
theorem opened_mem_of_stops {s : Settings} {server : DirectoryServer} {steps : List Event}
    (hstops : Stops (establishing s server) steps) : .opened ∈ steps := by
  have hfront : Stops ([] ++ establishing s server) steps := hstops
  exact hfront.reaches .nil

/-- A bind has been tried if there is a name to bind with, and opening and upgrading went well. -/
theorem bound_mem_of_stops {s : Settings} {server : DirectoryServer} {steps : List Event}
    (hstops : Stops (establishing s server) steps) (hready : s.Ready server)
    (hbinds : s.bindDn.truthy = true) : .bound ∈ steps := by
  unfold establishing at hstops
  rw [if_pos hbinds, ← List.cons_append] at hstops
  refine hstops.reaches (.cons hready.1 ?_)
  split
  · rename_i hasks
    exact .cons (hready.2 hasks) .nil
  · exact .nil

/-- A connection is established, or given up on a refusal. -/
def establishOrGiveUp (entries : Value) (s : Settings) : Action Unit := do
  match ← attempt (establish entries s) with
  | .ok () => return
  | .error f =>
    if f.isRefusal then giveUp entries s f.shown (.int ResultCode.connectError.code) else fail f

/-- A refusal while establishing is given up on, and the connection is closed only once. -/
theorem takes_establishOrGiveUp (entries : Value) (s : Settings) (server : DirectoryServer) :
    Takes server (establishing s server) (establishOrGiveUp entries s) := by
  intro h hserver
  have htaken := takes_establish entries s server h hserver
  unfold establishOrGiveUp
  rw [runOn_attempt_bind]
  rcases hr : (establish entries s).runOn h with ⟨r, h'⟩
  rw [hr] at htaken
  cases r with
  | ok _ => exact htaken
  | error f =>
      obtain ⟨steps, closing, hemits, hstops, hclosing⟩ := htaken
      dsimp only
      split
      · rename_i hrefused
        obtain ⟨f', h'', closing', hgiveUp, hclosed, hnone, hlast⟩ :=
          runOn_giveUp entries s f.shown (.int ResultCode.connectError.code) h'
        rw [hgiveUp]
        -- a refusal cannot come from closing, so nothing has been closed yet
        rcases hclosing with rfl | ⟨-, hno⟩
        · rw [List.append_nil] at hemits
          exact ⟨steps, closing', hemits.trans hclosed, hstops,
            hlast.imp_right fun hl => ⟨hl, hnone⟩⟩
        · exact absurd (hno.symm.trans hrefused) Bool.false_ne_true
      · exact ⟨steps, closing, hemits, hstops, hclosing⟩

end Action

end OtpRegistrar
