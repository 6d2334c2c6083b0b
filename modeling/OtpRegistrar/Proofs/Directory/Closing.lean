/-
Every connection is closed, once, with one exception.

A connection is closed in two places: a refusal on the way to a session closes it
where it is given up, and a session that stands closes it behind its body.  Which
of the two it is depends on how the steps of the server turn out, and so does the
outcome of the session.  `Settings.setback?` says how they turn out, in terms of the
settings and of the server alone; everything below compares a run with it.

Between the two places there is a gap.  A step on the way that raises something
that is no refusal, neither of the directory client nor of the operating system, is
caught by none of them, and the connection that it was raised on stays open.  Such
a setback `escapes`.  It is the only one that leaves a connection open, and a
connection is never closed twice: that is the main theorem, an equivalence, over
any body that leaves closing to its session.

The failure of a step to close is a refusal as well, mostly.  It takes the place of
the outcome only if it is none, which is what `Reply.settling` says.
-/
import OtpRegistrar.Proofs.Directory.Session
import OtpRegistrar.Proofs.Log.Delivery

namespace OtpRegistrar

/-! ### Counting connections -/

/-- Is a connection made ready? -/
def Event.isConnectionMade : Event → Bool
  | .connectionMade _ _ => true
  | _ => false

/-- Is a connection closed? -/
def Event.isUnbound : Event → Bool
  | .unbound => true
  | _ => false

namespace Host

/-- How often a connection has been made ready. -/
def connections (h : Host) : Nat := h.events.countP Event.isConnectionMade

/-- How often a connection has been closed. -/
def closings (h : Host) : Nat := h.events.countP Event.isUnbound

variable {h h' h'' : Host} {es : List Event}

/-- Outward events of one kind are counted by what is emitted. -/
theorem Emits.countP {p : Event → Bool} (hp : ∀ e, p e = true → e.isOutward = true)
    (hes : h.Emits es h') : h'.events.countP p = h.events.countP p + es.countP p := by
  have hfilter : ∀ events : List Event,
      events.countP p = (events.filter Event.isOutward).countP p := by
    intro events
    rw [List.countP_filter]
    refine List.countP_congr fun e _ => ?_
    rw [Bool.and_eq_true]
    exact ⟨fun h => ⟨h, hp e h⟩, fun h => h.1⟩
  rw [hfilter h'.events, hfilter h.events, ← List.countP_append]
  exact congrArg (List.countP p) hes.outward

theorem Emits.connections (hes : h.Emits es h') :
    h'.connections = h.connections + es.countP Event.isConnectionMade :=
  hes.countP fun e he => by cases e <;> first | rfl | cases he

theorem Emits.closings (hes : h.Emits es h') :
    h'.closings = h.closings + es.countP Event.isUnbound :=
  hes.countP fun e he => by cases e <;> first | rfl | cases he

/-- The logger of a name is at hand. -/
def HasLogger (h : Host) (name : Text) : Prop := h.config.get loggerVariable = .logger name

theorem HasLogger.of_emits {name : Text} (hlogger : h.HasLogger name) (hes : h.Emits es h') :
    h'.HasLogger name := by
  have hthere : (h.config.get loggerVariable).truthy = true := by rw [hlogger]; rfl
  exact (hes.logger hthere).trans hlogger

/-- One host follows another with a number of closings; server and logger are the same. -/
structure Closes (n : Nat) (h h' : Host) : Prop where
  server : h'.server = h.server
  logger : ∀ name, h.HasLogger name → h'.HasLogger name
  closings : h'.closings = h.closings + n

theorem Closes.refl (h : Host) : Closes 0 h h := ⟨rfl, fun _ hname => hname, rfl⟩

theorem Closes.trans {m n : Nat} (hm : Closes m h h') (hn : Closes n h' h'') :
    Closes (m + n) h h'' where
  server := hn.server.trans hm.server
  logger := fun name hname => hn.logger name (hm.logger name hname)
  closings := by rw [hn.closings, hm.closings, Nat.add_assoc]

theorem Emits.closes (hes : h.Emits es h') : Closes (es.countP Event.isUnbound) h h' :=
  ⟨hes.server, fun _ hname => hname.of_emits hes, hes.closings⟩

end Host

/-! ### How the steps turn out -/

/-- What goes wrong on the way to a session. -/
inductive Setback where
  /-- A step of the server fails. -/
  | raised (r : Raised)
  /-- The server does not agree to a step. -/
  | refused (message : Text) (code : Value)

namespace Setback

/-- Is it a failure that nothing on the way to a session takes care of? -/
def escapes : Setback → Bool
  | raised r => !(Fault.raised r).isRefusal
  | refused _ _ => false

/-- What the session fails with. -/
def fault : Setback → Fault
  | raised r =>
    if (Fault.raised r).isRefusal then
      .connection (Fault.raised r).shown (.int ResultCode.connectError.code)
    else .raised r
  | refused message code => .connection message code

end Setback

/-- A refusal never comes out. -/
theorem Setback.noRefusal_fault (b : Setback) : Action.NoRefusal b.fault := by
  cases b with
  | refused message code => rfl
  | raised r =>
      unfold fault
      dsimp only
      split
      · rfl
      · rename_i hother
        exact Bool.eq_false_iff.mpr hother

/-- A step that the server has to do before a session stands. -/
structure Demand where
  event : Event
  reply : DirectoryServer → Reply
  /-- What is said to have failed if the server does not agree; opening needs no agreement. -/
  what : Option Text

/-- How a step turns out while the connection holds an answer. -/
def Demand.setback? (d : Demand) (server : DirectoryServer) (answer : Value) : Option Setback :=
  match (d.reply server).failure, d.what with
  | some raised, _ => some (.raised raised)
  | none, none => none
  | none, some what =>
    if ((d.reply server).value.getD (.bool true)).truthy then none
    else some (.refused (what ++ " failed: " ++ (ServerAnswer.message answer).shown)
      (ServerAnswer.code answer))

/-- The first thing that goes wrong in a row of steps. Every step may set the answer that the
connection holds. -/
def DirectoryServer.setback? (server : DirectoryServer) : List Demand → Value → Option Setback
  | [], _ => none
  | d :: rest, answer =>
    let held := (d.reply server).answer.getD answer
    (d.setback? server held).or (server.setback? rest held)

namespace Settings

/-- The steps that the settings ask for. -/
def demands (s : Settings) : List Demand :=
  ⟨.opened, (·.start), none⟩ ::
    ((if s.useStartTls.truthy then [⟨.tlsStarted, (·.startTls), some "StartTLS"⟩] else []) ++
      (if s.bindDn.truthy then [⟨.bound, (·.bind), some "Bind"⟩] else []))

/-- What goes wrong on the way to a session with the server, once a connection is made ready. -/
def setback? (s : Settings) (server : DirectoryServer) : Option Setback :=
  server.setback? s.demands (server.connect.answer.getD .null)

/-- Does a step on the way to a session raise something that is no refusal? -/
def Escapes (s : Settings) (server : DirectoryServer) : Prop :=
  ∃ b, s.setback? server = some b ∧ b.escapes = true

end Settings

/-- What closing makes of an outcome: only a failure that is no refusal takes its place. -/
def Reply.settling {α : Type} (unbind : Reply) (outcome : Except Fault α) : Except Fault α :=
  match unbind.failure with
  | none => outcome
  | some raised => if (Fault.raised raised).isRefusal then outcome else .error (.raised raised)

/-- Closing behind a failure that is no refusal leaves one that is no refusal. -/
theorem Reply.settling_error (unbind : Reply) {f : Fault} (hf : Action.NoRefusal f) :
    ∃ f', Action.NoRefusal f' ∧
      ∀ α, unbind.settling (.error f : Except Fault α) = .error f' := by
  unfold settling
  cases unbind.failure with
  | none => exact ⟨f, hf, fun _ => rfl⟩
  | some raised =>
      by_cases hrefused : (Fault.raised raised).isRefusal = true
      · exact ⟨f, hf, fun _ => if_pos hrefused⟩
      · exact ⟨.raised raised, Bool.eq_false_iff.mpr hrefused, fun _ => if_neg hrefused⟩

/-- Closing leaves a failure as it is, or puts its own in the place. -/
theorem Reply.settling_eq_error {α : Type} {unbind : Reply} {f f' : Fault}
    (hsettled : unbind.settling (.error f : Except Fault α) = .error f') :
    f' = f ∨ ∃ r, unbind.failure = some r ∧ f' = .raised r := by
  unfold settling at hsettled
  split at hsettled
  · cases hsettled
    exact .inl rfl
  · rename_i raised hraised
    split at hsettled
    · cases hsettled
      exact .inl rfl
    · cases hsettled
      exact .inr ⟨raised, hraised, rfl⟩

namespace Action

variable {α : Type}

/-! ### Closing with a logger at hand -/

/-- A logger takes every entry. -/
theorem runOn_log_logger (name : Text) (level : LogLevel) (t : Text) (h : Host) :
    ∃ h', (log (.logger name) level t).runOn h = (.ok (), h') ∧ h.Emits [] h' :=
  ⟨_, rfl, quiet_logTo name level t h⟩

/-- An entry of the log does not touch the answer that the connection holds. -/
theorem answer_log (name : Text) (level : LogLevel) (t : Text) (h : Host) :
    ((log (.logger name) level t).runOn h).2.answer = h.answer := by
  obtain ⟨files, events, hrun⟩ := logTo_changes name level t h
  unfold log
  rw [hrun]

/-- With a logger at hand, a refusal to close is only logged. -/
theorem runOn_close_of_logger {name : Text} {h : Host} (hlogger : h.HasLogger name) :
    ∃ h', close.runOn h = (h.server.unbind.settling (.ok ()), h') ∧ h.Emits [.unbound] h' := by
  obtain ⟨h₁, hemits, -, hserve⟩ := runOn_serve (e := .unbound) rfl (·.unbind) (.bool true) h
  have hlogger₁ : h₁.config.get Host.loggerVariable = .logger name := hlogger.of_emits hemits
  unfold close Reply.settling
  rw [runOn_attempt_bind, hserve]
  cases h.server.unbind.failure with
  | none => exact ⟨h₁, rfl, hemits⟩
  | some raised =>
      dsimp only
      split
      · have hgiven := runOn_logger_of_there (h := h₁) (by rw [hlogger₁]; rfl)
        rw [hlogger₁] at hgiven
        obtain ⟨h₂, hlog, hquiet⟩ := runOn_log_logger name .warning
          ("Error closing connection: " ++ (Fault.raised raised).shown) h₁
        rw [runOn_bind_ok hgiven, hlog]
        exact ⟨h₂, rfl, hemits.before hquiet⟩
      · exact ⟨h₁, rfl, hemits⟩

/-- Giving up with a logger at hand closes the connection and fails to connect. -/
theorem runOn_giveUp_of_logger {name : Text} {h : Host} (hlogger : h.HasLogger name)
    (s : Settings) (message : Text) (code : Value) :
    ∃ h', (giveUp (.logger name) s message code).runOn h =
      (h.server.unbind.settling (.error (.connection message code)), h') ∧
      h.Emits [.unbound] h' := by
  obtain ⟨h₁, hlog, hquiet⟩ := runOn_log_logger name .warning
    ("Error connecting to server: " ++ s.uri ++ ": " ++ message) h
  obtain ⟨h₂, hclose, hclosed⟩ := runOn_close_of_logger (hlogger.of_emits hquiet)
  rw [hquiet.server] at hclose
  refine ⟨h₂, ?_, hquiet.after hclosed⟩
  unfold giveUp
  rw [runOn_bind_ok hlog, runOn_bind, hclose]
  unfold Reply.settling
  cases h.server.unbind.failure with
  | none => rfl
  | some raised =>
      dsimp only
      cases (Fault.raised raised).isRefusal <;> rfl

/-! ### From one step to all -/

/-- What is asked of the server in a step. -/
def meet (entries : Value) (s : Settings) (d : Demand) : Action Unit :=
  match d.what with
  | none => do let _ ← serve d.event d.reply .null
  | some what => demand entries s d.event d.reply what

/-- The steps one after another. -/
def meetAll (entries : Value) (s : Settings) : List Demand → Action Unit
  | [] => pure ()
  | d :: rest => do
    meet entries s d
    meetAll entries s rest

/-- Establishing is meeting what the settings ask for. -/
theorem establish_eq (entries : Value) (s : Settings) :
    establish entries s = meetAll entries s s.demands := by
  rw [establish_steps]
  unfold Settings.demands
  split <;> split <;> simp [meetAll, meet]

/-- What becomes of a run before it is given up. A step that is refused has closed the connection,
one that failed has not. -/
def TurnsOut (h : Host) (result : Except Fault Unit × Host) : Option Setback → Prop
  | none => result.1 = .ok () ∧ Host.Closes 0 h result.2
  | some (.raised r) => result.1 = .error (.raised r) ∧ Host.Closes 0 h result.2
  | some (.refused message code) =>
    result.1 = h.server.unbind.settling (.error (.connection message code)) ∧
      Host.Closes 1 h result.2

/-- A run that comes behind one that closed nothing turns out the same as a whole. -/
theorem TurnsOut.after {h h₁ : Host} {result : Except Fault Unit × Host} {b? : Option Setback}
    (hbefore : Host.Closes 0 h h₁) (hout : TurnsOut h₁ result b?) : TurnsOut h result b? := by
  match b?, hout with
  | none, hout => exact ⟨hout.1, hbefore.trans hout.2⟩
  | some (.raised r), hout => exact ⟨hout.1, hbefore.trans hout.2⟩
  | some (.refused message code), hout =>
      refine ⟨?_, hbefore.trans hout.2⟩
      rw [← hbefore.server]
      exact hout.1

/-- Something that went wrong ends the run. -/
theorem TurnsOut.bind {h : Host} {b : Setback} {a : Action Unit}
    (hout : TurnsOut h (a.runOn h) (some b)) (f : Unit → Action Unit) :
    TurnsOut h ((a >>= f).runOn h) (some b) := by
  have hbroken : ∃ e, (a.runOn h).1 = .error e := by
    cases b with
    | raised r => exact ⟨_, hout.1⟩
    | refused message code =>
        obtain ⟨e, -, he⟩ :=
          h.server.unbind.settling_error (show NoRefusal (.connection message code) from rfl)
        exact ⟨e, hout.1.trans (he Unit)⟩
  obtain ⟨e, he⟩ := hbroken
  have hsame : (a >>= f).runOn h = a.runOn h :=
    (runOn_bind_error (Prod.ext he rfl)).trans (Prod.ext he.symm rfl)
  rw [hsame]
  exact hout

/-- A step turns out as its reply says. -/
theorem runOn_meet {name : Text} {h : Host} (hlogger : h.HasLogger name) (s : Settings)
    {d : Demand} (hout : d.event.isOutward = true) (hopen : d.event.isUnbound = false) :
    TurnsOut h ((meet (.logger name) s d).runOn h)
      (d.setback? h.server ((d.reply h.server).answer.getD h.answer)) ∧
    (d.setback? h.server ((d.reply h.server).answer.getD h.answer) = none →
      ((meet (.logger name) s d).runOn h).2.answer = (d.reply h.server).answer.getD h.answer) := by
  have hnone : [d.event].countP Event.isUnbound = 0 := by
    rw [List.countP_singleton, hopen]
    rfl
  unfold Demand.setback? meet
  cases hwhat : d.what with
  | none =>
      obtain ⟨h₁, hemits, hanswer, hserve⟩ := runOn_serve hout d.reply .null h
      have hcloses := hnone ▸ hemits.closes
      dsimp only
      rw [runOn_bind, hserve]
      cases (d.reply h.server).failure with
      | some raised => exact ⟨⟨rfl, hcloses⟩, fun hno => nomatch hno⟩
      | none => exact ⟨⟨rfl, hcloses⟩, fun _ => hanswer⟩
  | some what =>
      obtain ⟨h₁, hemits, hanswer, hserve⟩ := runOn_serve hout d.reply (.bool true) h
      have hcloses := hnone ▸ hemits.closes
      unfold demand
      dsimp only
      rw [runOn_bind, hserve]
      cases (d.reply h.server).failure with
      | some raised => exact ⟨⟨rfl, hcloses⟩, fun hno => nomatch hno⟩
      | none =>
          dsimp only
          cases ((d.reply h.server).value.getD (.bool true)).truthy with
          | true => exact ⟨⟨rfl, hcloses⟩, fun _ => hanswer⟩
          | false =>
              rw [if_neg Bool.false_ne_true, Bool.not_false, if_pos rfl]
              unfold refuse
              rw [runOn_bind_ok (runOn_read _ _), hanswer]
              obtain ⟨h₂, hgiveUp, hclosed⟩ := runOn_giveUp_of_logger (hlogger.of_emits hemits) s
                (what ++ " failed: " ++ (ServerAnswer.message
                  ((d.reply h.server).answer.getD h.answer)).shown)
                (ServerAnswer.code ((d.reply h.server).answer.getD h.answer))
              rw [hgiveUp, hemits.server]
              exact ⟨⟨rfl, hcloses.trans hclosed.closes⟩, fun hno => nomatch hno⟩

/-- **A row of steps goes as far as its first setback.** -/
theorem runOn_meetAll {name : Text} (s : Settings) :
    ∀ (demands : List Demand) (h : Host), h.HasLogger name →
      (∀ d ∈ demands, d.event.isOutward = true ∧ d.event.isUnbound = false) →
      TurnsOut h ((meetAll (.logger name) s demands).runOn h)
        (h.server.setback? demands h.answer) := by
  intro demands
  induction demands with
  | nil => exact fun h _ _ => ⟨rfl, Host.Closes.refl h⟩
  | cons d rest ih =>
      intro h hlogger hdemands
      obtain ⟨⟨hout, hopen⟩, hrest⟩ := List.forall_mem_cons.mp hdemands
      obtain ⟨hmeet, hanswer⟩ := runOn_meet hlogger s hout hopen
      unfold DirectoryServer.setback? meetAll
      dsimp only
      cases hturn : d.setback? h.server ((d.reply h.server).answer.getD h.answer) with
      | none =>
          rw [hturn] at hmeet
          obtain ⟨hmet, hcloses⟩ := hmeet
          have hstep := ih _ (hcloses.logger name hlogger) hrest
          rw [hcloses.server, hanswer hturn] at hstep
          rw [Option.none_or, runOn_bind_ok (Prod.ext hmet rfl)]
          exact hstep.after hcloses
      | some b =>
          rw [hturn] at hmeet
          rw [Option.some_or]
          exact hmeet.bind _

/-- A refusal is given up on, and so closes the connection once; what escapes leaves it open. -/
theorem runOn_establishOrGiveUp {name : Text} {h : Host} (hlogger : h.HasLogger name)
    (s : Settings) :
    match h.server.setback? s.demands h.answer with
    | none => ((establishOrGiveUp (.logger name) s).runOn h).1 = .ok () ∧
        Host.Closes 0 h ((establishOrGiveUp (.logger name) s).runOn h).2
    | some b =>
        ((establishOrGiveUp (.logger name) s).runOn h).1 =
          (if b.escapes then .error b.fault else h.server.unbind.settling (.error b.fault)) ∧
        Host.Closes (if b.escapes then 0 else 1) h
          ((establishOrGiveUp (.logger name) s).runOn h).2 := by
  have hdemands : ∀ d ∈ s.demands, d.event.isOutward = true ∧ d.event.isUnbound = false := by
    unfold Settings.demands
    simp only [List.mem_cons, List.mem_append, List.mem_ite_nil_right, List.not_mem_nil, or_false]
    rintro d (rfl | ⟨-, rfl⟩ | ⟨-, rfl⟩) <;> exact ⟨rfl, rfl⟩
  have hmeet := runOn_meetAll s s.demands h hlogger hdemands
  unfold establishOrGiveUp
  rw [establish_eq, runOn_attempt_bind]
  rcases hrun : (meetAll (.logger name) s s.demands).runOn h with ⟨r, h₁⟩
  rw [hrun] at hmeet
  cases hturn : h.server.setback? s.demands h.answer with
  | none =>
      rw [hturn] at hmeet
      obtain ⟨rfl, hcloses⟩ := hmeet
      exact ⟨rfl, hcloses⟩
  | some b =>
      rw [hturn] at hmeet
      cases b with
      | raised raised =>
          obtain ⟨rfl, hcloses⟩ := hmeet
          unfold Setback.escapes Setback.fault
          dsimp only
          by_cases hrefused : (Fault.raised raised).isRefusal = true
          · obtain ⟨h₂, hgiveUp, hclosed⟩ := runOn_giveUp_of_logger
              (hcloses.logger name hlogger) s (Fault.raised raised).shown
              (.int ResultCode.connectError.code)
            rw [hcloses.server] at hgiveUp
            simp only [hrefused, if_true, hgiveUp]
            exact ⟨rfl, hcloses.trans hclosed.closes⟩
          · simp only [hrefused]
            exact ⟨rfl, hcloses⟩
      | refused message code =>
          obtain ⟨hr, hcloses⟩ := hmeet
          obtain ⟨f, hnone, hf⟩ :=
            h.server.unbind.settling_error (show NoRefusal (.connection message code) from rfl)
          obtain rfl : r = .error f := hr.trans (hf Unit)
          have hpassed : f.isRefusal = false := hnone
          dsimp only
          rw [hpassed, if_neg Bool.false_ne_true]
          exact ⟨(hf Unit).symm, hcloses⟩

/-! ### The session -/

/-- The connection object of a session is there: it has been made ready, and that did not fail. -/
def Constructs (s : Settings) (h : Host) : Prop :=
  h.server.connect.Returns ∧ h.connections < ((connect s).runOn h).2.connections

theorem failsOnly_decoded (password : Value) :
    FailsOnly (fun f => f.isKind .connectionFailed = false) (decoded password) := by
  intro h f hf
  unfold decoded at hf
  split at hf
  · rename_i bytes
    rw [runOn_map, runOn_orFail] at hf
    cases hdecode : Text.decode bytes with
    | ok t =>
        rw [hdecode] at hf
        cases hf
    | error e =>
        rw [hdecode] at hf
        cases hf
        rfl
  · cases hf

/-- If the fault is a failure to connect, then the settings were refused, or making a connection
ready raised it. -/
def Unready (server : DirectoryServer) (f : Fault) : Prop :=
  f.isKind .connectionFailed = true →
    (∃ message, f = .connection message (.int ResultCode.paramError.code)) ∨
    ∃ r, server.connect.failure = some r ∧ f = .raised r

theorem Unready.of_other {server : DirectoryServer} {f : Fault}
    (hkind : f.isKind .connectionFailed = false) : Unready server f :=
  fun hconnection => absurd (hkind.symm.trans hconnection) Bool.false_ne_true

/-- A fault comes out as it is, or as a refusal of the settings. -/
theorem Unready.unready {server : DirectoryServer} {f : Fault} (hf : Unready server f) :
    Unready server f.unready := by
  unfold Fault.unready
  split
  · exact fun _ => .inl ⟨_, rfl⟩
  · exact hf

/-- What makes a connection ready once a logger is at hand. -/
def readying (s : Settings) : Action Unit := do
  let password ← decoded s.bindPassword
  prepare s password

/-- A connection is made ready, or that fails: before anything has been emitted, or because of the
server. -/
theorem runOn_readying (s : Settings) (h : Host) :
    (∃ f h', (readying s).runOn h = (.error f, h') ∧ Unready h.server f ∧
      (h.Emits [] h' ∨ ¬h.server.connect.Returns)) ∨
    ∃ es h', (readying s).runOn h = (.ok (), h') ∧ h.Emits es h' ∧
      es.countP Event.isUnbound = 0 ∧ h'.answer = h.server.connect.answer.getD .null := by
  have hdecoded := quiet_decoded s.bindPassword h
  unfold readying
  rcases hpassword : (decoded s.bindPassword).runOn h with ⟨r, h₁⟩
  rw [hpassword] at hdecoded
  cases r with
  | error f =>
      have hother := failsOnly_decoded s.bindPassword h f (by rw [hpassword])
      exact .inl ⟨f, h₁, runOn_bind_error hpassword, .of_other hother, .inl hdecoded⟩
  | ok password =>
  rw [runOn_bind_ok hpassword, runOn_prepare]
  rcases runOn_makeConnection s password h₁ with ⟨f, hmade, hkind⟩ | ⟨c, h₂, hmade, hemits, hanswer⟩
  · rw [hmade]
    exact .inl ⟨f.unready, h₁, rfl, (Unready.of_other hkind).unready, .inl hdecoded⟩
  rw [hmade, hdecoded.server]
  rw [hdecoded.server] at hanswer
  unfold Reply.outcome
  cases hfailure : h.server.connect.failure with
  | some raised =>
      have hraised : Unready h.server (.raised raised) := fun _ => .inr ⟨raised, hfailure, rfl⟩
      refine .inl ⟨_, h₂, rfl, hraised.unready, .inr fun hreturns => ?_⟩
      cases hfailure.symm.trans hreturns
  | none => exact .inr ⟨_, h₂, rfl, hdecoded.after hemits, rfl, hanswer⟩

/-- What is had as the logger is one, unless something else has been put in its place. -/
theorem logger_cases {h h' : Host} {entries : Value} (hgiven : logger.runOn h = (.ok entries, h')) :
    (∃ name, entries = .logger name ∧ h'.HasLogger name) ∨
    (∀ name, entries ≠ .logger name) ∧ (h.config.get Host.loggerVariable).truthy = true ∧
      ∀ name, ¬h.HasLogger name := by
  by_cases hname : ∃ name, entries = .logger name
  · obtain ⟨name, rfl⟩ := hname
    exact .inl ⟨name, rfl, (runOn_logger_ok hgiven).1⟩
  · have hother := not_exists.mp hname
    by_cases hthere : (h.config.get Host.loggerVariable).truthy = true
    · rw [runOn_logger_of_there hthere] at hgiven
      cases hgiven
      exact .inr ⟨hother, hthere, hother⟩
    · -- one that is set up is a logger
      rw [runOn_logger_of_missing hthere] at hgiven
      exact absurd (runOn_setUpConfiguredLogger_ok hgiven).2 hname

/-- **Connecting comes to a connection object, or fails on the way there.** In the latter case
nothing has been emitted, or making the connection ready has failed, or what is kept in the place
of the logger is none; otherwise what comes is to establish the connection. -/
theorem connect_cases (s : Settings) (h : Host) :
    (∃ f h', (connect s).runOn h = (.error f, h') ∧ Unready h.server f ∧
      (h.Emits [] h' ∨ ¬h.server.connect.Returns ∨
        (h.config.get Host.loggerVariable).truthy = true ∧ ∀ name, ¬h.HasLogger name)) ∨
    ∃ name h₁, h₁.HasLogger name ∧ Host.Closes 0 h h₁ ∧
      h₁.answer = h.server.connect.answer.getD .null ∧
      (connect s).runOn h = (establishOrGiveUp (.logger name) s).runOn h₁ := by
  have hconnect : connect s = (do
      let entries ← logger
      readying s
      log entries .debug ("Connecting to server: " ++ s.uri)
      establishOrGiveUp entries s) := by
    unfold readying
    simp only [bind_assoc]
    exact connect_eq s
  rw [hconnect]
  have hlogger := quiet_logger h
  rcases hgiven : logger.runOn h with ⟨r, h₁⟩
  rw [hgiven] at hlogger
  cases r with
  | error f =>
      have hinner := failsOnly_logger h f (by rw [hgiven])
      exact .inl ⟨f, h₁, runOn_bind_error hgiven, .of_other hinner.noConnection, .inl hlogger⟩
  | ok entries =>
  rw [runOn_bind_ok hgiven]
  rcases runOn_readying s h₁ with
    ⟨f, h₂, hrun, hunready, hwhy⟩ | ⟨es, h₂, hrun, hemits, hcount, hanswer⟩
  · rw [hlogger.server] at hunready hwhy
    exact .inl ⟨f, h₂, runOn_bind_error hrun, hunready, hwhy.imp hlogger.after .inl⟩
  rw [runOn_bind_ok hrun]
  rw [hlogger.server] at hanswer
  rcases logger_cases hgiven with ⟨name, rfl, hkept⟩ | ⟨hother, hthere, hnone⟩
  · obtain ⟨h₃, hlog, hlogged⟩ :=
      runOn_log_logger name .debug ("Connecting to server: " ++ s.uri) h₂
    have hanswered := answer_log name .debug ("Connecting to server: " ++ s.uri) h₂
    rw [hlog, hanswer] at hanswered
    rw [runOn_bind_ok hlog]
    have hcloses := ((hlogger.after hemits).before hlogged).closes
    rw [hcount] at hcloses
    exact .inr ⟨name, h₃, (hkept.of_emits hemits).of_emits hlogged, hcloses, hanswered, rfl⟩
  · rcases hlog : (log entries .debug ("Connecting to server: " ++ s.uri)).runOn h₂ with ⟨r, h₃⟩
    cases r with
    | ok _ =>
        obtain ⟨name, hname⟩ := runOn_log_ok hlog
        exact absurd hname (hother name)
    | error f =>
        have hinner := failsOnly_log entries .debug ("Connecting to server: " ++ s.uri) h₂ f
          (by rw [hlog])
        exact .inl ⟨f, h₃, runOn_bind_error hlog, .of_other hinner.noConnection,
          .inr (.inr ⟨hthere, hnone⟩)⟩

/-- Once the connection object is there, what comes is to establish the connection on it. -/
theorem runOn_connect_of_constructs {s : Settings} {h : Host}
    (htakes : (h.config.get Host.loggerVariable).truthy = true → ∃ name, h.HasLogger name)
    (hmade : Constructs s h) :
    ∃ name h₁, h₁.HasLogger name ∧ Host.Closes 0 h h₁ ∧
      h₁.answer = h.server.connect.answer.getD .null ∧
      (connect s).runOn h = (establishOrGiveUp (.logger name) s).runOn h₁ := by
  obtain ⟨hreturns, hmore⟩ := hmade
  rcases connect_cases s h with ⟨f, h', hrun, -, hquiet | hnever | ⟨hthere, hnone⟩⟩ | hready
  · -- as long as nothing is emitted no connection has been made ready
    rw [hrun, hquiet.connections] at hmore
    exact absurd hmore (Nat.lt_irrefl _)
  · exact absurd hreturns hnever
  · obtain ⟨name, hname⟩ := htakes hthere
    exact absurd hname (hnone name)
  · exact hready

/-- A body that leaves closing to its session: it neither closes the connection nor takes the
logger away. -/
structure LeavesClosing (body : Action α) : Prop where
  closings : ∀ h, (body.runOn h).2.closings = h.closings
  logger : ∀ h name, h.HasLogger name → ∃ name', (body.runOn h).2.HasLogger name'

/-- Sending a request leaves closing to the session. -/
theorem leavesClosing_submit (r : DeviceRequest) : LeavesClosing (submit r) := by
  have hemits : ∀ h : Host, ∃ es, h.Emits es ((submit r).runOn h).2 ∧
      es.countP Event.isUnbound = 0 := by
    intro h
    rcases emits_submit r h with ⟨hquiet, -⟩ | ⟨value, -, hsent⟩
    · exact ⟨_, hquiet, rfl⟩
    · exact ⟨_, hsent, rfl⟩
  refine ⟨fun h => ?_, fun h name hname => ?_⟩
  · obtain ⟨es, hes, hnone⟩ := hemits h
    rw [hes.closings, hnone, Nat.add_zero]
  · obtain ⟨es, hes, -⟩ := hemits h
    exact ⟨name, hname.of_emits hes⟩

/-- A session that stands ends as its body does, and is closed behind it. -/
theorem runOn_session_of_connected {s : Settings} {body : Action α} {name : Text} {h h₁ : Host}
    (hconnect : (connect s).runOn h = (.ok (), h₁)) (hname : h₁.HasLogger name)
    (hbody : LeavesClosing body) :
    ((session s body).runOn h).2.closings = h₁.closings + 1 ∧
    ((session s body).runOn h).1 =
      (body.runOn h₁).2.server.unbind.settling (body.runOn h₁).1 := by
  obtain ⟨name', hname'⟩ := hbody.logger h₁ name hname
  obtain ⟨h₂, hclose, hemits⟩ := runOn_close_of_logger hname'
  have hclosed : h₂.closings = h₁.closings + 1 := by
    rw [hemits.closings, hbody.closings]
    rfl
  unfold session
  rw [runOn_bind_ok hconnect, runOn_attempt_bind, runOn_bind, hclose]
  unfold Reply.settling
  cases (body.runOn h₁).2.server.unbind.failure with
  | none => exact ⟨hclosed, rfl⟩
  | some raised =>
      dsimp only
      cases (Fault.raised raised).isRefusal with
      | true => exact ⟨hclosed, rfl⟩
      | false => exact ⟨hclosed, rfl⟩

/-- A session that does not come to stand ends as connecting does. -/
theorem runOn_session_of_error {s : Settings} {body : Action α} {h : Host} {f : Fault}
    (hconnect : ((connect s).runOn h).1 = .error f) :
    (session s body).runOn h = (.error f, ((connect s).runOn h).2) := by
  unfold session
  exact runOn_bind_error (Prod.ext hconnect rfl)

/-- **A connection is closed once, unless a step on the way raises something that is no refusal.**
Once the connection object is there, it is closed exactly once on every way out if and only if no
such thing is raised while the connection is opened, upgraded and bound; if it is, the connection
is not closed at all.  The outcome is that of the body, or the failure to connect, and closing
takes its place only with a failure that is no refusal. -/
theorem session_closes_once_iff (s : Settings) {body : Action α} (h : Host)
    (htakes : (h.config.get Host.loggerVariable).truthy = true → ∃ name, h.HasLogger name)
    (hbody : LeavesClosing body) (hmade : Constructs s h) :
    (((session s body).runOn h).2.closings = h.closings + 1 ↔ ¬s.Escapes h.server) ∧
    (s.Escapes h.server → ((session s body).runOn h).2.closings = h.closings) ∧
    ((session s body).runOn h).1 =
      match s.setback? h.server with
      | none =>
        let left := body.runOn ((connect s).runOn h).2
        left.2.server.unbind.settling left.1
      | some b =>
        if b.escapes then .error b.fault else h.server.unbind.settling (.error b.fault) := by
  obtain ⟨name, h₁, hname, hcloses, hanswer, hconnect⟩ := runOn_connect_of_constructs htakes hmade
  have hestablish := runOn_establishOrGiveUp hname s
  unfold Settings.Escapes Settings.setback?
  rw [← hconnect, hcloses.server, hanswer] at hestablish
  cases hturn : h.server.setback? s.demands (h.server.connect.answer.getD .null) with
  | none =>
      rw [hturn] at hestablish
      obtain ⟨hok, hestablished⟩ := hestablish
      obtain ⟨hclosed, hends⟩ := runOn_session_of_connected (Prod.ext hok rfl)
        (hestablished.logger name hname) hbody
      rw [hestablished.closings, hcloses.closings] at hclosed
      refine ⟨⟨fun _ => ?_, fun _ => hclosed⟩, ?_, hends⟩
      · rintro ⟨b, hb, -⟩
        cases hb
      · rintro ⟨b, hb, -⟩
        cases hb
  | some b =>
      rw [hturn] at hestablish
      obtain ⟨herror, hgiven⟩ := hestablish
      have hclosed := hgiven.closings
      rw [hcloses.closings, Nat.add_zero] at hclosed
      cases hescapes : b.escapes with
      | true =>
          rw [hescapes, if_pos rfl] at herror hclosed
          rw [runOn_session_of_error herror]
          refine ⟨⟨fun hone => ?_, fun hno => absurd ⟨b, rfl, hescapes⟩ hno⟩, fun _ => hclosed, ?_⟩
          · exact absurd (hclosed.symm.trans hone) (Nat.succ_ne_self _).symm
          · dsimp only
            rw [if_pos hescapes]
      | false =>
          obtain ⟨f, -, hf⟩ := h.server.unbind.settling_error b.noRefusal_fault
          rw [hescapes, if_neg Bool.false_ne_true] at herror hclosed
          have hno : ¬∃ b', some b = some b' ∧ b'.escapes = true := by
            rintro ⟨b', hb, hescapes'⟩
            cases hb
            exact Bool.false_ne_true (hescapes.symm.trans hescapes')
          rw [runOn_session_of_error (herror.trans (hf Unit))]
          refine ⟨⟨fun _ => hno, fun _ => hclosed⟩, fun hyes => absurd hyes hno, ?_⟩
          dsimp only
          rw [hescapes, if_neg Bool.false_ne_true, hf α]

/-- A request to deregister all devices of the user that is bound. -/
def deregisteringRequest : DeviceRequest := ⟨.deregisterAll, none, none, none⟩

/-- Settings with a name to bind with. -/
def bindingSettings : Settings := { bindDn := .text "cn=admin", bindPassword := .text "secret" }

/-- A machine whose server refuses to bind, and then does not close the connection either. -/
def refusingHost : Host :=
  { Host.plain with server := {
      bind := { answer := some (.dict [(.text "result", .int 49)]), value := some (.bool false) }
      unbind := { failure := some ⟨"OSError", .system, .message "broken pipe"⟩ } } }

theorem session_closes_once_iff_refused :
    ((refusingHost.config.get Host.loggerVariable).truthy = true →
      ∃ name, refusingHost.HasLogger name) ∧
    LeavesClosing (submit deregisteringRequest) ∧ Constructs bindingSettings refusingHost ∧
    ¬bindingSettings.Escapes refusingHost.server ∧
    ((session bindingSettings (submit deregisteringRequest)).runOn refusingHost).2.closings =
      refusingHost.closings + 1 := by
  have htakes : (refusingHost.config.get Host.loggerVariable).truthy = true →
      ∃ name, refusingHost.HasLogger name := fun _ => ⟨"tool", rfl⟩
  have hmade : Constructs bindingSettings refusingHost := ⟨rfl, by decide +kernel⟩
  have hstays : ¬bindingSettings.Escapes refusingHost.server := by
    have hnone : (bindingSettings.setback? refusingHost.server).any Setback.escapes = false := by
      decide +kernel
    rintro ⟨b, hb, hescapes⟩
    rw [hb, Option.any_some, hescapes] at hnone
    cases hnone
  exact ⟨htakes, leavesClosing_submit _, hmade, hstays,
    (session_closes_once_iff _ _ htakes (leavesClosing_submit _) hmade).1.mpr hstays⟩

/-- A machine on which opening the connection raises what is no refusal. -/
def brokenHost : Host :=
  { Host.plain with server := {
      start := { failure := some ⟨"RuntimeError", .runtime, .message "broken"⟩ } } }

/-- A connection that is there is not closed. -/
theorem session_leaves_open :
    Constructs {} brokenHost ∧ LeavesClosing (submit deregisteringRequest) ∧
      ((session {} (submit deregisteringRequest)).runOn brokenHost).2.closings =
        brokenHost.closings :=
  ⟨⟨rfl, by decide +kernel⟩, leavesClosing_submit _, by decide +kernel⟩

end Action

end OtpRegistrar
