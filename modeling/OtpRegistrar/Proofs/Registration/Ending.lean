/-
How a run ends.

A run that comes to an outcome has been asked for its help, or was kept from its
request in one of three ways, or has sent the request and had an answer.  The code
of the outcome is that of what happened, never of something else on the way; and
unless it is a success the user has been told what went wrong, and of no success.

A run may also fail without an outcome.  If the failure is one of the program's own
then what calls the run takes care of it, so nothing but errors may have been shown
by then.  This is why both ends are followed side by side, as `Ends`.
-/
import OtpRegistrar.Proofs.Directory.Failure
import OtpRegistrar.Proofs.Host.Printing
import OtpRegistrar.Proofs.Registration.Order

namespace OtpRegistrar

namespace Host

/-- Between the hosts an extended operation is sent. -/
def Sends (h h' : Host) : Prop :=
  ∃ es oid value, h.Adds es h' ∧ Event.extendedSent oid value ∈ es

namespace Sends

variable {h h' h'' : Host}

theorem after (hab : h.Unprinted h') (hbc : h'.Sends h'') : h.Sends h'' := by
  obtain ⟨es, hes, -⟩ := hab
  obtain ⟨fs, oid, value, hfs, hmem⟩ := hbc
  exact ⟨es ++ fs, oid, value, hes.trans hfs, List.mem_append_right _ hmem⟩

theorem before {es : List Event} (hab : h.Sends h') (hbc : h'.Adds es h'') : h.Sends h'' := by
  obtain ⟨fs, oid, value, hfs, hmem⟩ := hab
  exact ⟨fs ++ es, oid, value, hfs.trans hbc, List.mem_append_left _ hmem⟩

end Sends

end Host

namespace Registration

open OtpRegistrar.Action

/-- What has happened between the hosts when a run for the command line comes to a code. -/
inductive Ending (line : List Text) (h h' : Host) : Value → Prop
  /-- Its help was asked for. -/
  | help (hasked : (CommandLine.read h.homes arguments line).2 = .error .helpRequested) :
      Ending line h h' (.int ResultCode.success.code)
  /-- Something is wrong with the arguments. -/
  | argument {u : Usage} (htold : h.Complains h' u.message)
      (hhint : h.Complains h' "Use --help to get usage information.") :
      Ending line h h' (.int ResultCode.paramError.code)
  /-- A password cannot be read. -/
  | password {bound : Bindings} {s : Settings} {which : Text} {f : Fault}
      (haccepted : Accepted h line bound s) (hkind : f.isKind .passwordRead = true)
      (htold : h.Complains h' ("Unable to read the " ++ which ++ " password: " ++ f.text)) :
      Ending line h h' (.int ResultCode.localError.code)
  /-- There is no connection. -/
  | connection {bound : Bindings} {s : Settings} {bindPassword : Value} {f : Fault}
      (haccepted : Accepted h line bound s)
      (hfailed : { s with bindPassword }.NotConnected h.server f)
      (hkind : f.isKind .connectionFailed = true)
      (htold : h.Complains h'
        ("Unable to establish a connection to the directory server: " ++ f.shown)) :
      Ending line h h' (f.code?.getD .null)
  /-- The request succeeds. -/
  | success {bound : Bindings} {s : Settings} {result : ExtendedResult}
      (haccepted : Accepted h line bound s) (hsent : h.Sends h')
      (hanswer : h.server.Answers result) (hcode : result.code.IsZero) :
      Ending line h h' (.int ResultCode.success.code)
  /-- The request fails. -/
  | failure {bound : Bindings} {s : Settings} {result : ExtendedResult} {shown : Text}
      (haccepted : Accepted h line bound s) (hsent : h.Sends h')
      (hanswer : h.server.Answers result) (hcode : ¬result.code.IsZero)
      (hshown : result.shown = .ok shown) (htold : h.Complains h' (failureMessage bound shown)) :
      Ending line h h' result.code

/-- What is known at the end of a run that may fail: an outcome is that of the code to which the run
has come, and with a failure of the program's own nothing but errors has been shown. -/
def Ends (line : List Text) (h : Host) : Except Fault Outcome × Host → Prop
  | (.ok outcome, h') => ∃ code, outcome = .ofCode code ∧ Ending line h h' code
  | (.error f, h') => f.isOwn = true → h.Unprinted h'

section

variable {line : List Text} {h h' : Host} {code : Value}

/-- **A run comes to zero only if its help was asked for, or a request was sent and the code of its
outcome is zero.** -/
theorem Ending.zero (hending : Ending line h h' code) (hgenuine : h.server.Genuine)
    (hzero : code.IsZero) :
    (CommandLine.read h.homes arguments line).2 = .error .helpRequested ∨
    (h.Sends h' ∧ ∃ result, h.server.Answers result ∧ result.code.IsZero) := by
  have hparam : ¬(Value.int ResultCode.paramError.code).IsZero := by decide
  have hlocal : ¬(Value.int ResultCode.localError.code).IsZero := by decide
  cases hending with
  | help hasked => exact .inl hasked
  | argument => exact absurd hzero hparam
  | password => exact absurd hzero hlocal
  | connection _ hfailed hkind _ =>
      exact absurd hzero (hgenuine.code_of_notConnected hfailed hkind).1
  | success _ hsent hanswer hcode => exact .inr ⟨hsent, _, hanswer, hcode⟩
  | failure _ _ _ hcode => exact absurd hzero hcode

/-- A run does not come to a NaN. -/
theorem Ending.ne_nan (hending : Ending line h h' code) (hgenuine : h.server.Genuine) :
    code ≠ .float .nan := by
  cases hending with
  | connection _ hfailed hkind _ => exact (hgenuine.code_of_notConnected hfailed hkind).2
  | failure _ _ hanswer _ => exact hgenuine.code_of_answers hanswer
  | _ => exact fun hnan => nomatch hnan

/-- A code that is not zero comes with an error, and nothing but errors is shown. -/
theorem Ending.told (hending : Ending line h h' code) (hcode : ¬code.IsZero) :
    ∃ t, h.Complains h' t := by
  have hzero : (Value.int ResultCode.success.code).IsZero := by decide
  cases hending with
  | help => exact absurd hzero hcode
  | argument htold => exact ⟨_, htold⟩
  | password _ _ htold => exact ⟨_, htold⟩
  | connection _ _ _ htold => exact ⟨_, htold⟩
  | success => exact absurd hzero hcode
  | failure _ _ _ _ _ htold => exact ⟨_, htold⟩

end

/-! ### Nothing but errors -/

theorem printsNothing_called (line : List Text) : PrintsNothing (called line) :=
  Keeps.of_respects fun h₀ => respects_called (runsTogether_unprinted h₀) line

theorem printsNothing_readUserPassword : PrintsNothing readUserPassword :=
  Keeps.bind (Keeps.bind (Keeps.read _) fun _ => Keeps.orFail _ _) printsNothing_readPassword

theorem printsNothing_readBindPassword : PrintsNothing readBindPassword :=
  Keeps.bind (Keeps.bind (Keeps.read _) fun _ => Keeps.orFail _ _) printsNothing_readPassword

theorem printsNothing_logOtp : PrintsNothing logOtp := by
  unfold logOtp
  refine Keeps.bind (Keeps.read _) fun bound => ?_
  split
  · unfold logIdentity
    refine Keeps.bind printsNothing_logger fun entries => Keeps.bind (Keeps.orFail _ _) fun _ => ?_
    exact printsNothing_log _ _ _
  · exact Keeps.pure _

theorem printsNothing_request (s : Settings) (password : Option (List UInt8)) :
    PrintsNothing (request s password) := by
  intro h
  rw [runOn_request]
  refine printsNothing_session ?_ h
  exact Keeps.bind (Keeps.orFail _ _) fun r => Keeps.bind (printsNothing_submit r) fun _ =>
    Keeps.pure _

/-! ### What the user is told -/

section Telling

variable {line : List Text} {h g : Host} (hunprinted : h.Unprinted g)

include hunprinted

/-- What is wrong with a command line is told, and help is shown only to who asks for it. -/
theorem ends_explain {f : Fault}
    (hwrong : f = .helpRequested ∧
        (CommandLine.read h.homes arguments line).2 = .error .helpRequested ∨
      (∃ u, f = .usage u) ∨
      f = .nulInPath ∧ (CommandLine.read h.homes arguments line).2 = .error .nulInPath) :
    Ends line h ((explain f).runOn g) := by
  rcases hwrong with ⟨rfl, hasked⟩ | ⟨u, rfl⟩ | ⟨rfl, -⟩
  · exact ⟨_, rfl, .help hasked⟩
  · have hfirst := (complains_complain u.message g).after hunprinted
    have hsecond := complains_complain "Use --help to get usage information."
      ((complain u.message).runOn g).2
    exact ⟨_, rfl, .argument (hfirst.before hsecond.unprinted) (hsecond.after hfirst.unprinted)⟩
  · exact fun _ => hunprinted

section Accepted

variable {bound : Bindings} {s : Settings} (haccepted : Accepted h line bound s)

include haccepted

theorem ends_explainPassword (which : Text) (f : Fault) :
    Ends line h ((explainPassword which f).runOn g) := by
  unfold explainPassword
  split
  · rename_i hkind
    exact ⟨_, rfl, .password haccepted hkind ((complains_complain _ g).after hunprinted)⟩
  · exact fun _ => hunprinted

theorem ends_explainConnection (bindPassword : Value) {f : Fault}
    (hfailed : f.isKind .connectionFailed = true →
      { s with bindPassword }.NotConnected h.server f) :
    Ends line h ((explainConnection f).runOn g) := by
  unfold explainConnection
  split
  · rename_i hkind
    exact ⟨_, rfl, .connection haccepted (hfailed hkind) hkind
      ((complains_complain _ g).after hunprinted)⟩
  · exact fun _ => hunprinted

end Accepted

end Telling

/-- A logger that is none is a defect. -/
theorem isOwn_of_log_error {entries : Value} {level : LogLevel} {t : Text} {h h' : Host} {f : Fault}
    (hrun : (log entries level t).runOn h = (.error f, h')) : f.isOwn = false := by
  unfold log at hrun
  split at hrun
  · cases hrun
  · cases hrun
    rfl

/-- An entry of the log does not change how a run ends. -/
theorem ends_logged {line : List Text} {entries : Value} {level : LogLevel} {t : Text}
    {outcome : Outcome} {code : Value} {h g : Host} (houtcome : outcome = .ofCode code)
    (hending : ∀ h', g.Unprinted h' → Ending line h h' code) :
    Ends line h ((log entries level t >>= fun _ => pure outcome).runOn g) := by
  have hlogged := printsNothing_log entries level t g
  rw [runOn_bind]
  rcases hlog : (log entries level t).runOn g with ⟨r, h'⟩
  rw [hlog] at hlogged
  cases r with
  | ok _ => exact ⟨code, houtcome, hending h' hlogged⟩
  | error f =>
      intro hown
      rw [isOwn_of_log_error hlog] at hown
      cases hown

/-- What came of the request is told as it is. -/
theorem ends_conclude {line : List Text} {bound : Bindings} {s : Settings} {h g : Host}
    (entries : Value) (operation : DeviceOperation) {result : ExtendedResult}
    (haccepted : Accepted h line bound s) (hbound : g.bound = bound)
    (hunprinted : h.Unprinted g) (hsent : h.Sends g) (hanswer : h.server.Answers result) :
    Ends line h ((conclude entries operation result).runOn g) := by
  unfold conclude
  rw [runOn_bind_ok (runOn_read _ _)]
  dsimp only
  rw [hbound]
  split
  · rename_i hsuccess
    have hcode : Outcome.known ResultCode.success = .ofCode (.int ResultCode.success.code) := rfl
    rw [runOn_bind_ok (runOn_say _ _)]
    refine ends_logged hcode fun h' hlogged => ?_
    obtain ⟨es, hes, -⟩ := hlogged
    exact .success haccepted ((hsent.before (g.adds_note _)).before hes) hanswer hsuccess
  · rename_i hfailure
    rw [runOn_bind, runOn_orFail]
    cases hshown : result.shown with
    | error d => exact fun hown => nomatch hown
    | ok shown =>
        dsimp only [Except.mapError]
        have htold := complains_complain (failureMessage bound shown) g
        rw [runOn_complain] at htold
        rw [runOn_bind_ok (runOn_complain _ _)]
        refine ends_logged rfl fun h' hlogged => ?_
        have htold' := (htold.before hlogged).after hunprinted
        obtain ⟨es, hes, -⟩ := hlogged
        exact .failure haccepted ((hsent.before (g.adds_note _)).before hes) hanswer hfailure hshown
          htold'

/-! ### The request -/

theorem request_ok {s : Settings} {password : Option (List UInt8)} {operation : DeviceOperation}
    {result : ExtendedResult} {h h' : Host}
    (hrun : (request s password).runOn h = (.ok (operation, result), h')) :
    h.server.Answers result ∧ h.Sends h' := by
  obtain ⟨es, hes, -⟩ := printsNothing_request s password h
  rw [hrun] at hes
  rw [runOn_request] at hrun
  obtain ⟨h₁, h₂, hconnect, hbody, hclosed⟩ := session_ok hrun
  obtain ⟨c, hcontact, -⟩ := connect_ok hconnect
  rcases runOn_exchange h.bound password h₁ with ⟨e, -, hfails⟩ | ⟨r, -, hsubmits⟩
  · rw [hbody] at hfails
    cases hfails
  rw [hbody] at hsubmits
  rcases hsubmit : (submit r).runOn h₁ with ⟨submitted, h₃⟩
  rw [hsubmit] at hsubmits
  cases submitted with
  | error f => cases hsubmits
  | ok submitted =>
      cases hsubmits
      obtain ⟨hanswer, value, hsent⟩ := submit_ok hsubmit
      rw [hcontact.server] at hanswer
      have hmem := hes.subset ((hcontact.trans hsent).trans hclosed)
      exact ⟨hanswer, es, r.oid, value, hes, hmem (by simp)⟩

theorem request_error {s : Settings} {password : Option (List UInt8)} {f : Fault} {h h' : Host}
    (hrun : (request s password).runOn h = (.error f, h'))
    (hkind : f.isKind .connectionFailed = true) : s.NotConnected h.server f := by
  rw [runOn_request] at hrun
  refine session_error (fun h₁ => ?_) (fun h₁ h₂ f hbody => ?_) hrun hkind
  · obtain ⟨es, hemits, -⟩ := emits_exchange h.bound password h₁
    exact hemits.server
  · rcases runOn_exchange h.bound password h₁ with ⟨e, -, hfails⟩ | ⟨r, -, hsubmits⟩
    · rw [hbody] at hfails
      cases hfails
      exact .of_other (by cases e <;> rfl)
    · rw [hbody] at hsubmits
      rcases hsubmit : (submit r).runOn h₁ with ⟨result, h₃⟩
      rw [hsubmit] at hsubmits
      cases result with
      | error f' =>
          cases hsubmits
          exact submit_error hsubmit
      | ok result => cases hsubmits

/-! ### The run -/

theorem resembles_readUserPassword (h : Host) : h.Resembles (readUserPassword.runOn h).2 := by
  rcases runOn_readUserPassword h with ⟨f, hnone⟩ | ⟨source, -, hchosen⟩
  · rw [hnone]
    exact .refl h
  · rw [hchosen]
    exact (emits_readPassword source h).toResembles

theorem resembles_readBindPassword (h : Host) : h.Resembles (readBindPassword.runOn h).2 := by
  rcases runOn_readBindPassword h with ⟨f, hnone⟩ | ⟨source, -, hchosen⟩
  · rw [hnone]
    exact .refl h
  · rw [hchosen]
    exact (emits_readPassword source h).toResembles

section Proceeding

variable {line : List Text} {bound : Bindings} {s : Settings} {h g : Host}
  (haccepted : Accepted h line bound s) (hunprinted : h.Unprinted g)
  (hserver : g.server = h.server) (hbound : g.bound = bound)

include haccepted hunprinted hserver hbound

theorem ends_perform (entries : Value) (password : Option (List UInt8)) (bindPassword : Value) :
    Ends line h ((perform entries { s with bindPassword } password).runOn g) := by
  have hrequested := printsNothing_request { s with bindPassword } password g
  obtain ⟨es, hemits, -⟩ := emits_request { s with bindPassword } password g
  unfold perform
  rw [runOn_attempt_bind]
  rcases hrequest : (request { s with bindPassword } password).runOn g with ⟨r, g'⟩
  rw [hrequest] at hrequested hemits
  cases r with
  | error f =>
      have hread := hunprinted.trans hrequested
      refine ends_explainConnection hread haccepted bindPassword fun hkind => ?_
      rw [← hserver]
      exact request_error hrequest hkind
  | ok answered =>
      obtain ⟨hanswer, hsent⟩ := request_ok hrequest
      rw [hserver] at hanswer
      exact ends_conclude entries _ haccepted (hemits.bound.trans hbound)
        (hunprinted.trans hrequested) (hsent.after hunprinted) hanswer

theorem ends_proceed (entries : Value) : Ends line h ((proceed entries s).runOn g) := by
  have hread := hunprinted.trans (printsNothing_readUserPassword g)
  have hsame := resembles_readUserPassword g
  rcases huser : readUserPassword.runOn g with ⟨r, g₁⟩
  rw [huser] at hread hsame
  cases r with
  | error f =>
      rw [runOn_proceed_of_user_error huser]
      exact ends_explainPassword hread haccepted _ f
  | ok password =>
  have hread' := hread.trans (printsNothing_readBindPassword g₁)
  have hsame' := hsame.trans (resembles_readBindPassword g₁)
  rcases hbind : readBindPassword.runOn g₁ with ⟨r, g₂⟩
  rw [hbind] at hread' hsame'
  cases r with
  | error f =>
      rw [runOn_proceed_of_bind_error huser hbind]
      exact ends_explainPassword hread' haccepted _ f
  | ok bindPassword =>
  have hlogged := hread'.trans (printsNothing_logOtp g₂)
  have hquiet := hsame'.trans (quiet_logOtp g₂).toResembles
  rw [runOn_proceed_of_both huser hbind, runOn_bind]
  rcases hlog : logOtp.runOn g₂ with ⟨r, g₃⟩
  rw [hlog] at hlogged hquiet
  cases r with
  | error f => exact fun _ => hlogged
  | ok _ =>
      exact ends_perform haccepted hlogged (hquiet.server.trans hserver)
        (hquiet.bound.trans hbound) entries password _

end Proceeding

/-- **However a run ends, its outcome is that of what has happened**, and the user has been told of
it; if it ends without an outcome, with a failure of the program's own, then nothing but errors has
been shown. -/
theorem run_ends (line : List Text) (h : Host) : Ends line h ((run line).runOn h) := by
  have hunprinted := printsNothing_called line h
  have hquiet := quiet_called line h
  rw [run_eq]
  unfold judged
  rw [bind_assoc, runOn_bind]
  rcases hcalled : (called line).runOn h with ⟨r, h₁⟩
  rw [hcalled] at hunprinted hquiet
  cases r with
  | error f => exact fun _ => hunprinted
  | ok entries =>
  obtain ⟨r, hread, hright, hwrong⟩ := runOn_readArguments line h₁
  dsimp only
  rw [bind_assoc, runOn_attempt_bind, hread, pure_bind]
  let h₂ : Host := { h₁ with bound := (CommandLine.read h₁.homes arguments line).1 }
  have hbound : h.Unprinted h₂ := hunprinted.trans (.of_same rfl rfl)
  cases r with
  | error f =>
      have hwrong' := hwrong f rfl
      rw [hquiet.homes] at hwrong'
      exact ends_explain hbound hwrong'
  | ok s =>
      have haccepted := (hright s rfl).of_resembles hquiet.toResembles
      exact ends_proceed haccepted hbound hquiet.server rfl entries

end Registration

end OtpRegistrar
