/-
What comes of submitting a request.

A request that can be written is sent once, whatever the server does about it.  If the step
returns, the result is read off the answer that the connection holds.  If it is refused, the refusal
is turned into a result, and nothing is raised: an error answer keeps its code, a connection that
broke and a refusal of the operating system stand for a server that is down, and any other failure
of the directory client for a local error.  Both of these come with a text, since a failure without
one is shown by its name.

Whether a result is a success is judged by its code alone.  So a refusal can be one after all: an
error answer that carries the code of success keeps that as well, and `success_iff` says that there
is no other way.
-/
import OtpRegistrar.Proofs.Directory.Passing

namespace OtpRegistrar

variable {h : Host} {r : DeviceRequest} {value : List UInt8} {name : Text} {raised : Raised}
  {result : ExtendedResult} {answer code : Value}

/-! ### Failures as they are raised -/

/-- The failure has a name, carries an answer if and only if it reports one, and is one of the
operating system as such or of a connection. -/
structure Raised.Regular (r : Raised) : Prop where
  named : r.name ≠ []
  answers : r.family = .operationResult ↔
    ∃ result description dn message, r.detail = .answer result description dn message
  system : r.isSystem = true → r.family = .system ∨ r.family = .communication

namespace Raised

/-- The failures of a socket in use are failures of a connection. -/
theorem familyOf_of_socket (hname : (socketNames.any fun n => Text.ofString n = name) = true) :
    familyOf name = .communication := by
  have hall : ∀ n ∈ socketNames, familyOf (Text.ofString n) = .communication := by
    decide +kernel
  obtain ⟨n, hn, hsame⟩ := List.any_eq_true.mp hname
  rw [← of_decide_eq_true hsame]
  exact hall n hn

theorem isSystem_cases (hsystem : raised.isSystem = true) : raised.family = .system ∨
    (socketNames.any fun n => Text.ofString n = raised.name) = true := by
  unfold isSystem at hsystem
  rwa [Bool.or_eq_true, decide_eq_true_eq] at hsystem

theorem systemName_ne_nil (errno : Int) : systemName errno ≠ [] := by
  have hall : ∀ entry ∈ systemNames, Text.ofString entry.2 ≠ [] := by decide
  unfold systemName
  split
  · rename_i found
    exact hall _ (List.mem_of_find?_eq_some found)
  · decide

/-- What an error answer carries that is made of something else is an answer. -/
theorem answerDetail_eq (detail : Detail) :
    ∃ result description dn message, answerDetail detail =
      .answer result description dn message := by
  cases detail <;> exact ⟨_, _, _, _, rfl⟩

theorem regular_ofName {detail : Detail} (hname : name ≠ [])
    (hdetail : ∀ result description dn message, detail ≠ .answer result description dn message) :
    (ofName name detail).Regular := by
  by_cases hfamily : familyOf name = .operationResult
  · have hmade : ofName name detail = ⟨name, .operationResult, answerDetail detail⟩ := by
      unfold ofName
      simp only [hfamily]
    rw [hmade]
    refine ⟨hname, iff_of_true rfl (answerDetail_eq detail), fun hsystem => ?_⟩
    rcases isSystem_cases hsystem with hother | hsocket
    · cases hother
    · exact absurd (hfamily.symm.trans (familyOf_of_socket hsocket)) (by decide)
  · have hmade : ∃ name', name' ≠ [] ∧ (name' = name ∨ familyOf name = .system) ∧
        ofName name detail = ⟨name', familyOf name, detail⟩ := by
      unfold ofName
      dsimp only
      split
      · exact absurd ‹_› hfamily
      · split
        · rename_i hos
          exact ⟨_, systemName_ne_nil _, .inr (by rw [hos]; decide +kernel), rfl⟩
        · exact ⟨_, hname, .inl rfl, rfl⟩
      · exact ⟨_, hname, .inl rfl, rfl⟩
    obtain ⟨name', hnamed, hsame, hmade⟩ := hmade
    rw [hmade]
    refine ⟨hnamed, iff_of_false hfamily fun hanswer => ?_, fun hsystem => ?_⟩
    · obtain ⟨result, description, dn, message, hanswer⟩ := hanswer
      exact hdetail _ _ _ _ hanswer
    · rcases hsame with rfl | hsystem'
      · exact (isSystem_cases hsystem).imp_right familyOf_of_socket
      · exact .inl hsystem'

/-- An error answer is named after its code, or is of the general kind. -/
theorem name_ofAnswer (result description dn message : Value) :
    (ofAnswer result description dn message).name = answerName ∨
    ∃ entry ∈ answerNames,
      (ofAnswer result description dn message).name = answerNameOf entry.2 := by
  unfold ofAnswer
  cases hfound : answerNames.find? fun entry => Value.same (.int entry.1) result with
  | none => exact .inl rfl
  | some entry => exact .inr ⟨entry, List.mem_of_find?_eq_some hfound, rfl⟩

theorem regular_ofAnswer (result description dn message : Value) :
    (ofAnswer result description dn message).Regular := by
  have hnames : ∀ entry ∈ answerNames,
      ¬(socketNames.any fun n => Text.ofString n = answerNameOf entry.2) = true := by
    decide +kernel
  have hnamed : (ofAnswer result description dn message).name ≠ [] ∧
      ¬(socketNames.any fun n =>
        Text.ofString n = (ofAnswer result description dn message).name) = true := by
    rcases name_ofAnswer result description dn message with hname | ⟨entry, hentry, hname⟩
    · rw [hname]
      decide
    · rw [hname]
      exact ⟨List.cons_ne_nil _ _, hnames entry hentry⟩
  refine ⟨hnamed.1, iff_of_true rfl ⟨_, _, _, _, rfl⟩, fun hsystem => ?_⟩
  rcases isSystem_cases hsystem with hother | hsocket
  · cases hother
  · exact absurd hsocket hnamed.2

end Raised

/-! ### What a refusal is turned into -/

/-- The result reports what was raised. -/
structure ExtendedResult.Reports (result : ExtendedResult) (raised : Raised) : Prop where
  /-- An error answer keeps its code. -/
  answered : raised.family = .operationResult →
    ∃ description dn message, raised.detail = .answer result.code description dn message
  /-- The server could not be reached. -/
  unreachable : raised.family = .communication ∨ raised.family = .system →
    result.code = .int ResultCode.serverDown.code ∧ ∃ t, t ≠ [] ∧ result.diagnostic = .text t
  /-- The directory client failed in another way. -/
  otherwise : raised.family = .directory →
    result.code = .int ResultCode.localError.code ∧ ∃ t, t ≠ [] ∧ result.diagnostic = .text t
  /-- It is no success, but for an error answer with the code of success. -/
  success_iff : result.success = true ↔ raised.family = .operationResult ∧ result.code.IsZero

theorem Raised.shown_ne_nil (hnamed : raised.name ≠ []) : raised.shown ≠ [] := by
  unfold shown
  split
  · exact hnamed
  · rename_i htext
    exact fun hempty => htext (by rw [hempty]; rfl)

/-- What is refused is of the directory client, or of the operating system. -/
theorem Raised.Regular.family_cases (hregular : raised.Regular)
    (hrefused : (Fault.raised raised).isRefusal = true) :
    raised.family = .operationResult ∨
    (raised.family = .communication ∨ raised.family = .system) ∨ raised.family = .directory := by
  have hrefused' : raised.family.isDirectory = true ∨ raised.isSystem = true := by
    rwa [Fault.isRefusal, Bool.or_eq_true] at hrefused
  rcases hrefused' with hdirectory | hsystem
  · cases hfamily : raised.family <;> rw [hfamily] at hdirectory <;> simp_all [Family.isDirectory]
  · exact .inr (.inl (hregular.system hsystem).symm)

namespace ExtendedResult

theorem success_iff_isZero (result : ExtendedResult) :
    result.success = true ↔ result.code.IsZero := Iff.rfl

theorem not_success_ofCode_int {n : Int} (hn : n ≠ 0) (diagnostic : Value) :
    ¬(ofCode (.int n) diagnostic).success = true :=
  fun hzero => hn ((Value.isZero_iff_of_ratio (v := .int n) rfl).mp hzero)

theorem ofRaised_of_answer {description dn message : Value}
    (hdetail : raised.detail = .answer code description dn message) :
    (ofRaised raised).code = code := by
  unfold ofRaised
  rw [hdetail]
  rfl

/-- What carries no answer stands for a server that is down, or for a local error. -/
theorem ofRaised_of_no_answer
    (hdetail : ∀ result description dn message,
      raised.detail ≠ .answer result description dn message) :
    ofRaised raised =
      match raised.family with
      | .communication | .system => ofCode (.int ResultCode.serverDown.code) (.text raised.shown)
      | _ => ofCode (.int ResultCode.localError.code) (.text raised.shown) := by
  unfold ofRaised
  split
  · exact absurd ‹_› (hdetail _ _ _ _)
  · rfl

/-- A failure without an answer is reported by a code that stands for all of its family. -/
theorem reports_of_ofCode {n : Int} (hnamed : raised.name ≠ [])
    (hother : raised.family ≠ .operationResult) (hn : n ≠ 0)
    (hdown : raised.family = .communication ∨ raised.family = .system →
      n = ResultCode.serverDown.code)
    (hlocal : raised.family = .directory → n = ResultCode.localError.code) :
    (ofCode (.int n) (.text raised.shown)).Reports raised where
  answered hanswer := absurd hanswer hother
  unreachable hfamily :=
    ⟨congrArg Value.int (hdown hfamily), _, Raised.shown_ne_nil hnamed, rfl⟩
  otherwise hfamily :=
    ⟨congrArg Value.int (hlocal hfamily), _, Raised.shown_ne_nil hnamed, rfl⟩
  success_iff := iff_of_false (not_success_ofCode_int hn _) fun hanswer => hother hanswer.1

/-- **Every refusal is reported.** -/
theorem reports_ofRaised (hregular : raised.Regular)
    (hrefused : (Fault.raised raised).isRefusal = true) :
    (ofRaised raised).Reports raised := by
  rcases hregular.family_cases hrefused with hanswer | hbroken
  · obtain ⟨code, description, dn, message, hdetail⟩ := hregular.answers.mp hanswer
    have hcode := ofRaised_of_answer hdetail
    refine ⟨fun _ => ⟨description, dn, message, by rw [hcode, hdetail]⟩, fun hdown => ?_,
      fun hlocal => ?_, ?_⟩
    · rw [hanswer] at hdown
      rcases hdown with hdown | hdown <;> cases hdown
    · rw [hanswer] at hlocal
      cases hlocal
    · rw [success_iff_isZero]
      exact (and_iff_right hanswer).symm
  have hother : raised.family ≠ .operationResult := by
    rcases hbroken with (hfamily | hfamily) | hfamily <;> rw [hfamily] <;> decide
  rw [ofRaised_of_no_answer fun result description dn message hdetail =>
    hother (hregular.answers.mpr ⟨result, description, dn, message, hdetail⟩)]
  rcases hbroken with (hfamily | hfamily) | hfamily <;> simp only [hfamily] <;>
    refine reports_of_ofCode hregular.named hother (by decide) ?_ ?_ <;> simp [hfamily]

/-- The referrals of a result are texts, if there are any. -/
def Showable (result : ExtendedResult) : Prop :=
  result.referrals.truthy = true → ∃ ts, textsOf result.referrals = .ok ts

theorem showable_iff : result.Showable ↔ ∃ t, result.shown = .ok t := by
  unfold Showable shown
  by_cases htruthy : result.referrals.truthy = true
  · simp only [if_pos htruthy]
    cases htexts : textsOf result.referrals with
    | ok ts => exact ⟨fun _ => ⟨_, rfl⟩, fun _ _ => ⟨ts, rfl⟩⟩
    | error d =>
        refine ⟨fun htexts' => ?_, fun hshown => ?_⟩
        · obtain ⟨ts, hts⟩ := htexts' htruthy
          cases hts
        · obtain ⟨t, ht⟩ := hshown
          cases ht
  · simp only [if_neg htruthy]
    exact ⟨fun _ => ⟨_, rfl⟩, fun _ hreferrals => absurd hreferrals htruthy⟩

theorem code_of_ofAnswer (hresult : ofAnswer answer = .ok result) :
    answer.field "result" = .ok result.code := by
  unfold ofAnswer at hresult
  split at hresult
  · cases hresult
  · rename_i hcode
    cases hresult
    exact hcode

end ExtendedResult

namespace Action

/-! ### Submitting -/

/-- **With a logger, a request that can be written is sent once, whatever comes of it.** -/
theorem runOn_submit (hvalue : r.value = .ok value)
    (hlogger : (logger.runOn h).1 = .ok (.logger name)) :
    ∃ h₁, h.Emits [.extendedSent r.oid value] h₁ ∧
      h₁.answer = h.server.extended.answer.getD ServerAnswer.success ∧
      (submit r).runOn h = (submitted (.logger name) h.server.extended.outcome).runOn h₁ := by
  have hquiet := quiet_logger h
  obtain ⟨h₂, hlog, hlogged⟩ := runOn_log_logger name .debug ("Sending " ++ r.operation.name ++
    " request (" ++ r.oid ++ ") for: " ++ (Value.ofText? r.authId).shown) (logger.runOn h).2
  have hbefore : h.Emits [] h₂ := hquiet.after hlogged
  obtain ⟨h₁, hextend, hsent, hanswer⟩ := runOn_extend r.oid value h₂
  rw [hbefore.server] at hextend hanswer
  refine ⟨h₁, hbefore.after hsent, hanswer, ?_⟩
  rw [submit_eq, runOn_bind_ok (Prod.ext hlogger rfl), runOn_bind_ok (runOn_orFail_of_ok hvalue _),
    runOn_bind_ok hlog, runOn_attempt_bind, hextend]

/-- The connection holds the same answer on the two hosts. -/
private def SameAnswer (h h' : Host) : Prop := h'.answer = h.answer

private instance : IsPreorder Host SameAnswer where
  refl _ := rfl
  trans _ _ _ hab hbc := hbc.trans hab

theorem answer_submitted (name : Text) (outcome : Except Fault Unit) (h : Host) :
    ((submitted (.logger name) outcome).runOn h).2.answer = h.answer := by
  have hlog : ∀ level t, Keeps SameAnswer (log (.logger name) level t) :=
    fun level t => answer_log name level t
  suffices hkeeps : Keeps SameAnswer (submitted (.logger name) outcome) from hkeeps h
  unfold submitted
  split
  · refine Keeps.bind (Keeps.read _) fun answer => Keeps.bind (Keeps.orFail _ _) fun result => ?_
    refine Keeps.bind (Keeps.orFail _ _) fun shown => ?_
    exact Keeps.bind (hlog _ _) fun _ => Keeps.pure _
  · split
    · exact Keeps.ite (Keeps.bind (hlog _ _) fun _ => Keeps.pure _) (Keeps.fail _)
    · exact Keeps.fail _

/-- A step that returns leaves the answer to be read, and it has to be one that can be shown. -/
theorem submitted_ok_iff (name : Text) (h : Host) :
    ((submitted (.logger name) (.ok ())).runOn h).1 = .ok result ↔
      ExtendedResult.ofAnswer h.answer = .ok result ∧ result.Showable := by
  rw [ExtendedResult.showable_iff]
  unfold submitted
  dsimp only
  rw [runOn_bind_ok (runOn_read _ _)]
  constructor
  · intro hrun
    obtain ⟨result', h₁, hresult, hshowing⟩ := runOn_bind_inv (Prod.ext hrun rfl)
    obtain ⟨shown, h₂, hshown, hlogging⟩ := runOn_bind_inv hshowing
    obtain ⟨_, h₃, -, hend⟩ := runOn_bind_inv hlogging
    cases hend
    exact ⟨(runOn_orFail_inv hresult).1, shown, (runOn_orFail_inv hshown).1⟩
  · rintro ⟨hresult, shown, hshown⟩
    obtain ⟨h₁, hlog, -⟩ := runOn_log_logger name .debug ("Got result: " ++ shown) h
    rw [runOn_bind_ok (runOn_orFail_of_ok hresult h), runOn_bind_ok (runOn_orFail_of_ok hshown h),
      runOn_bind_ok hlog]
    rfl

/-- A refusal is turned into a result, and any other failure passes. -/
theorem submitted_raised (name : Text) (raised : Raised) (h : Host) :
    ((submitted (.logger name) (.error (.raised raised))).runOn h).1 =
      if (Fault.raised raised).isRefusal = true then .ok (.ofRaised raised)
      else .error (.raised raised) := by
  unfold submitted
  dsimp only
  split
  · obtain ⟨h₁, hlog, -⟩ := runOn_log_logger name .warning
      ("Request failed: " ++ (Fault.raised raised).shown) h
    rw [runOn_bind_ok hlog]
    rfl
  · rfl

/-- A machine whose server fails a request in a given way. -/
def hostRaising (raised : Raised) : Host :=
  { Host.plain with server := { extended := { failure := some raised } } }

/-- The connection broke while the request was sent. -/
def socketFailure : Raised := .ofName "LDAPSocketSendError" (.message "connection reset")

/-- An error answer that carries the code of success. -/
def zeroAnswer : Raised := .ofAnswer (.int 0) (.text "success") .null .null

theorem regular_socketFailure : socketFailure.Regular :=
  Raised.regular_ofName (by decide) fun _ _ _ _ hdetail => nomatch hdetail

end Action

end OtpRegistrar
