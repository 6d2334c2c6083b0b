/-
The request that a run sends.

By the time the session stands everything that goes into the request has been
checked, so nothing is left that could keep a run from sending it, and it sends it
once.  What the request says is told from the segments of the command line: the user
and the one-time password are in it if and only if they were given, with the bytes
that were given, and so is the password that was read.  An empty value is given all
the same; it is the missing one that makes a request to deregister about all devices.
-/
import OtpRegistrar.Proofs.Arguments.Segment
import OtpRegistrar.Proofs.Directory.DeviceRequest
import OtpRegistrar.Proofs.Password.Reading
import OtpRegistrar.Proofs.Registration.Order

namespace OtpRegistrar.Registration

open OtpRegistrar.Action OtpRegistrar.CommandLine

/-! ### What has been checked -/

theorem isUtf8_of_check {bound : Bindings} (hcheck : check bound = .ok ()) {name : Text}
    (hname : name ∈ sentNames) {t : Text} (ht : textArgument bound name = some t) :
    Text.isUtf8 t = true := by
  unfold check at hcheck
  split at hcheck
  · cases hcheck
  · rename_i hnone
    have hutf8 := List.find?_eq_none.mp hnone name hname
    unfold isUtf8Argument at hutf8
    rw [ht] at hutf8
    simpa using hutf8

/-- There is something to do: a device to deregister, or one to register. -/
theorem subject_of_check {bound : Bindings} (hcheck : check bound = .ok ()) :
    deregisters bound = true ∨ bound.has "otp" = true := by
  unfold check at hcheck
  split at hcheck
  · cases hcheck
  · split at hcheck
    · rename_i hsubject
      exact Bool.or_eq_true_iff.mp hsubject
    · cases hcheck

/-! ### What was given -/

/-- The arguments that name a source of the password of the user. -/
def userPasswordNames : List Text :=
  ["user_password", "user_password_file", "prompt_for_user_password"]

section Given

variable {homes : Homes} {line : List Text} {bound : Bindings} {pieces : List (Piece arguments)}
  (hconsists : Consists homes line [] pieces bound)

include hconsists

theorem authId_eq_given : authId bound = given pieces "auth_id" :=
  hconsists.text?_eq (by decide)

theorem otp_eq_given : otp bound = given pieces "otp" := hconsists.text?_eq (by decide)

theorem deregisters_eq_isGiven : deregisters bound = isGiven pieces "deregister" :=
  hconsists.has_eq _

theorem otp_isSome_of_has (hotp : bound.has "otp" = true) : (otp bound).isSome = true := by
  rw [hconsists.has_eq] at hotp
  rw [← hotp]
  exact hconsists.text?_isSome (by decide)

theorem userPassword_eq_none_iff {source : PasswordSource}
    (hsource : userPassword bound = .ok source) :
    source = .none ↔ userPasswordNames.any (isGiven pieces) = false := by
  have hinline : (textArgument bound "user_password").isSome = isGiven pieces "user_password" :=
    hconsists.text?_isSome (by decide)
  have hfile : (textArgument bound "user_password_file").isSome =
      isGiven pieces "user_password_file" := hconsists.text?_isSome (by decide)
  have hprompt := hconsists.has_eq "prompt_for_user_password"
  rw [PasswordSource.eq_none_iff_of_choose hsource]
  unfold userPasswordNames
  simp [← hinline, ← hfile, ← hprompt, Option.isSome_eq_false_iff]

/-- The request of a line that has been checked can be made and written, whatever the password. -/
theorem value_of_check (hcheck : check bound = .ok ()) (password : Option (List UInt8)) :
    ∃ r, DeviceRequest.make (authId bound) password (otp bound) (deregisters bound) = .ok r ∧
      r.value = .ok (DeviceRequest.sequenceOf ((authId bound).map Text.toBytes) password
        ((otp bound).map Text.toBytes)) :=
  DeviceRequest.value_of_make password (fun t ht => isUtf8_of_check hcheck (by decide) ht)
    (fun t ht => isUtf8_of_check hcheck (by decide) ht)
    ((subject_of_check hcheck).imp_right (otp_isSome_of_has hconsists))

end Given

/-! ### Sending it -/

/-- Once the session stands, a request that can be made and written is sent, and the connection is
closed behind it. -/
theorem emits_request_of_connected {s : Settings} {password : Option (List UInt8)} {h h₁ : Host}
    {name : Text} {r : DeviceRequest} {value : List UInt8}
    (hconnect : (connect s).runOn h = (.ok (), h₁))
    (hlogger : h₁.config.get Host.loggerVariable = .logger name)
    (hmake : DeviceRequest.make (authId h.bound) password (otp h.bound) (deregisters h.bound) =
      .ok r) (hvalue : r.value = .ok value) :
    h₁.Emits [.extendedSent r.oid value, .unbound] ((request s password).runOn h).2 := by
  rw [runOn_request]
  refine emits_session_of_connected hconnect (?_ : h₁.Emits [.extendedSent r.oid value] _)
  rcases runOn_exchange h.bound password h₁ with ⟨e, hnone, -⟩ | ⟨r', hmake', hrun⟩
  · rw [hmake] at hnone
    cases hnone
  · rw [hmake] at hmake'
    cases hmake'
    rw [hrun]
    rcases emits_submit r h₁ with ⟨-, hnever⟩ | ⟨value', hvalue', hsent⟩
    · exact absurd hlogger (hnever value name hvalue)
    · rw [hvalue] at hvalue'
      cases hvalue'
      exact hsent

/-- No request is part of making contact. -/
theorem extendedSent_not_mem_course {s : Settings} {c : Contact s} {server : DirectoryServer}
    {oid : Text} {value : List UInt8} :
    .extendedSent oid value ∉ Step.events (c.course server) := by
  simp [Contact.course, Contact.preparing, establishing]

/-- When the session stands, both passwords have been asked for, and nothing else has been done
outward before the contact was made. -/
theorem contacted_of_connected {line : List Text} {h : Host} {password : Option (List UInt8)}
    (hconnected : ((connected line).runOn h).1 = .ok password) :
    ∃ entries s s' bound asked h₃ h₄, Accepted h line bound s ∧
      (run line).runOn h = (perform entries s' password).runOn h₃ ∧
      (connect s').runOn h₃ = (.ok (), h₄) ∧ ({ h with bound } : Host).Emits asked h₃ ∧
      (∀ e ∈ asked, asksPassword e = true) ∧
      ∃ source, userPassword bound = .ok source ∧ (password.isSome = true ↔ source ≠ .none) := by
  obtain ⟨entries, s, h₀, h₁, bindPassword, h₂, h₃, h₄, hprepared, hu, hb, hlog, hconnect⟩ :=
    connected_inv hconnected
  obtain ⟨hrun, bound, haccepted, hquiet⟩ := prepared_ok hprepared
  rcases runOn_readUserPassword h₀ with ⟨f, hnone⟩ | ⟨user, huser, hchosen⟩
  · rw [hu] at hnone
    cases hnone
  rcases runOn_readBindPassword h₁ with ⟨f, hnone⟩ | ⟨bind, -, hchosen'⟩
  · rw [hb] at hnone
    cases hnone
  have hasked := emits_readPassword user h₀
  have hasked' := emits_readPassword bind h₁
  rw [← hchosen, hu] at hasked
  rw [← hchosen', hb] at hasked'
  have hread := (yields_of_readPassword (hchosen.symm.trans hu)).isSome_iff
  have hlogged := quiet_logOtp h₂
  rw [hlog] at hlogged
  rw [runOn_proceed_of_both hu hb, runOn_bind_ok hlog] at hrun
  rw [show h₀.bound = bound from hquiet.bound] at huser
  exact ⟨entries, s, _, bound, _, h₃, h₄, haccepted, hrun, hconnect,
    (hquiet.after (hasked.trans hasked')).before hlogged, fun _ => asksPassword_of_mem_both, user,
    huser, hread⟩

/-- When the session stands, both passwords have been read from their sources, and nothing but that
and the contact has been done outward. -/
theorem connected_ok {line : List Text} {h : Host} {password : Option (List UInt8)}
    (hconnected : ((connected line).runOn h).1 = .ok password) :
    ∃ entries s s' bound before h₃ h₄ name, Accepted h line bound s ∧
      (run line).runOn h = (perform entries s' password).runOn h₃ ∧
      (connect s').runOn h₃ = (.ok (), h₄) ∧ h₃.bound = bound ∧
      h₄.config.get Host.loggerVariable = .logger name ∧
      ({ h with bound } : Host).Emits before h₄ ∧ (∀ oid value, .extendedSent oid value ∉ before) ∧
      ∃ source, userPassword bound = .ok source ∧ (password.isSome = true ↔ source ≠ .none) := by
  obtain ⟨entries, s, s', bound, asked, h₃, h₄, haccepted, hrun, hconnect, hasked, hasks,
    hsource⟩ := contacted_of_connected hconnected
  obtain ⟨c, hcontact, -, name, hname⟩ := connect_ok hconnect
  refine ⟨entries, s, s', bound, _, h₃, h₄, name, haccepted, hrun, hconnect, hasked.bound, hname,
    hasked.trans hcontact, ?_, hsource⟩
  intro oid value hmem
  rcases List.mem_append.mp hmem with hmem | hmem
  · cases hasks _ hmem
  · exact extendedSent_not_mem_course hmem

/-- Before a session stands its connection has been made. -/
theorem connectionMade_of_connected {line : List Text} {h : Host} {es : List Event}
    (hconnected : (connected line).Succeeds h)
    (houtward : ((run line).runOn h).2.outward = h.outward ++ es) :
    ∃ name sent, .connectionMade name sent ∈ es := by
  obtain ⟨password, hok⟩ := hconnected
  obtain ⟨entries, s, s', bound, asked, h₃, h₄, -, hrun, hconnect, hasked, -⟩ :=
    contacted_of_connected hok
  obtain ⟨c, hcontact, -⟩ := connect_ok hconnect
  obtain ⟨sent, hexchange, -⟩ := emits_exchange h₃.bound password h₄
  have hbehind := emits_session_of_connected hconnect hexchange
  rw [← runOn_request] at hbehind
  have hperformed : h₄.Emits _ ((perform entries s' password).runOn h₃).2 :=
    emits_perform_of_request hbehind
  have hwhole := ((hasked.trans hcontact).trans hperformed).outward
  rw [← hrun, houtward] at hwhole
  obtain rfl := List.append_cancel_left hwhole
  refine ⟨s'.bindDn, c.password, List.mem_append_left _ (List.mem_append_right _ ?_)⟩
  simp [Contact.course, Contact.preparing]

/-- What a request tells: the identifier and the value that are sent for the pieces of a command
line and the password of the user. -/
structure Tells (pieces : List (Piece arguments)) (password : Option (List UInt8)) (oid : Text)
    (value : List UInt8) : Prop where
  operation : oid = if isGiven pieces "deregister" then DeviceRequest.deregisterOid
    else DeviceRequest.registerOid
  /-- Only a request to deregister may be without a one-time password. -/
  subject : isGiven pieces "deregister" = true ∨ (given pieces "otp").isSome = true
  /-- A password is sent if and only if a source of it is named. -/
  passwordNamed : password.isSome = userPasswordNames.any (isGiven pieces)
  authIdUtf8 : ∀ t, given pieces "auth_id" = some t → Text.encode t = .ok (Text.toBytes t)
  otpUtf8 : ∀ t, given pieces "otp" = some t → Text.encode t = .ok (Text.toBytes t)
  written : value = DeviceRequest.sequenceOf ((given pieces "auth_id").map Text.toBytes) password
    ((given pieces "otp").map Text.toBytes)
  /-- The contents are those that were given; what was not given is not in the value. -/
  contents : value.length < Ber.limit → DeviceRequest.fieldsOf value =
    some ((given pieces "auth_id").map Text.toBytes, password,
      (given pieces "otp").map Text.toBytes)

/-- **A run sends its request once**, if both passwords have been read and the session stands; and
the request tells what was given. -/
theorem run_sends_one_request {line : List Text} {h : Host} {password : Option (List UInt8)}
    (hconnected : ((connected line).runOn h).1 = .ok password) :
    ∃ bound s, ∃ pieces : List (Piece arguments), ∃ before oid value,
      Accepted h line bound s ∧ Consists h.homes line [] pieces bound ∧
      ((run line).runOn h).2.outward =
        h.outward ++ (before ++ [.extendedSent oid value, .unbound]) ∧
      (∀ oid' value', .extendedSent oid' value' ∉ before) ∧ Tells pieces password oid value := by
  obtain ⟨entries, s, s', bound, before, h₃, h₄, name, haccepted, hrun, hconnect, hbound, hname,
    hemits, hbefore, source, hsource, hpassword⟩ := connected_ok hconnected
  obtain ⟨pieces, hconsists⟩ := consists_of_read haccepted.read
  have hcheck := haccepted.checked
  have hauthId : ∀ t, authId bound = some t → Text.isUtf8 t = true :=
    fun t ht => isUtf8_of_check hcheck (by decide) ht
  have hotp : ∀ t, otp bound = some t → Text.isUtf8 t = true :=
    fun t ht => isUtf8_of_check hcheck (by decide) ht
  have hsubject : deregisters bound = true ∨ (otp bound).isSome = true :=
    (subject_of_check hcheck).imp_right (otp_isSome_of_has hconsists)
  obtain ⟨r, hmake, hvalue⟩ := DeviceRequest.value_of_make password hauthId hotp hsubject
  have hoid := DeviceRequest.oid_of_make hmake
  rw [← hbound] at hmake
  have hsent : h₄.Emits _ ((perform entries s' password).runOn h₃).2 :=
    emits_perform_of_request (emits_request_of_connected hconnect hname hmake hvalue)
  rw [authId_eq_given hconsists] at hauthId hsent
  rw [otp_eq_given hconsists] at hotp hsent hsubject
  rw [deregisters_eq_isGiven hconsists] at hsubject hoid
  have hnamed : password.isSome = userPasswordNames.any (isGiven pieces) := by
    have hnone := userPassword_eq_none_iff hconsists hsource
    rw [Bool.eq_iff_iff, hpassword, Ne, hnone, Bool.not_eq_false]
  refine ⟨bound, s, pieces, before, r.oid, _, haccepted, hconsists, ?_, hbefore,
    ⟨hoid, hsubject, hnamed, fun t ht => Text.encode_of_isUtf8 (hauthId t ht),
      fun t ht => Text.encode_of_isUtf8 (hotp t ht), rfl, DeviceRequest.fieldsOf_sequenceOf⟩⟩
  rw [hrun]
  exact (hemits.trans hsent).outward

/-- A line to deregister all devices of a user; its password is sent along. -/
def deregisteringLine : List Text := ["--deregister", "--authID", "u:tester", "--userPassword=pw"]

theorem run_sends_one_request_deregistering :
    ((connected deregisteringLine).runOn Host.plain).1 = .ok (some [112, 119]) ∧
      ∃ bound s, ∃ pieces : List (Piece arguments), ∃ before oid value,
        Accepted Host.plain deregisteringLine bound s ∧
        Consists Host.plain.homes deregisteringLine [] pieces bound ∧
        ((run deregisteringLine).runOn Host.plain).2.outward =
          Host.plain.outward ++ (before ++ [.extendedSent oid value, .unbound]) ∧
        (∀ oid' value', .extendedSent oid' value' ∉ before) ∧
        Tells pieces (some [112, 119]) oid value := by
  have hconnected : ((connected deregisteringLine).runOn Host.plain).1.toOption =
      some (some [112, 119]) := by decide +kernel
  have hok := eq_ok_of_toOption hconnected
  exact ⟨hok, run_sends_one_request hok⟩

end OtpRegistrar.Registration
