/-
A run keeps its secrets.

Two runs whose secrets differ, and nothing else, are seen side by side.  Up to the
command line they do the same, since the line is shown without its secrets; behind it
their variables are twins, so the same is decided; once the passwords have been read
the hosts are twins still.  From there on a password is only handed on: the one to
bind with is decoded, which succeeds for both, and the one of the user becomes a part
of the value of the request.  Whatever the server answers is the same for both, and
nothing that is shown is made of anything else.

So a run shows the same whatever the secrets are, and ends in the same way.
-/
import OtpRegistrar.Proofs.Registration.Twin

namespace OtpRegistrar

/-! ### What is shown -/

/-- Is something shown to the user, or written to a log? -/
def Event.isShown : Event → Bool
  | .printed _ | .prompted _ => true
  | e => e.isEntry

/-- What has been shown to the user or written to a log, in order. -/
def Host.shown (h : Host) : List Event := h.events.filter Event.isShown

theorem Event.veiled_of_isShown {e : Event} (he : e.isShown = true) : e.veiled = e := by
  cases e <;> first | rfl | cases he

theorem Event.isShown_veiled (e : Event) : e.veiled.isShown = e.isShown := by
  cases e <;> rfl

/-- Twins have shown the same. -/
theorem Host.Twin.shown {B : Bindings → Bindings → Prop} {h h' : Host} (htwin : Twin B h h') :
    h'.shown = h.shown := by
  have hveiled : ∀ es : List Event, es.filter Event.isShown =
      (es.map Event.veiled).filter Event.isShown := by
    intro es
    rw [List.filter_map, show Event.isShown ∘ Event.veiled = Event.isShown from
      funext Event.isShown_veiled]
    conv => lhs; rw [← List.map_id (es.filter Event.isShown)]
    exact List.map_congr_left fun e he =>
      (Event.veiled_of_isShown (List.mem_filter.mp he).2).symm
  unfold Host.shown
  rw [hveiled h'.events, hveiled h.events, htwin.events]

namespace Registration

open OtpRegistrar.Action OtpRegistrar.CommandLine

/-! ### Up to the command line -/

section

variable {B : Bindings → Bindings → Prop}

theorem respects_say (t : Text) : Respects (Host.Twin B) (say t) :=
  Agree.change fun _ _ hs => hs.noted rfl

theorem agree_logInvocation {line line' : List Text} (hlines : TwinLines line line') :
    Agree (Host.Twin B) Eq (logInvocation line) (logInvocation line') := by
  have hsame := respects_logInvocation (Host.runsTogether_twin B) line
  unfold logInvocation at hsame ⊢
  rwa [hlines.invocationEntry]

theorem respects_explain (f : Fault) : Respects (Host.Twin B) (explain f) := by
  have hruns := Host.runsTogether_twin B
  unfold explain
  refine Agree.ite ?_ (Agree.ite ?_ (Agree.fail _))
  · exact Agree.bind_eq (respects_say _) fun _ => Agree.pure rfl
  · refine Agree.bind_eq (respects_complain hruns _) fun _ => ?_
    exact Agree.bind_eq (respects_complain hruns _) fun _ => Agree.pure rfl

theorem respects_explainConnection (f : Fault) : Respects (Host.Twin B) (explainConnection f) := by
  unfold explainConnection
  refine Agree.ite ?_ (Agree.fail _)
  exact Agree.bind_eq (respects_complain (Host.runsTogether_twin B) _) fun _ => Agree.pure rfl

end

/-! ### Behind it -/

/-- The relation of the hosts of two runs whose command lines have been read. -/
abbrev Twins : Host → Host → Prop := Host.Twin TwinBindings

theorem twins_runTogether : Host.RunsTogether Twins fun e e' => e'.veiled = e.veiled :=
  Host.runsTogether_twin TwinBindings

theorem agree_bound : Agree Twins TwinBindings (read (·.bound)) (read (·.bound)) :=
  Agree.read fun _ _ hs => hs.bound

/-- The same lines are accepted, with the same settings. -/
theorem respects_acceptance : Respects Twins acceptance := by
  unfold acceptance currentSettings
  refine Agree.bind agree_bound fun bound bound' hbound => ?_
  rw [hbound.checkAll, hbound.check]
  refine Agree.bind_eq (Agree.orFail _ _) fun _ => ?_
  refine Agree.bind_eq (Agree.orFail _ _) fun _ => ?_
  refine Agree.bind (V := Twins) (Agree.read fun _ _ hs => hs) fun h h' hs => ?_
  rw [hs.config, hs.bound.settings]
  exact Agree.orFail _ _

theorem respects_logOtp : Respects Twins logOtp := by
  unfold logOtp
  refine Agree.bind agree_bound fun bound bound' hbound => ?_
  rw [hbound.otp]
  cases otp bound with
  | none => exact Agree.pure rfl
  | some t =>
      dsimp only
      unfold logIdentity
      refine Agree.bind_eq (respects_runLogger twins_runTogether) fun entries => ?_
      refine Agree.bind_eq (Agree.orFail _ _) fun entry => ?_
      exact respects_entry twins_runTogether _ _ _

/-- The requests of two runs differ in the password of the user alone. -/
theorem alike_make {bound bound' : Bindings} (hbound : TwinBindings bound bound')
    (password password' : Option (List UInt8)) :
    Alike (Requested fun e e' => e'.veiled = e.veiled)
      ((DeviceRequest.make (authId bound) password (otp bound) (deregisters bound)).mapError
        Fault.request)
      ((DeviceRequest.make (authId bound') password' (otp bound') (deregisters bound')).mapError
        Fault.request) := by
  have hrequested : ∀ operation, Requested (fun e e' => e'.veiled = e.veiled)
      ⟨operation, authId bound, password, otp bound⟩
      ⟨operation, authId bound, password', otp bound⟩ := by
    intro operation
    refine ⟨rfl, rfl, ?_⟩
    unfold DeviceRequest.value
    dsimp only
    cases DeviceRequest.encodeText (authId bound) with
    | error e => exact .error _
    | ok authId =>
        dsimp only
        cases DeviceRequest.encodeText (otp bound) with
        | error e => exact .error _
        | ok otp =>
            dsimp only
            split
            · exact .error _
            · exact .ok rfl
  rw [hbound.authId, hbound.otp, hbound.deregisters]
  unfold DeviceRequest.make
  split
  · exact .ok (hrequested _)
  · split
    · exact .error _
    · exact .ok (hrequested _)

/-- Both of two passwords to bind with can be sent. -/
theorem agree_decoded (s : Settings) {bindPassword bindPassword' : Option (List UInt8)}
    (hspelled : ∀ {bytes}, bindPassword = some bytes → Spelled bytes)
    (hspelled' : ∀ {bytes}, bindPassword' = some bytes → Spelled bytes) :
    Agree Twins (HandedOn (fun e e' => e'.veiled = e.veiled) s)
      (decoded ((bindPassword.map Value.bytes).getD .null))
      (decoded ((bindPassword'.map Value.bytes).getD .null)) := by
  have hsent : ∀ {password : Option (List UInt8)},
      (∀ {bytes}, password = some bytes → Spelled bytes) →
      ∃ v, decoded ((password.map Value.bytes).getD .null) = pure v := by
    intro password hspelled
    cases password with
    | none => exact ⟨.null, rfl⟩
    | some bytes =>
        obtain ⟨t, ht⟩ := decoded_spelled (hspelled rfl)
        exact ⟨_, ht⟩
  obtain ⟨v, hv⟩ := hsent hspelled
  obtain ⟨v', hv'⟩ := hsent hspelled'
  rw [hv, hv']
  exact Agree.pure rfl

theorem agree_request (s : Settings) (password password' : Option (List UInt8))
    {bindPassword bindPassword' : Option (List UInt8)}
    (hspelled : ∀ {bytes}, bindPassword = some bytes → Spelled bytes)
    (hspelled' : ∀ {bytes}, bindPassword' = some bytes → Spelled bytes) :
    Agree Twins Eq
      (request { s with bindPassword := (bindPassword.map Value.bytes).getD .null } password)
      (request { s with bindPassword := (bindPassword'.map Value.bytes).getD .null }
        password') := by
  unfold request
  refine Agree.bind agree_bound fun bound bound' hbound => ?_
  refine agree_session twins_runTogether
    (agree_connect twins_runTogether s (agree_decoded s hspelled hspelled')) ?_
  refine Agree.bind (Agree.settle (alike_make hbound password password')) fun r r' hr => ?_
  refine Agree.bind_eq (agree_submit twins_runTogether hr) fun result => ?_
  rw [hr.operation]
  exact Agree.pure rfl

theorem respects_conclude (entries : Value) (operation : DeviceOperation)
    (result : ExtendedResult) : Respects Twins (conclude entries operation result) := by
  unfold conclude
  refine Agree.bind agree_bound fun bound bound' hbound => ?_
  unfold successMessage failureMessage
  rw [hbound.userName, hbound.deregisters, hbound.otp]
  refine Agree.ite ?_ ?_
  · refine Agree.bind_eq (respects_say _) fun _ => ?_
    exact Agree.bind_eq (respects_entry twins_runTogether _ _ _) fun _ => Agree.pure rfl
  · refine Agree.bind_eq (Agree.orFail _ _) fun shown => ?_
    refine Agree.bind_eq (respects_complain twins_runTogether _) fun _ => ?_
    exact Agree.bind_eq (respects_entry twins_runTogether _ _ _) fun _ => Agree.pure rfl

/-- What is done once both passwords have been read does not depend on them, as long as they can be
sent. -/
theorem agree_perform (entries : Value) (s : Settings) (password password' : Option (List UInt8))
    {bindPassword bindPassword' : Option (List UInt8)}
    (hspelled : ∀ {bytes}, bindPassword = some bytes → Spelled bytes)
    (hspelled' : ∀ {bytes}, bindPassword' = some bytes → Spelled bytes) :
    Agree Twins Eq
      (logOtp >>= fun _ => perform entries
        { s with bindPassword := (bindPassword.map Value.bytes).getD .null } password)
      (logOtp >>= fun _ => perform entries
        { s with bindPassword := (bindPassword'.map Value.bytes).getD .null } password') := by
  refine Agree.bind_eq respects_logOtp fun _ => ?_
  unfold perform
  refine (agree_request s password password' hspelled hspelled').attempt_bind ?_ fun f =>
    respects_explainConnection f
  rintro ⟨operation, result⟩ _ rfl
  exact respects_conclude entries operation result

/-! ### The passwords -/

section

variable {h h' h₁ h₁' : Host} {password password' : Option (List UInt8)}

theorem yields_of_readUserPassword (huser : readUserPassword.runOn h = (.ok password, h₁)) :
    ∃ source, userPassword h.bound = .ok source ∧ source.Yields h password h₁ := by
  rcases runOn_readUserPassword h with ⟨f, hfails⟩ | ⟨source, hsource, hread⟩
  · rw [huser] at hfails
    cases hfails
  · exact ⟨source, hsource, yields_of_readPassword (hread.symm.trans huser)⟩

theorem yields_of_readBindPassword (hbind : readBindPassword.runOn h = (.ok password, h₁)) :
    ∃ source, bindPassword h.bound h.config = .ok source ∧ source.Yields h password h₁ := by
  rcases runOn_readBindPassword h with ⟨f, hfails⟩ | ⟨source, hsource, hread⟩
  · rw [hbind] at hfails
    cases hfails
  · exact ⟨source, hsource, yields_of_readPassword (hread.symm.trans hbind)⟩

/-- Once both have read a password of the user, twins are twins still. -/
theorem twins_of_readUserPassword (hs : Twins h h')
    (huser : readUserPassword.runOn h = (.ok password, h₁))
    (huser' : readUserPassword.runOn h' = (.ok password', h₁')) : Twins h₁ h₁' := by
  obtain ⟨source, hsource, hyields⟩ := yields_of_readUserPassword huser
  obtain ⟨source', hsource', hyields'⟩ := yields_of_readUserPassword huser'
  exact (hs.bound.userPassword hsource hsource').yields hs hyields hyields'

/-- Once both have read a password to bind with, twins are twins still. -/
theorem twins_of_readBindPassword (hs : Twins h h')
    (hbind : readBindPassword.runOn h = (.ok password, h₁))
    (hbind' : readBindPassword.runOn h' = (.ok password', h₁')) : Twins h₁ h₁' := by
  obtain ⟨source, hsource, hyields⟩ := yields_of_readBindPassword hbind
  obtain ⟨source', hsource', hyields'⟩ := yields_of_readBindPassword hbind'
  rw [hs.config] at hsource'
  exact (hs.bound.bindPassword hsource hsource').yields hs hyields hyields'

theorem spelled_of_readBindPassword (hbind : readBindPassword.runOn h = (.ok password, h₁))
    {bytes : List UInt8} (hbytes : password = some bytes) : Spelled bytes := by
  obtain ⟨source, -, hyields⟩ := yields_of_readBindPassword hbind
  exact hyields.spelled hbytes

end

/-- Behind an accepted command line both passwords are read, one after the other. -/
theorem bothPasswordsRead_inv {line : List Text} {entries : Value} {s : Settings} {h₀ h : Host}
    (hprepared : (prepared line).runOn h₀ = (.ok (entries, s), h))
    (hboth : (bothPasswordsRead line).Succeeds h₀) :
    ∃ password h₁ bindPassword h₂, readUserPassword.runOn h = (.ok password, h₁) ∧
      readBindPassword.runOn h₁ = (.ok bindPassword, h₂) := by
  obtain ⟨y, hy⟩ := hboth
  unfold bothPasswordsRead at hy
  rw [runOn_bind_ok hprepared] at hy
  obtain ⟨password, h₁, huser, hrest⟩ := runOn_bind_inv (Prod.ext hy rfl)
  obtain ⟨bindPassword, h₂, hbind, -⟩ := runOn_bind_inv hrest
  exact ⟨password, h₁, bindPassword, h₂, huser, hbind⟩

theorem read_of_bothPasswordsRead {line : List Text} {h : Host}
    (hboth : (bothPasswordsRead line).Succeeds h) :
    (CommandLine.read h.homes arguments line).2 = .ok () := by
  obtain ⟨y, hy⟩ := hboth
  obtain ⟨⟨entries, s⟩, g, hprepared, -⟩ := runOn_bind_inv (Prod.ext (y := (_, _)) hy rfl)
  obtain ⟨-, bound, haccepted, -⟩ := prepared_ok hprepared
  rw [haccepted.read]

/-! ### Two runs -/

theorem agree_called {B : Bindings → Bindings → Prop} {line line' : List Text}
    (hlines : TwinLines line line') : Agree (Host.Twin B) Eq (called line) (called line') := by
  refine Agree.bind_eq (respects_runLogger (Host.runsTogether_twin B)) fun entries => ?_
  exact Agree.bind_eq (agree_logInvocation hlines) fun _ => Agree.pure rfl

section

variable {h h' : Host} {line line' : List Text}

/-- Twin lines are judged alike; if they come to be judged at all what they bind are twins. -/
theorem judged_alike (hhosts : Host.Twin (fun _ _ => True) h h') (hlines : TwinLines line line')
    (hread : (CommandLine.read h.homes arguments line).2 = .ok ())
    (hread' : (CommandLine.read h'.homes arguments line').2 = .ok ()) :
    (∃ f g g', (judged line).runOn h = (.error f, g) ∧ (judged line').runOn h' = (.error f, g') ∧
      Host.Twin (fun _ _ => True) g g') ∨
    ∃ judgement g g', (judged line).runOn h = (.ok judgement, g) ∧
      (judged line').runOn h' = (.ok judgement, g') ∧ Twins g g' := by
  obtain ⟨halike, hs⟩ := agree_called hlines h h' hhosts
  have hhomes := (quiet_called line h).homes
  have hhomes' := (quiet_called line' h').homes
  rcases hcalled : (called line).runOn h with ⟨r, g⟩
  rcases hcalled' : (called line').runOn h' with ⟨r', g'⟩
  rw [hcalled, hcalled'] at halike hs
  rw [hcalled] at hhomes
  rw [hcalled'] at hhomes'
  cases halike with
  | error f => exact .inl ⟨f, g, g', runOn_bind_error hcalled, runOn_bind_error hcalled', hs⟩
  | @ok entries _ hentries =>
      subst hentries
      have hbound : CommandLine.read g.homes arguments line =
          ((CommandLine.read h.homes arguments line).1, .ok ()) := by
        rw [hhomes, ← hread]
      have hbound' : CommandLine.read g'.homes arguments line' =
          ((CommandLine.read h'.homes arguments line').1, .ok ()) := by
        rw [hhomes', ← hread']
      have htwins := hlines.bindings hbound ((show g'.homes = g.homes from hs.homes) ▸ hbound')
      obtain ⟨halike, hs⟩ := respects_acceptance _ _ (hs.rebound htwins)
      refine .inr ⟨_, _, _, runOn_judged hcalled hbound, ?_, hs⟩
      rw [runOn_judged hcalled' hbound', halike.eq]

/-- If the command line is accepted, both passwords can be read. -/
def SecretsReadable (h : Host) (line : List Text) : Prop :=
  (prepared line).Succeeds h → (bothPasswordsRead line).Succeeds h

/-- **A run keeps its secrets.** Two runs on hosts that are the same but for the contents of files
and the answers at prompts, for command lines that are the same but for the passwords in them, end
in the same way and show the same, if these passwords can be read. -/
theorem run_keeps_secrets (hhosts : Host.Twin (fun _ _ => True) h h')
    (hlines : TwinLines line line') (hread : (CommandLine.read h.homes arguments line).2 = .ok ())
    (hread' : (CommandLine.read h'.homes arguments line').2 = .ok ())
    (hreadable : SecretsReadable h line) (hreadable' : SecretsReadable h' line') :
    ((run line').runOn h').1 = ((run line).runOn h).1 ∧
      ((run line').runOn h').2.shown = ((run line).runOn h).2.shown := by
  rw [run_eq, run_eq]
  rcases judged_alike hhosts hlines hread hread' with ⟨f, g, g', hjudged, hjudged', hs⟩ |
      ⟨⟨entries, outcome⟩, g, g', hjudged, hjudged', hs⟩
  · rw [runOn_bind_error hjudged, runOn_bind_error hjudged']
    exact ⟨rfl, hs.shown⟩
  rw [runOn_bind_ok hjudged, runOn_bind_ok hjudged']
  cases outcome with
  | error f =>
      obtain ⟨halike, hs⟩ := respects_explain f g g' hs
      exact ⟨halike.eq.symm, hs.shown⟩
  | ok s =>
      have hprepared := prepared_of_judged hjudged
      have hprepared' := prepared_of_judged hjudged'
      obtain ⟨password, g₁, bindPassword, g₂, huser, hbind⟩ := bothPasswordsRead_inv hprepared
        (hreadable ⟨_, by rw [hprepared]⟩)
      obtain ⟨password', g₁', bindPassword', g₂', huser', hbind'⟩ :=
        bothPasswordsRead_inv hprepared' (hreadable' ⟨_, by rw [hprepared']⟩)
      dsimp only
      rw [runOn_proceed_of_both huser hbind, runOn_proceed_of_both huser' hbind']
      have hs₁ := twins_of_readUserPassword hs huser huser'
      have hs₂ := twins_of_readBindPassword hs₁ hbind hbind'
      obtain ⟨halike, hs⟩ := agree_perform entries s password password'
        (spelled_of_readBindPassword hbind) (spelled_of_readBindPassword hbind') g₂ g₂' hs₂
      exact ⟨halike.eq.symm, hs.shown⟩

/-- A machine with a password in a file, on which calls are logged. -/
def withPassword (password : Text) : Host :=
  { Host.plain with
    files := Host.plain.files.put (.absolute ["pw"]) (.file (Text.toBytes password))
    config := { Host.plain.config with
      values := ("log_tool_invocation", .bool true) :: Host.plain.config.values } }

/-- A line whose password to bind with is a token of its own. -/
def bindLine (password : Text) : List Text :=
  ["--deregister", "--authID=u:tester", "--userPasswordFile=/pw", "--bindDN=cn=admin",
   "--bindPassword", password]

/-- What stands before the password in such a line. -/
def openPieces : List (Piece arguments) :=
  [⟨.alone "--deregister", flagArgument "--deregister" ["--de-register"] "deregister",
    by constructor <;> decide +kernel⟩,
   ⟨.joined "--authID" "u:tester", valueArgument "--authID"
      ["--authenticationID", "--auth-id", "--authentication-id"] "auth_id",
    by constructor <;> decide +kernel⟩,
   ⟨.joined "--userPasswordFile" "/pw", fileArgument "--userPasswordFile"
      ["--user-password-file"] "user_password_file",
    by constructor <;> decide +kernel⟩,
   ⟨.joined "--bindDN" "cn=admin", valueArgument "--bindDN" ["--bind-dn"] "bind_dn",
    by constructor <;> decide +kernel⟩]

/-- The password in such a line. -/
def passwordPiece (password : Text) : Piece arguments where
  segment := .apart "--bindPassword" password
  argument := secretArgument "--bindPassword" ["--bind-password"] "bind_password"
  fits :=
    { found := show Argument.find? arguments "--bindPassword" = _ by decide +kernel
      dashed := show Text.startsWith "--bindPassword" "-" = true by decide +kernel
      plain := show Symbol.char '=' ∉ Text.ofString "--bindPassword" by decide +kernel
      ordinary := fun _ => show Text.ofString "--bindPassword" ∉ Segment.special by decide +kernel
      valued := rfl }

theorem twinLines_bindLine (password password' : Text) :
    TwinLines (bindLine password) (bindLine password') := by
  have hopen : ∀ p ∈ openPieces, ∀ option value, p.segment ≠ .apart option value := by
    simp [openPieces]
  refine ⟨openPieces ++ [passwordPiece password], openPieces ++ [passwordPiece password'], [],
    rfl, rfl, .inl rfl, ?_, ?_⟩
  · refine List.rel_append (List.forall₂_same.mpr fun p _ => .refl p) (.cons ?_ .nil)
    exact ⟨rfl, (fun hopen => nomatch hopen), rfl⟩
  · intro p hp hsecret option value hsegment
    rcases List.mem_append.mp hp with hp | hp
    · exact absurd hsegment (hopen p hp option value)
    · rw [List.mem_singleton.mp hp] at hsecret
      cases hsecret

theorem run_keeps_secrets_bind :
    Host.Twin (fun _ _ => True) (withPassword "first") (withPassword "-h") ∧
      TwinLines (bindLine "secret") (bindLine "--otp=1") ∧
      (CommandLine.read (withPassword "first").homes arguments (bindLine "secret")).2 = .ok () ∧
      (CommandLine.read (withPassword "-h").homes arguments (bindLine "--otp=1")).2 = .ok () ∧
      SecretsReadable (withPassword "first") (bindLine "secret") ∧
      SecretsReadable (withPassword "-h") (bindLine "--otp=1") ∧
      ((run (bindLine "--otp=1")).runOn (withPassword "-h")).1 =
        ((run (bindLine "secret")).runOn (withPassword "first")).1 ∧
      ((run (bindLine "--otp=1")).runOn (withPassword "-h")).2.shown =
        ((run (bindLine "secret")).runOn (withPassword "first")).2.shown := by
  have hhosts : Host.Twin (fun _ _ => True) (withPassword "first") (withPassword "-h") := by
    exact { files := rfl, homes := rfl, resolver := rfl, screen := rfl, processId := rfl,
            time := rfl, server := rfl, answer := rfl, config := rfl, logs := rfl, bound := trivial,
            events := rfl }
  have hboth : (bothPasswordsRead (bindLine "secret")).Succeeds (withPassword "first") :=
    succeeds_of_isSome (by decide +kernel)
  have hboth' : (bothPasswordsRead (bindLine "--otp=1")).Succeeds (withPassword "-h") :=
    succeeds_of_isSome (by decide +kernel)
  have hread := read_of_bothPasswordsRead hboth
  have hread' := read_of_bothPasswordsRead hboth'
  exact ⟨hhosts, twinLines_bindLine _ _, hread, hread', fun _ => hboth, fun _ => hboth',
    run_keeps_secrets hhosts (twinLines_bindLine _ _) hread hread' (fun _ => hboth) fun _ => hboth'⟩

end

end Registration

end OtpRegistrar
