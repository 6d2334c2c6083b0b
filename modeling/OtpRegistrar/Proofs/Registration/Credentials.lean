/-
Which password goes where.

A run reads two passwords one behind the other.  Their sources are of the same kinds,
both may ask at the same prompt, and both passwords are turned into bytes and back on
the way.  So for everything that is handed to the directory client it is asked where
it came from: the user and the password of a connection, and the value of a request.
The one of the connection is always what the source of the password to bind with
gives, behind the other; the one in the request is always the other.

The sources themselves are told from the segments of the command line.  At most one
of them is named there, so it does not matter in which order they are looked at.
-/
import OtpRegistrar.Proofs.Directory.Handing
import OtpRegistrar.Proofs.Password.Giving
import OtpRegistrar.Proofs.Registration.Binding

namespace OtpRegistrar

open Text (isUtf8 toBytes)

/-! ### What is named -/

namespace PasswordSource

/-- The source is the one that is named: the password itself, its file, or the prompt. -/
structure Names (password path : Option Text) (asked : Bool) (account : Option Text)
    (source : PasswordSource) : Prop where
  inline : ∀ t, password = some t → source = .inline t
  file : ∀ p, path = some p → source = .file p
  prompt : asked = true → ∃ question, source = .prompt account question
  none : password = Option.none → path = Option.none → asked = false → source = .none

theorem prompt_of_choose {account : Option Text} {question : Text} {source : PasswordSource}
    (hchosen : choose Option.none Option.none true account question = .ok source) :
    ∃ shown, source = .prompt account shown := by
  unfold choose at hchosen
  dsimp only at hchosen
  cases hrender : Template.render [("account", Value.ofText? account)] question with
  | error e =>
      rw [hrender] at hchosen
      cases hchosen
  | ok shown =>
      rw [hrender] at hchosen
      cases hchosen
      exact ⟨shown, rfl⟩

/-- Where one place is named at most, it is the one that is chosen. -/
theorem names_of_choose {password path account : Option Text} {asked : Bool} {question : Text}
    {source : PasswordSource} (hfile : path.isSome = true → password = Option.none)
    (hasked : asked = true → password = Option.none ∧ path = Option.none)
    (hchosen : choose password path asked account question = .ok source) :
    source.Names password path asked account where
  inline t ht := by
    subst ht
    exact (Except.ok.inj hchosen).symm
  file p hp := by
    subst hp
    rw [hfile rfl] at hchosen
    exact (Except.ok.inj hchosen).symm
  prompt hyes := by
    obtain ⟨rfl, rfl⟩ := hasked hyes
    rw [hyes] at hchosen
    exact prompt_of_choose hchosen
  none hpassword hpath hno := (eq_none_iff_of_choose hchosen).mpr ⟨hpassword, hpath, hno⟩

/-- The two sources give their passwords one behind the other: that of the user, if there is to be
one, and then the one to bind with. -/
def GiveBoth (files : FileTree) (answers : List PromptAnswer) (user bind : PasswordSource)
    (userGiven : Option Text) (password : Text) : Prop :=
  ∃ rest left, user.Gives files answers userGiven rest ∧ bind.Gives files rest (some password) left

theorem GiveBoth.unique {files : FileTree} {answers : List PromptAnswer}
    {user bind : PasswordSource} {userGiven userGiven' : Option Text} {password password' : Text}
    (hgive : GiveBoth files answers user bind userGiven password)
    (hgive' : GiveBoth files answers user bind userGiven' password') :
    userGiven = userGiven' ∧ password = password' := by
  obtain ⟨rest, left, huser, hbind⟩ := hgive
  obtain ⟨rest', left', huser', hbind'⟩ := hgive'
  obtain ⟨rfl, rfl⟩ := huser.unique huser'
  exact ⟨rfl, Option.some.inj (hbind.unique hbind').1⟩

end PasswordSource

/-- The prompts of the two hosts are the same. -/
def Host.SamePrompts (h h' : Host) : Prop := h'.prompts = h.prompts

instance : IsPreorder Host Host.SamePrompts where
  refl _ := rfl
  trans _ _ _ hab hbc := Eq.trans hbc hab

namespace Registration

open OtpRegistrar.Action OtpRegistrar.CommandLine

/-- The source of the password of the user, for the pieces of a line. -/
abbrev UserSource (homes : Homes) (pieces : List (Piece arguments)) (source : PasswordSource) :
    Prop :=
  source.Names (given pieces "user_password")
    ((given pieces "user_password_file").map (expandHome homes))
    (isGiven pieces "prompt_for_user_password") (given pieces "auth_id")

/-- The source of the password to bind with under a name: what the line names; if it names none, the
file that is configured; if none is, the prompt. -/
structure BindSource (homes : Homes) (config : Config) (pieces : List (Piece arguments)) (dn : Text)
    (source : PasswordSource) : Prop where
  named : bindPasswordNames.any (isGiven pieces) = true →
    source.Names (given pieces "bind_password")
      ((given pieces "bind_password_file").map (expandHome homes))
      (isGiven pieces "prompt_for_bind_password") (some dn)
  configured : bindPasswordNames.any (isGiven pieces) = false → ∀ path, path ≠ [] →
    config.text? "ldap_bind_password_file" = some path → source = .file path
  asked : bindPasswordNames.any (isGiven pieces) = false →
    (∀ path, config.text? "ldap_bind_password_file" = some path → path = []) →
    ∃ question, source = .prompt (some dn) question

/-! ### The place of the password to bind with -/

section Chosen

variable {config : Config} {dn : Text} {source : PasswordSource}
  (hchosen : chooseConfigured config dn = .ok source)

include hchosen

theorem file_of_chooseConfigured {path : Text} (hpath : path ≠ [])
    (hconfigured : config.text? "ldap_bind_password_file" = some path) : source = .file path := by
  unfold chooseConfigured at hchosen
  rw [hconfigured] at hchosen
  split at hchosen
  · rename_i hnone
    cases hnone
  · rename_i hnone
    exact absurd (Option.some.inj hnone) hpath
  · rename_i hsome
    cases hsome
    exact (Except.ok.inj hchosen).symm

theorem prompt_of_chooseConfigured
    (hempty : ∀ path, config.text? "ldap_bind_password_file" = some path → path = []) :
    ∃ question, source = .prompt (some dn) question := by
  unfold chooseConfigured at hchosen
  split at hchosen
  · exact PasswordSource.prompt_of_choose hchosen
  · exact PasswordSource.prompt_of_choose hchosen
  · rename_i path hsome hconfigured
    exact absurd (hempty path hconfigured) hsome

end Chosen

section Accepted

variable {h : Host} {line : List Text} {bound : Bindings} {s : Settings}
  (haccepted : Accepted h line bound s)

include haccepted

/-- Of an exclusive set one member is bound at most. -/
theorem not_has_of_exclusive {group : Text} {names : List Text}
    (hdeclared : Constraint.exclusive group names ∈ constraints) {x y : Text} (hx : x ∈ names)
    (hy : y ∈ names) (hne : x ≠ y) (hbound : bound.has x = true) : bound.has y = false := by
  by_contra hyes
  rw [Bool.not_eq_false] at hyes
  exact kept_of_accepted haccepted hdeclared
    ⟨x, hx, y, hy, hne, Bindings.has_iff.mp hbound, Bindings.has_iff.mp hyes⟩

/-- A source that is chosen among an exclusive set is the one that the line names. -/
theorem names_of_accepted {pieces : List (Piece arguments)}
    (hconsists : Consists h.homes line [] pieces bound) (group : Text)
    {password path asked : Text}
    (hdeclared : Constraint.exclusive group [password, path, asked] ∈ constraints)
    (hnodup : [password, path, asked].Nodup)
    (hpassword : ∀ a ∈ arguments, a.variableName = password → a.flag = none ∧ a.isFile = false)
    (hpath : ∀ a ∈ arguments, a.variableName = path → a.flag = none ∧ a.isFile = true)
    {account : Option Text} {question : Text} {source : PasswordSource}
    (hchosen : PasswordSource.choose (textArgument bound password) (textArgument bound path)
      (bound.has asked) account question = .ok source) :
    source.Names (given pieces password) ((given pieces path).map (expandHome h.homes))
      (isGiven pieces asked) account := by
  have hone : ∀ {x y : Text}, x ∈ [password, path, asked] → y ∈ [password, path, asked] →
      x ≠ y → bound.has x = true → bound.has y = false :=
    fun hx hy => not_has_of_exclusive haccepted hdeclared hx hy
  have hnone : ∀ {name : Text}, (textArgument bound name).isSome = isGiven pieces name →
      bound.has name = false → textArgument bound name = none := by
    intro name hvalued hno
    rw [← hconsists.has_eq, hno] at hvalued
    simpa using hvalued
  have hpasswordBound : (textArgument bound password).isSome = isGiven pieces password :=
    hconsists.text?_isSome fun a ha hname => (hpassword a ha hname).1
  have hpathBound : (textArgument bound path).isSome = isGiven pieces path :=
    hconsists.text?_isSome fun a ha hname => (hpath a ha hname).1
  simp only [List.nodup_cons, List.mem_cons, List.not_mem_nil, or_false, not_or] at hnodup
  obtain ⟨⟨hpp, hpa⟩, hfa, -⟩ := hnodup
  rw [← hconsists.text?_eq hpassword, ← hconsists.path?_eq hpath, ← hconsists.has_eq]
  refine PasswordSource.names_of_choose (fun hgiven => ?_) (fun hyes => ⟨?_, ?_⟩) hchosen
  · refine hnone hpasswordBound (hone (by simp) (by simp) (Ne.symm hpp) ?_)
    rw [hconsists.has_eq, ← hpathBound]
    exact hgiven
  · exact hnone hpasswordBound (hone (by simp) (by simp) (Ne.symm hpa) hyes)
  · exact hnone hpathBound (hone (by simp) (by simp) (Ne.symm hfa) hyes)

theorem userSource_of_accepted {pieces : List (Piece arguments)}
    (hconsists : Consists h.homes line [] pieces bound) {source : PasswordSource}
    (hsource : userPassword bound = .ok source) : UserSource h.homes pieces source := by
  unfold UserSource
  rw [← authId_eq_given hconsists]
  exact names_of_accepted haccepted hconsists "user password" (by decide +kernel)
    (by decide +kernel) (by decide +kernel) (by decide +kernel) hsource

theorem bindSource_of_accepted {pieces : List (Piece arguments)}
    (hconsists : Consists h.homes line [] pieces bound) {dn : Text}
    (hdn : bindDn bound h.config = some dn) {source : PasswordSource}
    (hsource : bindPassword bound h.config = .ok source) :
    BindSource h.homes h.config pieces dn source := by
  have hpassword : (textArgument bound "bind_password").isSome = isGiven pieces "bind_password" :=
    hconsists.text?_isSome (by decide +kernel)
  have hpath : (textArgument bound "bind_password_file").isSome =
      isGiven pieces "bind_password_file" := hconsists.text?_isSome (by decide +kernel)
  have hnames : namesBindPassword bound = bindPasswordNames.any (isGiven pieces) := by
    simp [namesBindPassword, bindPasswordNames, ← hpassword, ← hpath, hconsists.has_eq,
      Bool.or_assoc]
  rw [bindPassword_of_some hdn, hnames] at hsource
  refine ⟨fun hsome => ?_, fun hnone path hpath hconfigured => ?_, fun hnone hempty => ?_⟩
  · rw [if_pos hsome] at hsource
    exact names_of_accepted haccepted hconsists "bind password" (by decide +kernel)
      (by decide +kernel) (by decide +kernel) (by decide +kernel) hsource
  · rw [if_neg (Bool.eq_false_iff.mp hnone)] at hsource
    exact file_of_chooseConfigured hsource hpath hconfigured
  · rw [if_neg (Bool.eq_false_iff.mp hnone)] at hsource
    exact prompt_of_chooseConfigured hsource hempty

theorem bindDn_eq_text_of_accepted {dn : Text} (hdn : bindDn bound h.config = some dn) :
    s.bindDn = .text dn := by
  rw [bindDn_of_accepted haccepted, hdn]
  rfl

end Accepted

/-! ### Reading both -/

/-- Whatever logging does, the prompts stay the same. -/
theorem prompts_prepared {line : List Text} {h g : Host} {y : Value × Settings}
    (hprepared : (prepared line).runOn h = (.ok y, g)) : g.prompts = h.prompts := by
  have hsame : ∀ h₀, Host.RunsTogether (Itself Host.SamePrompts h₀) fun e e' =>
      e' = e ∧ e.isPrinted = false :=
    .itself (fun _ _ _ => rfl) (fun _ _ => rfl) (fun _ _ => rfl) (fun _ _ => rfl) (fun _ _ => rfl)
  have hcalled : Keeps Host.SamePrompts (called line) :=
    Keeps.of_respects fun h₀ => respects_called (hsame h₀) line
  rw [prepared_eq] at hprepared
  obtain ⟨entries, h₁, hentries, hrest⟩ := runOn_bind_inv hprepared
  obtain ⟨s, h₂, hread, hrest⟩ := runOn_bind_inv hrest
  obtain ⟨r, hread', -⟩ := runOn_readArguments line h₁
  rw [hread] at hread'
  have hkept := hcalled h
  rw [hentries] at hkept
  cases hrest
  rw [(Prod.mk.inj hread').2]
  exact hkept

section

variable {g : Host} {user bind : PasswordSource} {userGiven : Option Text} {password : Text}

theorem runOn_readUserPassword_of (huser : userPassword g.bound = .ok user) :
    readUserPassword.runOn g = (readPassword user).runOn g := by
  refine runOn_bind_ok ?_
  unfold currentUserPassword
  rw [runOn_bind_ok (runOn_read _ _), runOn_orFail, huser]
  rfl

theorem runOn_readBindPassword_of (hbind : bindPassword g.bound g.config = .ok bind) :
    readBindPassword.runOn g = (readPassword bind).runOn g := by
  refine runOn_bind_ok ?_
  unfold currentBindPassword
  rw [runOn_bind_ok (runOn_read _ _), runOn_orFail]
  dsimp only [id]
  rw [hbind]
  rfl

/-- The source of the password to bind with is still the same once the other has been read. -/
theorem bindPassword_behind (source : PasswordSource)
    (hbind : bindPassword g.bound g.config = .ok bind) :
    bindPassword ((readPassword source).runOn g).2.bound ((readPassword source).runOn g).2.config =
      .ok bind := by
  have hasked := emits_readPassword source g
  rw [hasked.bound, bindPassword_congr hasked.config, hbind]

/-- **Passwords that the sources give are read**, as their bytes. -/
theorem read_of_giveBoth (huser : userPassword g.bound = .ok user)
    (hbind : bindPassword g.bound g.config = .ok bind)
    (hgive : PasswordSource.GiveBoth g.files g.prompts user bind userGiven password) :
    ∃ g₁ g₂, readUserPassword.runOn g = (.ok (userGiven.map toBytes), g₁) ∧
      readBindPassword.runOn g₁ = (.ok (some (toBytes password)), g₂) := by
  obtain ⟨rest, left, huserGives, hbindGives⟩ := hgive
  obtain ⟨g₁, hread, hprompts, hfiles⟩ := readPassword_of_gives huserGives
  have hbind' := bindPassword_behind user hbind
  rw [hread] at hbind'
  rw [← hprompts, ← hfiles] at hbindGives
  obtain ⟨g₂, hread', -, -⟩ := readPassword_of_gives hbindGives
  refine ⟨g₁, g₂, ?_, ?_⟩
  · rw [runOn_readUserPassword_of huser, hread]
  · rw [runOn_readBindPassword_of hbind', hread']
    rfl

/-- **Passwords that are read are those that the sources give.** -/
theorem giveBoth_of_read {g₁ g₂ : Host} {userBytes bindBytes : Option (List UInt8)}
    (huser : userPassword g.bound = .ok user) (hbind : bindPassword g.bound g.config = .ok bind)
    (hneeded : bind ≠ .none) (huserRead : readUserPassword.runOn g = (.ok userBytes, g₁))
    (hbindRead : readBindPassword.runOn g₁ = (.ok bindBytes, g₂)) :
    ∃ userGiven password,
      PasswordSource.GiveBoth g.files g.prompts user bind userGiven password ∧
      isUtf8 password = true ∧ userBytes = userGiven.map toBytes ∧
      bindBytes = some (toBytes password) := by
  rw [runOn_readUserPassword_of huser] at huserRead
  have hbind' := bindPassword_behind user hbind
  rw [huserRead] at hbind'
  rw [runOn_readBindPassword_of hbind'] at hbindRead
  obtain ⟨userGiven, huserGives, rfl, hfiles⟩ := gives_of_readPassword huserRead
  obtain ⟨bindGiven, hbindGives, rfl, -⟩ := gives_of_readPassword hbindRead
  obtain ⟨password, rfl⟩ := hbindGives.some_of_ne_none hneeded
  rw [hfiles] at hbindGives
  exact ⟨userGiven, password, ⟨_, _, huserGives, hbindGives⟩, hbindGives.utf8 rfl, rfl, rfl⟩

end

/-! ### What is handed over -/

section

variable {made : Value → Value → Prop} {sent : Text → List UInt8 → Prop} {g : Host} {s : Settings}

/-- Asking for a password hands nothing over. -/
theorem hands_asks {e : Event} (hasks : asksPassword e = true) : e.Hands made sent := by
  cases e <;> first | exact trivial | cases hasks

/-- A request hands over its user and password, and its value. -/
theorem hands_perform (entries : Value) {bindPassword : Value}
    {password : Option (List UInt8)} (hdecoded : decoded s.bindPassword = pure bindPassword)
    (hmade : made s.bindDn bindPassword)
    (hsent : ∀ r value, DeviceRequest.make (authId g.bound) password (otp g.bound)
      (deregisters g.bound) = .ok r → r.value = .ok value → sent r.oid value) :
    Host.Hands made sent g ((perform entries s password).runOn g).2 := by
  have hexchange : Keeps (Host.Hands made sent) (exchange g.bound password) := by
    intro h
    rcases runOn_exchange g.bound password h with ⟨e, -, hrun⟩ | ⟨r, hmake, hrun⟩
    · rw [hrun]
      exact (Host.Emits.refl h).hands_nothing
    · rw [hrun]
      exact hands_submit (fun value hvalue => hsent r value hmake hvalue) h
  obtain ⟨es, hemits, hes⟩ := hands_session hdecoded hmade hexchange g
  rw [← runOn_request] at hemits
  exact (emits_perform_of_request hemits).hands hes

/-- The name is the one to bind with, and the password is the one that is given for it. -/
def ConnectsWith (dn : Value) (give : Option Text → Text → Prop) (name sent : Value) : Prop :=
  name = dn ∧ ∃ userGiven password, give userGiven password ∧ sent = .text password

/-- The operation is a request about what is bound, with the password of the user that is given. -/
def RequestsWith (bound : Bindings) (give : Option Text → Text → Prop) (oid : Text)
    (value : List UInt8) : Prop :=
  ∃ userGiven password r, give userGiven password ∧
    DeviceRequest.make (authId bound) (userGiven.map toBytes) (otp bound) (deregisters bound) =
      .ok r ∧ r.oid = oid ∧ r.value = .ok value

variable {user bind : PasswordSource}

/-- Behind the preparations nothing is done but asking for the passwords, up to the point where one
cannot be read or where the sources have given both. -/
theorem proceed_cases (entries : Value) (s : Settings) (huser : userPassword g.bound = .ok user)
    (hbind : bindPassword g.bound g.config = .ok bind) (hneeded : bind ≠ .none) :
    ∃ es g', g.Emits es g' ∧ (∀ e ∈ es, asksPassword e = true) ∧
      ((∃ which f, (proceed entries s).runOn g = (explainPassword which f).runOn g') ∨
      ∃ userGiven password,
        PasswordSource.GiveBoth g.files g.prompts user bind userGiven password ∧
        isUtf8 password = true ∧
        (proceed entries s).runOn g = (logOtp >>= fun _ =>
          perform entries { s with bindPassword := .bytes (toBytes password) }
            (userGiven.map toBytes)).runOn g') := by
  have huserAsked := emits_readPassword user g
  rw [← runOn_readUserPassword_of huser] at huserAsked
  have hbind' := bindPassword_behind user hbind
  rw [← runOn_readUserPassword_of huser] at hbind'
  rcases hu : readUserPassword.runOn g with ⟨r, g₁⟩
  rw [hu] at huserAsked hbind'
  cases r with
  | error f =>
      exact ⟨_, g₁, huserAsked, fun _ => asksPassword_of_mem_asks,
        .inl ⟨"user", f, runOn_proceed_of_user_error hu⟩⟩
  | ok userBytes =>
  have hbindAsked := emits_readPassword bind g₁
  rw [← runOn_readBindPassword_of hbind'] at hbindAsked
  rcases hb : readBindPassword.runOn g₁ with ⟨r, g₂⟩
  rw [hb] at hbindAsked
  refine ⟨_, g₂, huserAsked.trans hbindAsked, fun _ => asksPassword_of_mem_both, ?_⟩
  cases r with
  | error f => exact .inl ⟨"bind", f, runOn_proceed_of_bind_error hu hb⟩
  | ok bindBytes =>
      obtain ⟨userGiven, password, hgive, hutf8, rfl, rfl⟩ :=
        giveBoth_of_read huser hbind hneeded hu hb
      refine .inr ⟨userGiven, password, hgive, hutf8, ?_⟩
      rw [runOn_proceed_of_both hu hb]
      rfl

/-- **What a run hands over comes from its two sources**: behind the preparations the connection is
made with what one gives, and the request with what the other does. -/
theorem hands_proceed (entries : Value) (s : Settings) (huser : userPassword g.bound = .ok user)
    (hbind : bindPassword g.bound g.config = .ok bind) (hneeded : bind ≠ .none) :
    let give := PasswordSource.GiveBoth g.files g.prompts user bind
    Host.Hands (ConnectsWith s.bindDn give) (RequestsWith g.bound give) g
      ((proceed entries s).runOn g).2 := by
  intro give
  obtain ⟨es, g', hasked, hasks, ⟨which, f, hrun⟩ | ⟨userGiven, password, hgive, hutf8, hrun⟩⟩ :=
    proceed_cases entries s huser hbind hneeded
  · rw [hrun]
    exact IsTrans.trans _ _ _ (hasked.hands fun e he => hands_asks (hasks e he))
      (hands_of_quiet (quiet_explainPassword which f) g')
  · have hlogged := quiet_logOtp g'
    rw [hrun, runOn_bind]
    rcases hlog : logOtp.runOn g' with ⟨r, g₁⟩
    rw [hlog] at hlogged
    have hready : Host.Hands (ConnectsWith s.bindDn give) (RequestsWith g.bound give) g g₁ :=
      (hasked.before hlogged).hands fun e he => hands_asks (hasks e he)
    cases r with
    | error f => exact hready
    | ok _ =>
        have hbound : g₁.bound = g.bound := (hasked.before hlogged).bound
        refine IsTrans.trans _ _ _ hready (hands_perform entries (decoded_toBytes hutf8)
          ⟨rfl, userGiven, password, hgive, rfl⟩ fun r value hmake hvalue => ?_)
        rw [hbound] at hmake
        exact ⟨userGiven, password, r, hgive, hmake, rfl, hvalue⟩

end

/-! ### The whole run -/

section Accepted

variable {line : List Text} {h : Host} {bound : Bindings} {s : Settings}
  {user bind : PasswordSource} (haccepted : Accepted h line bound s)
  (huser : userPassword bound = .ok user) (hbind : bindPassword bound h.config = .ok bind)

include haccepted huser hbind

/-- What a whole run hands over comes from its two sources. -/
theorem hands_run (hneeded : bind ≠ .none) :
    let give :=
      PasswordSource.GiveBoth ((prepared line).runOn h).2.files h.prompts user bind
    ∃ es, ((run line).runOn h).2.outward = h.outward ++ es ∧
      ∀ e ∈ es, e.Hands (ConnectsWith s.bindDn give) (RequestsWith bound give) := by
  rcases runOn_prepared line h with ⟨f, g, -, hsilent⟩ |
    ⟨entries, s', bound', g, hprepared, hrun, haccepted', hquiet⟩
  · exact ⟨[], by rw [hsilent, List.append_nil], fun _ he => absurd he List.not_mem_nil⟩
  obtain ⟨rfl, rfl⟩ := haccepted.unique haccepted'
  have hbound : g.bound = bound' := hquiet.bound
  rw [← hbound] at huser
  rw [← bindPassword_congr hquiet.config, ← hbound] at hbind
  obtain ⟨es, hemits, hes⟩ := hands_proceed entries s' huser hbind hneeded
  rw [hprepared, hrun, ← prompts_prepared hprepared, ← hbound]
  exact ⟨es, (hquiet.after hemits).outward, hes⟩

/-- Once the run is prepared, both passwords are read if both sources give one. -/
theorem bothPasswordsRead_of_giveBoth (hprepared : (prepared line).Succeeds h)
    {userGiven : Option Text} {password : Text}
    (hgive : PasswordSource.GiveBoth ((prepared line).runOn h).2.files h.prompts user bind userGiven
      password) :
    ((bothPasswordsRead line).runOn h).1 =
      .ok (userGiven.map toBytes, { s with bindPassword := .bytes (toBytes password) }) := by
  obtain ⟨⟨entries, s'⟩, hok⟩ := hprepared
  rcases hrun : (prepared line).runOn h with ⟨r, g⟩
  rw [hrun] at hok hgive
  cases hok
  obtain ⟨-, bound', haccepted', hquiet⟩ := prepared_ok hrun
  obtain ⟨rfl, rfl⟩ := haccepted.unique haccepted'
  have hbound : g.bound = bound' := hquiet.bound
  rw [← hbound] at huser
  rw [← bindPassword_congr hquiet.config, ← hbound] at hbind
  rw [← prompts_prepared hrun] at hgive
  obtain ⟨g₁, g₂, hu, hb⟩ := read_of_giveBoth huser hbind hgive
  rw [runOn_bothPasswordsRead hrun hu hb]
  rfl

end Accepted

/-- **A connection is made with the name to bind with and the password for it**, and never with the
password of the user; the request tells that one.  Each is what its own source gives, in the order
in which they are read, and the sources are those that the line and the configuration name.  Both
passwords are read if both sources give one, and nothing is handed over if they do not; a session
that stands has made its connection.  What is encoded on the way is decoded again, be it a text or
the first line of one in a file. -/
theorem run_hands_passwords {line : List Text} {h : Host} {bound : Bindings} {s : Settings}
    {dn : Text} (haccepted : Accepted h line bound s) (hdn : bindDn bound h.config = some dn) :
    ∃ (pieces : List (Piece arguments)) (user bind : PasswordSource) (es : List Event),
      Consists h.homes line [] pieces bound ∧
      some dn = (given pieces "bind_dn").or (h.config.text? "ldap_bind_dn") ∧
      userPassword bound = .ok user ∧ UserSource h.homes pieces user ∧
      bindPassword bound h.config = .ok bind ∧ BindSource h.homes h.config pieces dn bind ∧
      ((run line).runOn h).2.outward = h.outward ++ es ∧
      let give := PasswordSource.GiveBoth ((prepared line).runOn h).2.files h.prompts user bind
      (∀ userGiven password, give userGiven password →
        (∀ name sent, .connectionMade name sent ∈ es →
          name = .text dn ∧ sent = .text password) ∧
        (∀ oid value, .extendedSent oid value ∈ es →
          value = DeviceRequest.sequenceOf ((given pieces "auth_id").map toBytes)
            (userGiven.map toBytes) ((given pieces "otp").map toBytes)) ∧
        ((prepared line).Succeeds h → ((bothPasswordsRead line).runOn h).1 =
          .ok (userGiven.map toBytes, { s with bindPassword := .bytes (toBytes password) }))) ∧
      ((∃ name sent, .connectionMade name sent ∈ es) ∨ (∃ oid value, .extendedSent oid value ∈ es) →
        ∃ userGiven password, give userGiven password) ∧
      ((connected line).Succeeds h → ∃ name sent, .connectionMade name sent ∈ es) ∧
      ∀ t, isUtf8 t = true →
        (∃ bytes, PasswordSource.ofText t = .ok bytes ∧ decoded (.bytes bytes) = pure (.text t)) ∧
        ∀ first, first = t.takeWhile (!Text.isLineEnd ·) → first ≠ [] →
          ∀ path, ∃ bytes, PasswordSource.ofFile path (toBytes t) = .ok bytes ∧
            decoded (.bytes bytes) = pure (.text first) := by
  obtain ⟨pieces, hconsists⟩ := consists_of_read haccepted.read
  obtain ⟨user, huser, -⟩ := userPassword_ok bound
  obtain ⟨bind, hbind, -⟩ := bindPassword_ok bound h.config
  have hneeded : bind ≠ .none := by
    rw [Ne, bindPassword_eq_none_iff haccepted hbind, hdn]
    exact fun hnone => nomatch hnone
  have hname : some dn = (given pieces "bind_dn").or (h.config.text? "ldap_bind_dn") := by
    rw [← hdn, ← hconsists.text?_eq (by decide +kernel)]
    unfold bindDn textArgument
    cases (bound.get? "bind_dn").bind Value.text? <;> rfl
  obtain ⟨es, houtward, hes⟩ := hands_run haccepted huser hbind hneeded
  refine ⟨pieces, user, bind, es, hconsists, hname, huser,
    userSource_of_accepted haccepted hconsists huser, hbind,
    bindSource_of_accepted haccepted hconsists hdn hbind, houtward, ?_, ?_,
    fun hconnected => connectionMade_of_connected hconnected houtward, ?_⟩
  · intro userGiven password hgive
    refine ⟨fun name sent hmade => ?_, fun oid value hsent => ?_, fun hprepared => ?_⟩
    · obtain ⟨rfl, userGiven', password', hgive', rfl⟩ := hes _ hmade
      rw [(hgive.unique hgive').2]
      exact ⟨bindDn_eq_text_of_accepted haccepted hdn, rfl⟩
    · obtain ⟨userGiven', password', r, hgive', hmake, -, hvalue⟩ := hes _ hsent
      obtain ⟨r', hmake', hvalue'⟩ :=
        value_of_check hconsists haccepted.checked (userGiven'.map toBytes)
      have hsame := hmake.symm.trans hmake'
      cases hsame
      rw [hvalue, Except.ok.injEq] at hvalue'
      rw [← authId_eq_given hconsists, ← otp_eq_given hconsists, (hgive.unique hgive').1, hvalue']
    · exact bothPasswordsRead_of_giveBoth haccepted huser hbind hprepared hgive
  · rintro (⟨name, sent, hmade⟩ | ⟨oid, value, hsent⟩)
    · obtain ⟨-, userGiven, password, hgive, -⟩ := hes _ hmade
      exact ⟨userGiven, password, hgive⟩
    · obtain ⟨userGiven, password, r, hgive, -⟩ := hes _ hsent
      exact ⟨userGiven, password, hgive⟩
  · intro t ht
    refine ⟨⟨toBytes t, PasswordSource.ofText_eq_ok_iff.mpr ⟨ht, rfl⟩, decoded_toBytes ht⟩, ?_⟩
    rintro first rfl hsome path
    refine ⟨_, PasswordSource.ofFile_toBytes ht hsome path, decoded_toBytes ?_⟩
    exact Text.isUtf8_of_subset ht (List.takeWhile_subset _)

/-- The password that a connection is made with, if it is a text. -/
def connectionPassword? : Event → Option Text
  | .connectionMade _ sent => sent.text?
  | _ => none

/-- A line with two passwords that are asked for. -/
def askingLine : List Text :=
  ["--deregister", "--authID", "u:tester", "--promptForUserPassword", "--bindDN", "cn=admin",
    "--promptForBindPassword"]

/-- A machine whose user types two passwords. -/
def typingHost : Host := { Host.plain with prompts := [.typed "eins", .typed "zwölf"] }

theorem run_hands_passwords_typed :
    ∃ bound s pieces user bind es, Accepted typingHost askingLine bound s ∧
      bindDn bound typingHost.config = some "cn=admin" ∧
      UserSource typingHost.homes pieces user ∧
      BindSource typingHost.homes typingHost.config pieces "cn=admin" bind ∧
      ((run askingLine).runOn typingHost).2.outward = typingHost.outward ++ es ∧
      .connectionMade (.text "cn=admin") (.text "zwölf") ∈ es ∧
      ∃ userGiven, PasswordSource.GiveBoth ((prepared askingLine).runOn typingHost).2.files
        typingHost.prompts user bind userGiven "zwölf" := by
  obtain ⟨bound, s, haccepted, hname⟩ : ∃ bound s, Accepted typingHost askingLine bound s ∧
      (s.bindDn.text? == some (Text.ofString "cn=admin")) = true :=
    accepted_of_prepared (p := fun s => s.bindDn.text? == some (Text.ofString "cn=admin"))
      (by decide +kernel)
  have hneeded : s.bindDn.truthy = true := by
    rw [Value.eq_text_of_text? (beq_iff_eq.mp hname)]
    rfl
  obtain ⟨dn, hdn⟩ := Option.ne_none_iff_exists'.mp ((truthy_bindDn_iff haccepted).mp hneeded).1
  have hsame := bindDn_eq_text_of_accepted haccepted hdn
  rw [Value.eq_text_of_text? (beq_iff_eq.mp hname)] at hsame
  cases hsame
  obtain ⟨pieces, user, bind, es, -, -, -, huser, -, hbind, houtward, hhands, hgiven, -⟩ :=
    run_hands_passwords haccepted hdn
  refine ⟨bound, s, pieces, user, bind, es, haccepted, hdn, huser, hbind, houtward, ?_⟩
  have hconnects : ((run askingLine).runOn typingHost).2.outward.any
      (connectionPassword? · == some (Text.ofString "zwölf")) = true := by
    decide +kernel
  rw [houtward, show typingHost.outward = [] from rfl, List.nil_append, List.any_eq_true]
    at hconnects
  obtain ⟨e, he, hsent⟩ := hconnects
  rw [beq_iff_eq] at hsent
  cases e with
  | connectionMade name sent =>
      obtain ⟨userGiven, password, hgive⟩ := hgiven (.inl ⟨name, sent, he⟩)
      obtain ⟨rfl, rfl⟩ := (hhands userGiven password hgive).1 name sent he
      obtain rfl : password = Text.ofString "zwölf" := Option.some.inj hsent
      exact ⟨he, userGiven, hgive⟩
  | _ => cases hsent

end Registration

end OtpRegistrar
