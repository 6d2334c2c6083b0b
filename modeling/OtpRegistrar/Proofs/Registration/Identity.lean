/-
The entry about a public identity.

Before it sends its request a run writes to the log which device the one-time password
comes from, in both alphabets.  That is a courtesy to the reader of the log, and must
never be in the way of the request: the server is the judge of the password, whatever its
text.  For a text that is no password the entry says so, and for one that is taken for a
password the identity can be converted, so there is an entry for every text, and all
that is left to fail is the logger.

A run has got hold of the logger long before, so the entry does not fail there either.
What the configuration keeps as its logger has to be one, or nothing yet; a configuration
is made so and stays so (`Config.Sound`).
-/
import OtpRegistrar.Proofs.Config.Sound
import OtpRegistrar.Proofs.Directory.Passing
import OtpRegistrar.Proofs.Otp.Modhex
import OtpRegistrar.Proofs.Registration.Order

namespace OtpRegistrar

open OtpRegistrar.Action

/-- A logger that is given by a sound configuration is one, and it is at hand from then on. -/
theorem Action.hasLogger_of_logger {h h' : Host} {v : Value}
    (hkept : Config.IsLogger (h.config.get Host.loggerVariable))
    (hrun : logger.runOn h = (.ok v, h')) : ∃ name, v = .logger name ∧ h'.HasLogger name := by
  rcases hkept with hnone | ⟨name, hname⟩
  · rw [runOn_logger_of_missing (by rw [hnone]; simp [Value.truthy])] at hrun
    obtain ⟨hset, name, rfl⟩ := runOn_setUpConfiguredLogger_ok hrun
    exact ⟨name, rfl, hset⟩
  · rw [runOn_logger_of_hasLogger hname] at hrun
    cases hrun
    exact ⟨name, rfl, hname⟩

namespace Registration

variable {h g : Host} {line : List Text} {name : Text} {password : Option (List UInt8)}
  {s : Settings}

/-! ### The entry -/

theorem exists_identityEntry (otp : Text) : ∃ entry, identityEntry otp = .ok entry := by
  unfold identityEntry
  cases hotp : Otp.publicId otp with
  | error f => exact ⟨_, rfl⟩
  | ok identity =>
      obtain ⟨hex, hhex⟩ := Otp.exists_toHex_of_publicId hotp
      dsimp only
      rw [hhex]
      exact ⟨_, rfl⟩

theorem logIdentity_eq {otp entry : Text} (hentry : identityEntry otp = .ok entry) :
    logIdentity otp = logger >>= fun entries => log entries .debug entry := by
  unfold logIdentity
  rw [hentry]
  rfl

/-- With a logger at hand an identity is logged, and nothing else that a run looks at changes. -/
theorem runOn_logIdentity (hname : h.HasLogger name) (otp : Text) :
    ∃ h', (logIdentity otp).runOn h = (.ok (), h') ∧ h.Emits [] h' := by
  obtain ⟨entry, hentry⟩ := exists_identityEntry otp
  rw [logIdentity_eq hentry, runOn_bind_ok (runOn_logger_of_hasLogger hname)]
  exact ⟨_, rfl, quiet_log (.logger name) .debug entry h⟩

theorem runOn_logOtp (hname : h.HasLogger name) :
    ∃ h', logOtp.runOn h = (.ok (), h') ∧ h.Emits [] h' := by
  unfold logOtp
  rw [runOn_bind_ok (runOn_read _ _)]
  split
  · exact runOn_logIdentity hname _
  · exact ⟨h, rfl, .refl h⟩

/-! ### Within a run -/

theorem emits_readUserPassword (h : Host) : ∃ es, h.Emits es (readUserPassword.runOn h).2 := by
  rcases runOn_readUserPassword h with ⟨f, hnone⟩ | ⟨source, -, hchosen⟩
  · rw [hnone]
    exact ⟨[], .refl h⟩
  · rw [hchosen]
    exact ⟨_, emits_readPassword source h⟩

theorem emits_readBindPassword (h : Host) : ∃ es, h.Emits es (readBindPassword.runOn h).2 := by
  rcases runOn_readBindPassword h with ⟨f, hnone⟩ | ⟨source, -, hchosen⟩
  · rw [hnone]
    exact ⟨[], .refl h⟩
  · rw [hchosen]
    exact ⟨_, emits_readPassword source h⟩

/-- The logger is the first thing that a run asks for, so it is at hand once the line is
accepted. -/
theorem hasLogger_of_prepared {entries : Value}
    (hkept : Config.IsLogger (h.config.get Host.loggerVariable))
    (hprepared : (prepared line).runOn h = (.ok (entries, s), g)) :
    ∃ name, entries = .logger name ∧ g.HasLogger name := by
  rw [prepared_eq] at hprepared
  obtain ⟨entries, h₁, hcalled, hrest⟩ := runOn_bind_inv hprepared
  obtain ⟨s, h₂, haccepted, hpure⟩ := runOn_bind_inv hrest
  cases hpure
  obtain ⟨v, h₃, hlogger, hrest⟩ := runOn_bind_inv hcalled
  obtain ⟨⟨⟩, h₄, hlogged, hpure⟩ := runOn_bind_inv hrest
  cases hpure
  obtain ⟨name, rfl, hname⟩ := hasLogger_of_logger hkept hlogger
  have hquiet := quiet_logInvocation line h₃
  rw [hlogged] at hquiet
  obtain ⟨r, hread, -⟩ := runOn_readArguments line h₁
  rw [haccepted] at hread
  cases hread
  exact ⟨name, rfl, (hname.of_emits hquiet : h₁.HasLogger name)⟩

/-- Once both passwords have been read the logger is at hand, and the entry comes next. -/
theorem run_of_bothPasswordsRead (hkept : Config.IsLogger (h.config.get Host.loggerVariable))
    (hread : (bothPasswordsRead line).runOn h = (.ok (password, s), g)) :
    ∃ name, g.HasLogger name ∧ (run line).runOn h =
      (logOtp >>= fun _ => perform (.logger name) s password).runOn g := by
  obtain ⟨⟨entries, s'⟩, h₁, hprepared, hrest⟩ := runOn_bind_inv hread
  obtain ⟨password', h₂, huser, hrest⟩ := runOn_bind_inv hrest
  obtain ⟨bindPassword, h₃, hbind, hpure⟩ := runOn_bind_inv hrest
  cases hpure
  obtain ⟨name, rfl, hname⟩ := hasLogger_of_prepared hkept hprepared
  obtain ⟨es, hasked⟩ := emits_readUserPassword h₁
  obtain ⟨fs, hasked'⟩ := emits_readBindPassword h₂
  rw [huser] at hasked
  rw [hbind] at hasked'
  refine ⟨name, (hname.of_emits hasked).of_emits hasked', ?_⟩
  rw [(prepared_ok hprepared).1, runOn_proceed_of_both huser hbind]

/-- **Logging a public identity never keeps a request from being sent.** Modhex and lower-case
hexadecimal are converted into each other, one-to-one and letter by letter; what is taken for a
public identity is modhex, so there is an entry for every text; and writing it is nothing but
writing to the logger, which a run has got hold of by then. -/
theorem identity_never_stops :
    (∀ t, (∃ h, Otp.toHex t = .ok h) ↔ ∀ s ∈ t, ∃ c ∈ Otp.modhexLetters, s = .char c) ∧
    (∀ t h, Otp.toHex t = .ok h → h.length = t.length) ∧
    (∀ t u, Otp.toHex (t ++ u) = Otp.toHex t >>= fun g => (Otp.toHex u).map (g ++ ·)) ∧
    (∀ h, (∃ t, Otp.toHex t = .ok h) ↔ ∀ d ∈ h, ∃ c ∈ Otp.hexDigits, d = .char c) ∧
    (∀ t h, Otp.toHex t = .ok h ↔ Otp.ofHex? h = some t) ∧
    (∀ otp identity, Otp.publicId otp = .ok identity → ∃ h, Otp.toHex identity = .ok h ∧
      ∀ otp' identity', Otp.publicId otp' = .ok identity' → Otp.toHex identity' = .ok h →
        identity' = identity) ∧
    (∀ otp, ∃ entry, identityEntry otp = .ok entry ∧
      logIdentity otp = logger >>= fun entries => log entries .debug entry) ∧
    (∀ otp h name, h.HasLogger name →
      ∃ h', (logIdentity otp).runOn h = (.ok (), h') ∧ h.Emits [] h') ∧
    ∀ line h password s g, Config.IsLogger (h.config.get Host.loggerVariable) →
      (bothPasswordsRead line).runOn h = (.ok (password, s), g) →
      ∃ name g', logOtp.runOn g = (.ok (), g') ∧ g.Emits [] g' ∧
        (run line).runOn h = (perform (.logger name) s password).runOn g' := by
  refine ⟨fun t => Otp.exists_toHex_iff, fun t h => Otp.length_toHex, Otp.toHex_append,
    fun h => Otp.exists_toHex_iff', fun t h => Otp.toHex_eq_ok_iff_ofHex?, ?_, ?_,
    fun otp h name hname => runOn_logIdentity hname otp, ?_⟩
  · intro otp identity hidentity
    obtain ⟨h, hhex⟩ := Otp.exists_toHex_of_publicId hidentity
    refine ⟨h, hhex, fun otp' identity' _ hhex' => ?_⟩
    rw [Otp.toHex_eq_ok_iff_ofHex?] at hhex hhex'
    exact Option.some.inj (hhex'.symm.trans hhex)
  · intro otp
    obtain ⟨entry, hentry⟩ := exists_identityEntry otp
    exact ⟨entry, hentry, logIdentity_eq hentry⟩
  · intro line h password s g hkept hread
    obtain ⟨name, hname, hrun⟩ := run_of_bothPasswordsRead hkept hread
    obtain ⟨g', hlogged, hquiet⟩ := runOn_logOtp hname
    exact ⟨name, g', hlogged, hquiet, hrun.trans (runOn_bind_ok hlogged)⟩

/-- A line with a text that is taken for a one-time password although it is none. -/
def endedLine : List Text := ["--authID", "u:tester", "--otp", Otp.endedLetters]

/-- The run goes on to its request. -/
theorem identity_never_stops_ended :
    (bothPasswordsRead endedLine).Succeeds Host.plain ∧
      ∃ password s g name g', (bothPasswordsRead endedLine).runOn Host.plain =
          (.ok (password, s), g) ∧
        logOtp.runOn g = (.ok (), g') ∧ g.Emits [] g' ∧
        (run endedLine).runOn Host.plain = (perform (.logger name) s password).runOn g' := by
  have hsucceeds : (bothPasswordsRead endedLine).Succeeds Host.plain :=
    succeeds_of_isSome (by decide +kernel)
  refine ⟨hsucceeds, ?_⟩
  obtain ⟨⟨password, s⟩, hvalue⟩ := hsucceeds
  have hread : (bothPasswordsRead endedLine).runOn Host.plain = (.ok (password, s), _) :=
    Prod.ext hvalue rfl
  have hkept : Config.IsLogger (Host.plain.config.get Host.loggerVariable) := .inr ⟨"tool", rfl⟩
  obtain ⟨-, -, -, -, -, -, -, -, hgoesOn⟩ := identity_never_stops
  obtain ⟨name, g', hlogged⟩ := hgoesOn _ _ _ _ _ hkept hread
  exact ⟨password, s, _, name, g', hread, hlogged⟩

end Registration

end OtpRegistrar
