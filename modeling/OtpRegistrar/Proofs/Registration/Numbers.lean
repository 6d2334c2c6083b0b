/-
Where the numbers of a connection come from, and which of them are checked.

A port and a timeout come from the command line, else from the configuration, else from a default.
Those of the command line are checked: what is no number, or below zero, ends the run before
anything is done.  Those of the configuration are numbers, since nothing else can be assigned, but
nobody asks whether they are below zero.  The two ways to secure a connection are checked together,
wherever they come from.

So settings have a number below zero if and only if the configuration has it and the command line
does not replace it.  `Rejected` has a constructor for each reason to refuse settings, and a run
that is not stopped by one of them goes on to the passwords and the server.
-/
import OtpRegistrar.Proofs.Config.Conversion
import OtpRegistrar.Proofs.Config.Registering
import OtpRegistrar.Proofs.Registration.Failing
import OtpRegistrar.Proofs.Registration.Security

namespace OtpRegistrar

/-- The value is a number below zero. -/
def Value.IsNegative (v : Value) : Prop := ∃ n : Int, v = .int n ∧ n < 0

instance (v : Value) : Decidable v.IsNegative :=
  decidable_of_iff (v.int?.any (· < 0) = true) <| by
    constructor
    · intro hneg
      cases v with
      | int n => exact ⟨n, rfl, of_decide_eq_true hneg⟩
      | _ => cases hneg
    · rintro ⟨n, rfl, hneg⟩
      exact decide_eq_true hneg

theorem Value.isNegative_int {n : Int} : (Value.int n).IsNegative ↔ n < 0 := by
  constructor
  · rintro ⟨m, hm, hneg⟩
    cases hm
    exact hneg
  · exact fun hneg => ⟨n, rfl, hneg⟩

theorem Value.not_isNegative_null : ¬Value.null.IsNegative := by
  rintro ⟨n, hn, -⟩
  cases hn

/-! ### Numbers of the configuration -/

namespace Config

variable {c : Config} {name : Text} {types : List VarType}

/-- What is asked of an orderly configuration is of a type that the variable may have. -/
theorem Orderly.allows_get (horderly : c.Orderly) (htypes : find? c.types name = some types) :
    allows types (c.get name) = true := by
  unfold Config.get Config.get?
  cases hfound : find? c.values name with
  | none => rfl
  | some v =>
      obtain ⟨types', htypes', hallowed⟩ := horderly.typed _ (mem_of_find? hfound)
      rw [htypes] at htypes'
      cases htypes'
      exact hallowed

/-- A variable for numbers holds a number or nothing. -/
theorem number_of_allows {v : Value} (hallowed : allows [.int] v = true) :
    v = .null ∨ ∃ n, v = .int n := by
  unfold allows at hallowed
  split at hallowed
  · exact .inl rfl
  · exact .inr (VarType.int_of_accepts (by simpa using hallowed))

/-- **Whatever a tool does to its configuration, port and timeout are numbers or nothing.** -/
theorem number_after {tool : Value} {file : Text} {h : Host} (hmake : make tool file = .ok h.config)
    (hname : name = "ldap_port" ∨ name = "connect_timeout") (calls : List Call) :
    (after calls h).config.get name = .null ∨ ∃ n, (after calls h).config.get name = .int n := by
  have hdeclared : find? h.config.types name = some [.int] := by
    rw [eq_declared_of_make hmake]
    rcases hname with rfl | rfl <;> rfl
  obtain ⟨more, hmore⟩ := grows_after calls h
  have htypes : find? (after calls h).config.types name = some [.int] := by
    rw [← hmore]
    exact find?_append_of_some hdeclared more
  exact number_of_allows (((orderly_of_make hmake).after calls).allows_get htypes)

end Config

theorem Settings.both_of_make {said : Settings} {f : Settings.Flaw}
    (hmake : Settings.make said = .error f) :
    said.useSsl.truthy = true ∧ said.useStartTls.truthy = true := by
  unfold make at hmake
  split at hmake
  · rename_i hboth
    simpa using hboth
  · split at hmake <;> cases hmake

/-- Settings that are made have one layer at most, and the port that was said, or the default. -/
theorem Settings.port_of_make {said s : Settings} (hmake : Settings.make said = .ok s) :
    ¬(said.useSsl.truthy = true ∧ said.useStartTls.truthy = true) ∧
    (s.port = said.port ∧ said.port ≠ .null ∨
      said.port = .null ∧ s.port = .int (Endpoint.defaultPort said.useSsl.truthy)) := by
  unfold make at hmake
  split at hmake
  · cases hmake
  rename_i hone
  refine ⟨by simpa using hone, ?_⟩
  split at hmake
  · rename_i hnull
    cases hmake
    exact .inr ⟨hnull, rfl⟩
  · rename_i hsaid
    cases hmake
    exact .inl ⟨rfl, hsaid⟩

namespace Registration

open OtpRegistrar.Action

variable {bound : Bindings} {config : Config} {password default v : Value} {name : Text}
  {s : Settings} {u : Usage}

/-! ### Numbers of the command line -/

/-- The variable is bound to nothing that counts. -/
def Unbound (bound : Bindings) (name : Text) : Prop :=
  bound.get? name = none ∨ bound.get? name = some .null

/-- The variable is bound to a number that is not below zero. -/
def Numbered (bound : Bindings) (name : Text) (n : Int) : Prop :=
  ∃ v, bound.get? name = some v ∧ numberOf? v = some n ∧ 0 ≤ n

/-- The variable is bound to what is no number, or to one below zero. -/
def Misnumbered (bound : Bindings) (name : Text) (v : Value) : Prop :=
  bound.get? name = some v ∧ v ≠ .null ∧ ∀ n, numberOf? v = some n → n < 0

/-- What a number is taken from: the command line, or the default if it says nothing. -/
inductive Taken (bound : Bindings) (name : Text) (default : Value) : Value → Prop
  | default (hunbound : Unbound bound name) : Taken bound name default default
  | number {n : Int} (hnumbered : Numbered bound name n) : Taken bound name default (.int n)

theorem Numbered.not_unbound {n : Int} (hnumbered : Numbered bound name n) :
    ¬Unbound bound name := by
  obtain ⟨v, hbound, hnumber, -⟩ := hnumbered
  rintro (hnone | hnull)
  · rw [hnone] at hbound
    cases hbound
  · rw [hnull] at hbound
    cases hbound
    cases hnumber

theorem Misnumbered.not_unbound (hmisnumbered : Misnumbered bound name v) :
    ¬Unbound bound name := by
  obtain ⟨hbound, hnull, -⟩ := hmisnumbered
  rintro (hnone | hnone)
  · rw [hnone] at hbound
    cases hbound
  · rw [hnone] at hbound
    cases hbound
    exact hnull rfl

theorem Misnumbered.not_numbered {n : Int} (hmisnumbered : Misnumbered bound name v) :
    ¬Numbered bound name n := by
  obtain ⟨hbound, -, hneg⟩ := hmisnumbered
  rintro ⟨w, hbound', hnumber, hn⟩
  rw [hbound] at hbound'
  cases hbound'
  exact absurd (hneg n hnumber) (Int.not_lt.mpr hn)

/-- What is taken is below zero if and only if it is the default and that is. -/
theorem Taken.isNegative_iff (htaken : Taken bound name default v) :
    v.IsNegative ↔ Unbound bound name ∧ default.IsNegative := by
  cases htaken with
  | default hunbound => exact (and_iff_right hunbound).symm
  | @number n hnumbered =>
      rw [Value.isNegative_int]
      refine iff_of_false ?_ fun hunbound => hnumbered.not_unbound hunbound.1
      obtain ⟨w, -, -, hn⟩ := hnumbered
      exact Int.not_lt.mpr hn

theorem Taken.not_misnumbered (htaken : Taken bound name default v) (w : Value) :
    ¬Misnumbered bound name w := by
  intro hmisnumbered
  cases htaken with
  | default hunbound => exact hmisnumbered.not_unbound hunbound
  | number hnumbered => exact hmisnumbered.not_numbered hnumbered

/-- **A number of the command line is taken if it is not below zero, and replaces the default.** -/
theorem numberArgument_cases (bound : Bindings) (name : Text) (default : Value) :
    (∃ v, Taken bound name default v ∧ numberArgument bound name default = .ok v) ∨
    ∃ v, Misnumbered bound name v ∧
      numberArgument bound name default = .error (.badNumber (spellingOf name) v) := by
  unfold numberArgument
  split
  · exact .inl ⟨_, .default (.inl ‹_›), rfl⟩
  · exact .inl ⟨_, .default (.inr ‹_›), rfl⟩
  · rename_i v hnull hbound
    cases hnumber : numberOf? v with
    | none =>
        refine .inr ⟨v, ⟨hbound, hnull, fun n hn => ?_⟩, rfl⟩
        rw [hnumber] at hn
        cases hn
    | some n =>
        dsimp only
        split
        · rename_i hneg
          refine .inr ⟨v, ⟨hbound, hnull, fun m hm => ?_⟩, rfl⟩
          rw [hnumber] at hm
          cases hm
          exact hneg
        · rename_i hneg
          exact .inl ⟨_, .number ⟨v, hbound, hnumber, Int.not_lt.mp hneg⟩, rfl⟩

/-! ### Settings -/

/-- TLS is asked for from the start and by an upgrade. -/
def TwoLayers (bound : Bindings) (config : Config) : Prop :=
  (switchOf bound config "use_ssl" "ldap_use_ssl").truthy = true ∧
  (switchOf bound config "use_start_tls" "ldap_use_start_tls").truthy = true

/-- Why there are no settings: a number of the command line, the port before the timeout, or two
ways to secure the connection. -/
inductive Rejected (bound : Bindings) (config : Config) : Usage → Prop
  | port {v : Value} (hport : Misnumbered bound "port" v) :
      Rejected bound config (.badNumber (spellingOf "port") v)
  | timeout {v : Value} (hport : ∀ w, ¬Misnumbered bound "port" w)
      (htimeout : Misnumbered bound "connect_timeout" v) :
      Rejected bound config (.badNumber (spellingOf "connect_timeout") v)
  | layers (hport : ∀ w, ¬Misnumbered bound "port" w)
      (htimeout : ∀ w, ¬Misnumbered bound "connect_timeout" w) (hboth : TwoLayers bound config) :
      Rejected bound config .twoSecurityLayers

/-- A number of the command line is none to be taken, or there are two ways to secure the
connection. -/
def Refusable (bound : Bindings) (config : Config) : Prop :=
  (∃ v, Misnumbered bound "port" v) ∨ (∃ v, Misnumbered bound "connect_timeout" v) ∨
  TwoLayers bound config

theorem exists_rejected_iff : (∃ u, Rejected bound config u) ↔ Refusable bound config := by
  constructor
  · rintro ⟨u, hrejected⟩
    cases hrejected with
    | port hport => exact .inl ⟨_, hport⟩
    | timeout hport htimeout => exact .inr (.inl ⟨_, htimeout⟩)
    | layers hport htimeout hboth => exact .inr (.inr hboth)
  · intro hreason
    by_cases hport : ∃ v, Misnumbered bound "port" v
    · obtain ⟨v, hport⟩ := hport
      exact ⟨_, .port hport⟩
    have hport' := not_exists.mp hport
    by_cases htimeout : ∃ v, Misnumbered bound "connect_timeout" v
    · obtain ⟨v, htimeout⟩ := htimeout
      exact ⟨_, .timeout hport' htimeout⟩
    exact ⟨_, .layers hport' (not_exists.mp htimeout)
      ((hreason.resolve_left hport).resolve_left htimeout)⟩

/-- **Settings are refused for a reason, or made of the numbers that are taken.** -/
theorem settings_cases (bound : Bindings) (config : Config) (password : Value) :
    (∃ u, Rejected bound config u ∧ settings bound config password = .error u) ∨
    ∃ port timeout s, Taken bound "port" (config.get "ldap_port") port ∧
      Taken bound "connect_timeout" (config.get "connect_timeout") timeout ∧
      ¬TwoLayers bound config ∧
      Settings.make (saidSettings bound config password port timeout) = .ok s ∧
      settings bound config password = .ok s := by
  unfold settings
  rcases numberArgument_cases bound "port" (config.get "ldap_port") with
    ⟨port, hport, hnumber⟩ | ⟨v, hport, hnumber⟩
  · rw [hnumber]
    dsimp only
    rcases numberArgument_cases bound "connect_timeout" (config.get "connect_timeout") with
      ⟨timeout, htimeout, hnumber⟩ | ⟨v, htimeout, hnumber⟩
    · rw [hnumber]
      dsimp only
      cases hmake : Settings.make (saidSettings bound config password port timeout) with
      | error f =>
          cases f
          exact .inl ⟨_, .layers hport.not_misnumbered htimeout.not_misnumbered
            (Settings.both_of_make hmake), rfl⟩
      | ok s =>
          obtain ⟨hone, -⟩ := Settings.port_of_make hmake
          exact .inr ⟨port, timeout, s, hport, htimeout, hone, hmake, rfl⟩
    · rw [hnumber]
      exact .inl ⟨_, .timeout hport.not_misnumbered htimeout, rfl⟩
  · rw [hnumber]
    exact .inl ⟨_, .port hport, rfl⟩

theorem settings_refused_iff (password : Value) :
    (∃ u, settings bound config password = .error u) ↔ Refusable bound config := by
  rw [← exists_rejected_iff]
  rcases settings_cases bound config password with
    ⟨u, hrejected, hrefused⟩ | ⟨port, timeout, s, hport, htimeout, hone, -, hsettled⟩
  · exact iff_of_true ⟨u, hrefused⟩ ⟨u, hrejected⟩
  · refine iff_of_false ?_ ?_
    · rintro ⟨u, hrefused⟩
      rw [hsettled] at hrefused
      cases hrefused
    · rintro ⟨u, hrejected⟩
      cases hrejected with
      | port hmisnumbered => exact hport.not_misnumbered _ hmisnumbered
      | timeout _ hmisnumbered => exact htimeout.not_misnumbered _ hmisnumbered
      | layers _ _ hboth => exact hone hboth

/-- What settings hold is taken from the command line or the configuration, but for the default of
a port. -/
theorem taken_of_settled (hsettled : settings bound config password = .ok s) :
    ∃ port, Taken bound "port" (config.get "ldap_port") port ∧
      (s.port = port ∧ port ≠ .null ∨
        port = .null ∧ ∃ secure, s.port = .int (Endpoint.defaultPort secure)) ∧
      Taken bound "connect_timeout" (config.get "connect_timeout") s.timeout := by
  rcases settings_cases bound config password with
    ⟨u, -, hrefused⟩ | ⟨port, timeout, s', hport, htimeout, -, hmake, hsettled'⟩
  · rw [hrefused] at hsettled
    cases hsettled
  rw [hsettled'] at hsettled
  cases hsettled
  have hsame : s.timeout = timeout := by rw [Settings.eq_of_make hmake]; rfl
  obtain ⟨-, hput⟩ := Settings.port_of_make hmake
  exact ⟨port, hport, hput.imp_right fun hdefault => ⟨hdefault.1, _, hdefault.2⟩,
    hsame ▸ htimeout⟩

/-- Settings hold a number below zero if and only if it comes from the configuration. -/
theorem isNegative_of_settled (hsettled : settings bound config password = .ok s) :
    (s.port.IsNegative ↔ Unbound bound "port" ∧ (config.get "ldap_port").IsNegative) ∧
    (s.timeout.IsNegative ↔
      Unbound bound "connect_timeout" ∧ (config.get "connect_timeout").IsNegative) := by
  obtain ⟨port, hport, hput, htimeout⟩ := taken_of_settled hsettled
  refine ⟨?_, htimeout.isNegative_iff⟩
  rw [← hport.isNegative_iff]
  rcases hput with ⟨hput, -⟩ | ⟨hnull, secure, hput⟩
  · rw [hput]
  · -- neither the default of a port nor nothing at all is below zero
    have hpositive : ¬(Value.int (Endpoint.defaultPort secure)).IsNegative := by
      rw [Value.isNegative_int]
      cases secure <;> decide
    rw [hput, hnull]
    exact iff_of_false hpositive Value.not_isNegative_null

theorem Taken.number_or_null (htaken : Taken bound name default v)
    (hdefault : default = .null ∨ ∃ n, default = .int n) : v = .null ∨ ∃ n, v = .int n := by
  cases htaken with
  | default => exact hdefault
  | number => exact .inr ⟨_, rfl⟩

theorem numbers_of_settled (hsettled : settings bound config password = .ok s)
    (hport : config.get "ldap_port" = .null ∨ ∃ n, config.get "ldap_port" = .int n)
    (htimeout : config.get "connect_timeout" = .null ∨
      ∃ n, config.get "connect_timeout" = .int n) :
    (∃ n, s.port = .int n) ∧ (s.timeout = .null ∨ ∃ n, s.timeout = .int n) := by
  obtain ⟨port, hport', hput, htimeout'⟩ := taken_of_settled hsettled
  refine ⟨?_, htimeout'.number_or_null htimeout⟩
  rcases hput with ⟨hput, hsaid⟩ | ⟨-, secure, hput⟩
  · rw [hput]
    exact (hport'.number_or_null hport).resolve_left hsaid
  · exact ⟨_, hput⟩

/-! ### The run -/

section

variable {line : List Text} {entries : Value} {h g : Host}

theorem runOn_explain_usage (u : Usage) (h : Host) :
    ∃ h', (explain (.usage u)).runOn h = (.ok (.known ResultCode.paramError), h') ∧
      h.Emits [] h' :=
  ⟨((explain (.usage u)).runOn h).2, rfl, quiet_explain _ h⟩

/-- Behind the call that is logged, a line that can be read is judged by what it binds. -/
theorem runOn_run_of_read (hcalled : (called line).runOn h = (.ok entries, g))
    (hread : CommandLine.read h.homes arguments line = (bound, .ok ())) :
    (run line).runOn h =
      (match (acceptance.runOn { g with bound }).1 with
        | .error f => explain f
        | .ok s => proceed entries s).runOn (acceptance.runOn { g with bound }).2 := by
  have hquiet := quiet_called line h
  rw [hcalled] at hquiet
  rw [← hquiet.homes] at hread
  rw [run_eq]
  exact runOn_bind_ok (runOn_judged hcalled hread)

/-- **A line for which there are no settings ends the run before anything is done.** -/
theorem run_of_refused (hcalled : (called line).runOn h = (.ok entries, g))
    (hread : CommandLine.read h.homes arguments line = (bound, .ok ()))
    (hrefused : settings bound h.config .null = .error u) :
    ∃ h', (run line).runOn h = (.ok (.known ResultCode.paramError), h') ∧
      h'.outward = h.outward := by
  have hquiet := quiet_called line h
  rw [hcalled] at hquiet
  rw [runOn_run_of_read hcalled hread]
  rcases runOn_acceptance { g with bound } with ⟨u', hrun⟩ | ⟨s, hrun, -, -, hsettled⟩
  · obtain ⟨h', hexplain, hexplained⟩ := runOn_explain_usage u' { g with bound }
    rw [hrun]
    refine ⟨h', hexplain, ?_⟩
    rw [hexplained.outward, List.append_nil]
    exact hquiet.outward.trans (List.append_nil _)
  · rw [settings_congr hquiet.config] at hsettled
    rw [hrefused] at hsettled
    cases hsettled

theorem runOn_acceptance_of_settled
    (hconstrained : Constraint.checkAll arguments h.bound constraints = .ok ())
    (hchecked : check h.bound = .ok ()) (hsettled : settings h.bound h.config .null = .ok s) :
    acceptance.runOn h = (.ok s, h) := by
  unfold acceptance currentSettings
  rw [runOn_bind_ok (runOn_read _ _), runOn_bind_ok (runOn_orFail_of_ok hconstrained h),
    runOn_bind_ok (runOn_orFail_of_ok hchecked h), runOn_bind_ok (runOn_read _ _)]
  exact runOn_orFail_of_ok hsettled h

/-- A line with settings that is right in all else goes on to the passwords. -/
theorem run_of_settled (hcalled : (called line).runOn h = (.ok entries, g))
    (hread : CommandLine.read h.homes arguments line = (bound, .ok ()))
    (hconstrained : Constraint.checkAll arguments bound constraints = .ok ())
    (hchecked : check bound = .ok ()) (hsettled : settings bound h.config .null = .ok s) :
    (run line).runOn h = (proceed entries s).runOn { g with bound } ∧ g.outward = h.outward := by
  have hquiet := quiet_called line h
  rw [hcalled] at hquiet
  have hsettled' : settings bound g.config .null = .ok s := by
    rw [settings_congr hquiet.config, hsettled]
  have haccepted := runOn_acceptance_of_settled (h := { g with bound }) hconstrained hchecked
    hsettled'
  rw [runOn_run_of_read hcalled hread, haccepted]
  exact ⟨rfl, hquiet.outward.trans (List.append_nil _)⟩

end

/-- **Settings never ask for TLS in both ways, and hold a number below zero if and only if it is one
of the configuration that the command line does not replace.  A number of the command line that is
none or below zero, and TLS in both ways, wherever it is asked for, end the run before any password
is asked for and before the server is contacted; a number of the configuration never does.** -/
theorem numbers_checked_on_line_alone {tool : Value} {file : Text} {h₀ : Host}
    (hmake : Config.make tool file = .ok h₀.config) (calls : List Config.Call) :
    let h := Config.after calls h₀
    (∀ bound password s, settings bound h.config password = .ok s →
      ¬(s.useSsl.truthy = true ∧ s.useStartTls.truthy = true) ∧
      (∃ n, s.port = .int n) ∧ (s.timeout = .null ∨ ∃ n, s.timeout = .int n) ∧
      (s.port.IsNegative ↔ Unbound bound "port" ∧ (h.config.get "ldap_port").IsNegative) ∧
      (s.timeout.IsNegative ↔
        Unbound bound "connect_timeout" ∧ (h.config.get "connect_timeout").IsNegative)) ∧
    ∀ line bound entries g, (called line).runOn h = (.ok entries, g) →
      CommandLine.read h.homes arguments line = (bound, .ok ()) →
      (Refusable bound h.config →
        ∃ h', (run line).runOn h = (.ok (.known ResultCode.paramError), h') ∧
          h'.outward = h.outward) ∧
      (¬Refusable bound h.config → Constraint.checkAll arguments bound constraints = .ok () →
        check bound = .ok () →
        ∃ s, settings bound h.config .null = .ok s ∧
          (run line).runOn h = (proceed entries s).runOn { g with bound } ∧
          g.outward = h.outward) := by
  dsimp only
  refine ⟨fun bound password s hsettled => ?_, fun line bound entries g hcalled hread => ⟨?_, ?_⟩⟩
  · obtain ⟨port, timeout, hmade⟩ := made_of_settled hsettled
    have hone := one_layer_of_make hmade
    have hnumbers := numbers_of_settled hsettled (Config.number_after hmake (.inl rfl) calls)
      (Config.number_after hmake (.inr rfl) calls)
    have hnegative := isNegative_of_settled hsettled
    refine ⟨fun hboth => ?_, hnumbers.1, hnumbers.2, hnegative.1, hnegative.2⟩
    rw [hboth.1, hboth.2] at hone
    cases hone
  · intro hrefusable
    obtain ⟨u, hrefused⟩ := (settings_refused_iff .null).mpr hrefusable
    exact run_of_refused hcalled hread hrefused
  · intro hright hconstrained hchecked
    cases hsettled : settings bound (Config.after calls h₀).config .null with
    | error u => exact absurd ((settings_refused_iff _).mp ⟨u, hsettled⟩) hright
    | ok s =>
        obtain ⟨hrun, hquiet⟩ := run_of_settled hcalled hread hconstrained hchecked hsettled
        exact ⟨s, rfl, hrun, hquiet⟩

/-- A load of a file that sets a timeout below zero. -/
def timeoutLoad : Config.Call :=
  .load (Config.filesWith "CONNECT_TIMEOUT=-1") Config.fileOptions true

/-- A machine with a timeout below zero in its configuration. -/
def hastyHost : Host := Config.after [timeoutLoad] Config.startedHost

/-- A line with a port below zero. -/
def misnumberedLine : List Text := ["--deregister", "--port", "-5"]

/-- The timeout of the configuration stands where the command line says nothing, and a port below
zero on the command line is refused. -/
theorem numbers_checked_on_hastyHost :
    Config.make (.text Config.toolName) "/etc/tool.conf" = .ok Config.startedHost.config ∧
    (hastyHost.config.get "connect_timeout").IsNegative ∧
    (∀ password s, settings [] hastyHost.config password = .ok s → s.timeout.IsNegative) ∧
    ∃ h', (run misnumberedLine).runOn hastyHost = (.ok (.known ResultCode.paramError), h') ∧
      h'.outward = hastyHost.outward := by
  have hnegative : (hastyHost.config.get "connect_timeout").IsNegative := by decide +kernel
  obtain ⟨hsettings, hruns⟩ :=
    numbers_checked_on_line_alone Config.make_startedHost [timeoutLoad]
  refine ⟨Config.make_startedHost, hnegative, fun password s hsettled => ?_, ?_⟩
  · exact (hsettings [] password s hsettled).2.2.2.2.mpr ⟨.inl rfl, hnegative⟩
  · have hcalls : (called misnumberedLine).Succeeds hastyHost :=
      succeeds_of_isSome (by decide +kernel)
    have hreads : (CommandLine.read hastyHost.homes arguments misnumberedLine).2 = .ok () :=
      eq_ok_of_toOption (by decide +kernel)
    have hport :
        textArgument (CommandLine.read hastyHost.homes arguments misnumberedLine).1 "port"
          = some "-5" := by decide +kernel
    obtain ⟨entries, hentries⟩ := hcalls
    rcases hcalled : (called misnumberedLine).runOn hastyHost with ⟨r, g⟩
    rcases hread : CommandLine.read hastyHost.homes arguments misnumberedLine with ⟨bound, outcome⟩
    rw [hcalled] at hentries
    rw [hread] at hreads hport
    obtain rfl : r = .ok entries := hentries
    obtain rfl : outcome = .ok () := hreads
    obtain ⟨v, hbound, hv⟩ := Option.bind_eq_some_iff.mp hport
    obtain rfl := Value.eq_text_of_text? hv
    have hmisnumbered : Misnumbered bound "port" (.text "-5") := by
      have hread : numberOf? (.text "-5") = some (-5) := by decide +kernel
      refine ⟨hbound, fun hnull => (nomatch hnull), fun n hn => ?_⟩
      rw [hread] at hn
      cases hn
      decide
    exact (hruns misnumberedLine bound entries g hcalled hread).1 (.inl ⟨_, hmisnumbered⟩)

/-- Is a server described with a timeout below zero? -/
def isHasty : Event → Bool
  | .serverMade _ timeout _ => decide timeout.IsNegative
  | _ => false

/-- A timeout below zero in the configuration does not end the run: the server is contacted with
it. -/
theorem hasty_run_contacts_server :
    ¬∀ (calls : List Config.Call) (line : List Text),
      let h := Config.after calls Config.startedHost
      (h.config.get "connect_timeout").IsNegative →
      textArgument (CommandLine.read h.homes arguments line).1 "connect_timeout" = none →
        ((run line).runOn h).2.outward.any isHasty = false := by
  intro hall
  have hquiet := hall [timeoutLoad] ["--deregister"] (by decide +kernel) (by decide +kernel)
  exact absurd hquiet (by decide +kernel)

end Registration

end OtpRegistrar
