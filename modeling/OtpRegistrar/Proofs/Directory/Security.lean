/-
What a connection is secured with.

Two parts decide about TLS.  The settings say whether it is wanted, and make the TLS
settings for it: certificates are checked unless it is said that they need not be.
The host says it once more, since a URL in the place of a name turns TLS on or off
by itself.  Where the two agree the connection is what the settings say.  Where they
do not, the host has the last word, and the settings made beforehand do not follow:
a host that turns TLS on gets a server without TLS settings, and such a server takes
any certificate.

This file tells exactly when that happens.
-/
import OtpRegistrar.Proofs.Directory.Session

namespace OtpRegistrar

/-! ### Texts that begin in one of several ways -/

/-- A text does not begin with two different texts of the same length. -/
theorem Text.startsWith_inj {t a b : Text} (ha : t.startsWith a = true) (hb : t.startsWith b = true)
    (hlength : a.length = b.length) : a = b := by
  have hprefix : a <+: b := List.prefix_of_prefix_length_le (List.isPrefixOf_iff_prefix.mp ha)
    (List.isPrefixOf_iff_prefix.mp hb) (Nat.le_of_eq hlength)
  exact hprefix.eq_of_length hlength

namespace Endpoint

/-! ### What a host says about TLS -/

/-- The host is a URL that turns TLS off. -/
def TurnsTlsOff (host : Text) : Prop :=
  host.strip.lower.startsWith "ldap://" = true ∨ host.strip.lower.startsWith "ldapi://" = true

/-- The host is a URL that turns TLS on. -/
def TurnsTlsOn (host : Text) : Prop := host.strip.lower.startsWith "ldaps://" = true

/-- A host that turns TLS on does not turn it off. -/
theorem TurnsTlsOn.not_off {host : Text} (hon : TurnsTlsOn host) : ¬TurnsTlsOff host := by
  intro hoff
  rcases hoff with hoff | hoff
  · have hshort : host.strip.lower.startsWith "ldaps:/" = true := by
      refine List.isPrefixOf_iff_prefix.mpr ?_
      exact (List.prefix_append (Text.ofString "ldaps:/") (Text.ofString "/")).trans
        (List.isPrefixOf_iff_prefix.mp hon)
    exact absurd (Text.startsWith_inj hoff hshort (by decide)) (by decide)
  · exact absurd (Text.startsWith_inj hoff hon (by decide)) (by decide)

theorem secure_of_remote {host : Text} {port : Value} {secure : Bool} {endpoint : Endpoint}
    (hremote : remote host port secure = .ok endpoint) : endpoint.secure = secure := by
  unfold remote at hremote
  dsimp only at hremote
  split at hremote
  · cases hremote
  · split at hremote
    · cases hremote
      rfl
    · cases hremote

/-- What a scheme says about the host that it is the scheme of. -/
def Scheme.Turns (host : Text) : Scheme → Prop
  | .ldap | .ldapi => TurnsTlsOff host ∧ ¬TurnsTlsOn host
  | .ldaps => TurnsTlsOn host
  | .plain => ¬TurnsTlsOff host ∧ ¬TurnsTlsOn host

theorem turns_of_splitScheme {host rest : Text} {scheme : Scheme}
    (hscheme : splitScheme host.strip = (scheme, rest)) : scheme.Turns host := by
  have hoff : TurnsTlsOff host → TurnsTlsOff host ∧ ¬TurnsTlsOn host :=
    fun hoff => ⟨hoff, fun hon => hon.not_off hoff⟩
  unfold splitScheme at hscheme
  dsimp only at hscheme
  -- the schemes are tried in this order, but no host begins with two of them
  by_cases hldap : host.strip.lower.startsWith "ldap://" = true
  · rw [if_pos hldap] at hscheme
    cases hscheme
    exact hoff (.inl hldap)
  rw [if_neg hldap] at hscheme
  by_cases hldaps : host.strip.lower.startsWith "ldaps://" = true
  · rw [if_pos hldaps] at hscheme
    cases hscheme
    exact hldaps
  rw [if_neg hldaps] at hscheme
  by_cases hldapi : host.strip.lower.startsWith "ldapi://" = true
  · rw [if_pos hldapi] at hscheme
    cases hscheme
    exact hoff (.inr hldapi)
  · rw [if_neg hldapi] at hscheme
    cases hscheme
    exact ⟨fun hoff => hoff.elim hldap hldapi, hldaps⟩

/-- What becomes under a scheme of what was asked for. -/
def Scheme.settles : Scheme → Bool → Bool
  | .ldap, _ | .ldapi, _ => false
  | .ldaps, _ => true
  | .plain, asked => asked

theorem secure_of_resolve {host : Text} {port : Value} {secure : Bool} {endpoint : Endpoint}
    (hresolve : resolve host port secure = .ok endpoint) :
    endpoint.secure = (splitScheme host.strip).1.settles secure := by
  unfold resolve at hresolve
  dsimp only at hresolve
  rcases hscheme : splitScheme host.strip with ⟨scheme, rest⟩
  rw [hscheme] at hresolve
  cases scheme with
  | ldapi =>
      cases hresolve
      rfl
  | _ =>
      dsimp only at hresolve
      split at hresolve
      · cases hresolve
      · exact secure_of_remote hresolve

/-- **The host has the last word on TLS.** -/
theorem secure_iff_of_resolve {host : Text} {port : Value} {secure : Bool} {endpoint : Endpoint}
    (hresolve : resolve host port secure = .ok endpoint) :
    endpoint.secure = true ↔ TurnsTlsOn host ∨ secure = true ∧ ¬TurnsTlsOff host := by
  have hsecure := secure_of_resolve hresolve
  rcases hscheme : splitScheme host.strip with ⟨scheme, rest⟩
  have hturns : scheme.Turns host := turns_of_splitScheme hscheme
  rw [hscheme] at hsecure
  rw [hsecure]
  cases scheme with
  | ldapi =>
      obtain ⟨hoff, hnot⟩ := hturns
      simp [Scheme.settles, hoff, hnot]
  | ldap =>
      obtain ⟨hoff, hnot⟩ := hturns
      simp [Scheme.settles, hoff, hnot]
  | ldaps =>
      have hon : TurnsTlsOn host := hturns
      simp [Scheme.settles, hon]
  | plain =>
      obtain ⟨hoff, hnot⟩ := hturns
      simp [Scheme.settles, hoff, hnot]

end Endpoint

/-! ### What the directory client is given -/

theorem Tls.eq_of_make {files : FileTree} {verified : Bool} {caFile : Value} {tls : Tls}
    (hmake : Tls.make files verified caFile = .ok tls) : tls = ⟨verified, caFile.orNull⟩ := by
  unfold Tls.make at hmake
  unfold Value.orNull
  cases htruthy : caFile.truthy with
  | false =>
      rw [htruthy] at hmake
      cases hmake
      rfl
  | true =>
      rw [htruthy] at hmake
      rw [Bool.not_true, if_neg Bool.false_ne_true] at hmake
      split at hmake
      · cases hmake
      · split at hmake
        · cases hmake
          rfl
        · cases hmake

namespace Contact

variable {s : Settings}

theorem tls_of_asksTls (c : Contact s) (hasks : s.asksTls = true) :
    c.tls = some ⟨!s.trustAll.truthy, s.caFile.orNull⟩ := by
  obtain ⟨files, asked, hasked, htls⟩ := c.secured
  unfold Settings.tls at hasked
  rw [if_pos hasks] at hasked
  cases hmake : Tls.make files (!s.trustAll.truthy) s.caFile with
  | error e =>
      rw [hmake] at hasked
      cases hasked
  | ok tls =>
      rw [hmake] at hasked
      cases hasked
      rw [htls, Option.isNone_some, Bool.and_false, if_neg Bool.false_ne_true, Tls.eq_of_make hmake]

/-- Settings that do not ask for TLS get none, unless the host turns it on; then nothing is checked.
-/
theorem tls_of_not_asksTls (c : Contact s) (hasks : s.asksTls = false) :
    c.tls = if c.endpoint.secure then some Tls.unchecked else none := by
  obtain ⟨files, asked, hasked, htls⟩ := c.secured
  unfold Settings.tls at hasked
  rw [hasks, if_neg Bool.false_ne_true] at hasked
  cases hasked
  rw [htls, Option.isNone_none, Bool.and_true]

/-- A server is secure without having been asked to be only if its host turns TLS on. -/
theorem secure_iff (c : Contact s) : ∃ host, s.host = .text host ∧
    (c.endpoint.secure = true ↔ Endpoint.TurnsTlsOn host ∨
      s.useSsl.truthy = true ∧ ¬Endpoint.TurnsTlsOff host) := by
  obtain ⟨host, hhost, hresolve⟩ := c.resolved
  exact ⟨host, hhost, Endpoint.secure_iff_of_resolve hresolve⟩

end Contact

namespace Action

/-- **Which certificates are taken.** As long as it is not said that any will do, a connection that
uses TLS checks certificates with the file of the settings, if and only if the settings ask for TLS
at all. Where only the host turns TLS on, no certificate is checked. -/
theorem connect_checks_certificates (s : Settings) (h : Host)
    (htrust : s.trustAll.truthy = false) :
    ∃ es, h.Emits es ((connect s).runOn h).2 ∧
      ∀ server timeout tls, .serverMade server timeout tls ∈ es →
        server.secure = true ∨ .tlsStarted ∈ es →
          (tls = some ⟨true, s.caFile.orNull⟩ ↔ s.asksTls = true) ∧
          (s.asksTls = false → tls = some Tls.unchecked ∧
            ∃ host, s.host = .text host ∧ Endpoint.TurnsTlsOn host) := by
  obtain ⟨es, hemits, hsession⟩ := emits_connect s h
  refine ⟨es, hemits, fun server timeout tls hmade huses => ?_⟩
  rcases hsession.head with rfl | ⟨c, rest, rfl, honce, hstarted⟩
  · cases hmade
  have hserver : server = c.endpoint ∧ tls = c.tls := by
    rcases List.mem_cons.mp hmade with hmade | hmade
    · cases hmade
      exact ⟨rfl, rfl⟩
    · exact absurd hmade (honce _ _ _)
  obtain ⟨rfl, rfl⟩ := hserver
  cases hasks : s.asksTls with
  | true =>
      rw [c.tls_of_asksTls hasks, htrust]
      exact ⟨⟨fun _ => rfl, fun _ => rfl⟩, fun hnot => nomatch hnot⟩
  | false =>
      unfold Settings.asksTls at hasks
      obtain ⟨hssl, htls⟩ := Bool.or_eq_false_iff.mp hasks
      have hsecure : c.endpoint.secure = true := by
        rcases huses with hsecure | hstart
        · exact hsecure
        · have := hstarted ((List.mem_cons.mp hstart).resolve_left (fun h => nomatch h))
          rw [htls] at this
          cases this
      obtain ⟨host, hhost, hiff⟩ := c.secure_iff
      have hon : Endpoint.TurnsTlsOn host := by
        rcases hiff.mp hsecure with hon | ⟨hasked, -⟩
        · exact hon
        · rw [hssl] at hasked
          cases hasked
      rw [c.tls_of_not_asksTls hasks, if_pos hsecure]
      refine ⟨⟨fun heq => ?_, fun hnot => nomatch hnot⟩, fun _ => ⟨rfl, host, hhost, hon⟩⟩
      cases heq

/-- Settings that ask for TLS from the start. -/
def securedSettings : Settings := { useSsl := .bool true }

/-- Is a server of this machine described that uses TLS? -/
def describesSecured : Event → Bool
  | .serverMade server _ _ => server.host == Text.ofString "localhost" && server.secure
  | _ => false

theorem connect_checks_certificates_secured :
    securedSettings.trustAll.truthy = false ∧
      ∃ server timeout, server.host = Text.ofString "localhost" ∧ server.secure = true ∧
        Event.serverMade server timeout (some ⟨true, .null⟩) ∈
          ((connect securedSettings).runOn Host.plain).2.outward := by
  obtain ⟨es, hemits, hchecks⟩ := connect_checks_certificates securedSettings Host.plain rfl
  have hdescribed : ((connect securedSettings).runOn Host.plain).2.outward.any
      describesSecured = true := by decide +kernel
  rw [hemits.outward, show Host.plain.outward = [] from rfl, List.nil_append] at hdescribed ⊢
  obtain ⟨e, hmem, hsecured⟩ := List.any_eq_true.mp hdescribed
  cases e with
  | serverMade server timeout tls =>
      obtain ⟨hhost, hsecure⟩ := (Bool.and_eq_true _ _).mp hsecured
      have htls : tls = some ⟨true, .null⟩ :=
        (hchecks server timeout tls hmem (.inl hsecure)).1.mpr rfl
      rw [htls] at hmem
      exact ⟨rfl, server, timeout, eq_of_beq hhost, hsecure, hmem⟩
  | _ => cases hsecured

/-- Settings in which the host alone turns TLS on. -/
def urlSettings : Settings := { host := .text "ldaps://localhost" }

/-- Is a server described that uses TLS and takes any certificate? -/
def takesAnyCertificate : Event → Bool
  | .serverMade server _ (some tls) => server.secure && !tls.verified
  | _ => false

/-- Any certificate is taken although that was not said. -/
theorem connect_takes_any_certificate :
    urlSettings.trustAll.truthy = false ∧
      ((connect urlSettings).runOn Host.plain).2.outward.any takesAnyCertificate = true := by
  decide +kernel

end Action

end OtpRegistrar
