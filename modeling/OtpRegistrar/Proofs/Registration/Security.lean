/-
What a run sends without TLS.

When TLS from the start is asked for, everything a run sends goes to the one server
that it describes to the directory client, and that server decides whether it is
sent in the clear.  It is sent over TLS unless the host is a URL that turns TLS off;
then a password to bind with and the request are sent in the clear although TLS was
asked for, and no later step makes up for it.
-/
import OtpRegistrar.Proofs.Directory.Security
import OtpRegistrar.Proofs.Registration.Order
import OtpRegistrar.Proofs.Value.Table

namespace OtpRegistrar.Registration

open OtpRegistrar.Action

/-- A command line is accepted in one way only. -/
theorem Accepted.unique {h : Host} {line : List Text} {bound bound' : Bindings} {s s' : Settings}
    (haccepted : Accepted h line bound s) (haccepted' : Accepted h line bound' s') :
    bound' = bound ∧ s' = s := by
  have hread := haccepted.read.symm.trans haccepted'.read
  obtain ⟨rfl, -⟩ := Prod.mk.inj hread
  have hsettled := haccepted.settled.symm.trans haccepted'.settled
  cases hsettled
  exact ⟨rfl, rfl⟩

/-- A line that a run is prepared for is accepted. -/
theorem accepted_of_prepared {line : List Text} {h : Host} {p : Settings → Bool}
    (hprepared : ((prepared line).runOn h).1.toOption.any (p ·.2) = true) :
    ∃ bound s, Accepted h line bound s ∧ p s = true := by
  rcases hrun : (prepared line).runOn h with ⟨r, h'⟩
  rw [hrun] at hprepared
  cases r with
  | error f => cases hprepared
  | ok v =>
      obtain ⟨entries, s⟩ := v
      obtain ⟨-, bound, haccepted, -⟩ := prepared_ok hrun
      exact ⟨bound, s, haccepted, hprepared⟩

/-- No settings ask for TLS in both ways. -/
theorem one_layer_of_make {said s : Settings} (hmake : Settings.make said = .ok s) :
    (s.useSsl.truthy && s.useStartTls.truthy) = false := by
  unfold Settings.make at hmake
  split at hmake
  · cases hmake
  · rename_i hnot
    split at hmake
    · cases hmake
      exact Bool.eq_false_iff.mpr hnot
    · cases hmake
      exact Bool.eq_false_iff.mpr hnot

theorem Accepted.one_layer {h : Host} {line : List Text} {bound : Bindings} {s : Settings}
    (haccepted : Accepted h line bound s) (hssl : s.useSsl.truthy = true) :
    s.useStartTls.truthy = false := by
  obtain ⟨port, timeout, hmake⟩ := made_of_settled haccepted.settled
  have hone := one_layer_of_make hmake
  rwa [hssl, Bool.true_and] at hone

/-- **When a run that is to use TLS does.** If TLS from the start is asked for, all that a run does
with the directory server is behind the one description of it, TLS is not started later, and the
server is one with TLS if and only if the host does not turn it off. -/
theorem run_secure_iff {line : List Text} {h : Host} {bound : Bindings} {s : Settings}
    (haccepted : Accepted h line bound s) (hssl : s.useSsl.truthy = true) :
    ∃ es, ((run line).runOn h).2.outward = h.outward ++ es ∧
      ((∀ e ∈ es, asksPassword e = true) ∨
        ∃ asked server timeout tls rest, es = asked ++ .serverMade server timeout tls :: rest ∧
          (∀ e ∈ asked, asksPassword e = true) ∧
          (∀ server' timeout' tls', .serverMade server' timeout' tls' ∉ rest) ∧
          .tlsStarted ∉ rest ∧
          ∃ host, s.host = .text host ∧ (server.secure = true ↔ ¬Endpoint.TurnsTlsOff host)) := by
  obtain ⟨es, houtward, hshape⟩ := outward_run line h
  refine ⟨es, houtward, ?_⟩
  rcases hshape with rfl | ⟨bound', s', haccepted', hshape⟩
  · exact .inl fun e he => nomatch he
  obtain ⟨rfl, rfl⟩ := haccepted.unique haccepted'
  cases hshape with
  | silent => exact .inl fun e he => nomatch he
  | user huser => exact .inl fun e he => asksPassword_of_mem_asks he
  | bind huser hbind hread => exact .inl fun e he => asksPassword_of_mem_both he
  | @session user bind password es huser hbind hread hsession =>
      rcases hsession.head with rfl | ⟨c, rest, rfl, honce, hstarted⟩
      · rw [List.append_nil]
        exact .inl fun e he => asksPassword_of_mem_both he
      · refine .inr ⟨_, _, _, _, rest, rfl, fun e he => asksPassword_of_mem_both he, honce,
          fun hmem => ?_, ?_⟩
        · have htls := hstarted hmem
          rw [show ({ s' with bindPassword := password } : Settings).useStartTls.truthy = _ from
            haccepted.one_layer hssl] at htls
          cases htls
        · obtain ⟨host, hhost, hiff⟩ := c.secure_iff
          refine ⟨host, hhost, hiff.trans ⟨?_, fun hnot => .inr ⟨hssl, hnot⟩⟩⟩
          rintro (hon | ⟨-, hnot⟩)
          · exact hon.not_off
          · exact hnot

/-- A line that asks for TLS. -/
def securedLine : List Text := ["--deregister", "--useSSL"]

/-- Is a server of this machine described, at the port for TLS? -/
def describesTlsPort : Event → Bool
  | .serverMade server _ _ =>
    server.host == Text.ofString "localhost" && server.port.int? == some 636
  | _ => false

theorem run_secure_iff_secured :
    ∃ bound s, Accepted Host.plain securedLine bound s ∧ s.useSsl.truthy = true ∧
      ∃ server timeout tls rest,
        ((run securedLine).runOn Host.plain).2.outward = .serverMade server timeout tls :: rest ∧
        server.host = Text.ofString "localhost" ∧ server.port.int? = some 636 ∧
        server.secure = true ∧
        (∀ server' timeout' tls', .serverMade server' timeout' tls' ∉ rest) ∧
        .tlsStarted ∉ rest := by
  obtain ⟨bound, s, haccepted, hsaid⟩ : ∃ bound s, Accepted Host.plain securedLine bound s ∧
      (s.useSsl.truthy && s.host.text? == some (Text.ofString "localhost")) = true :=
    accepted_of_prepared
      (p := fun s => s.useSsl.truthy && s.host.text? == some (Text.ofString "localhost"))
      (by decide +kernel)
  obtain ⟨hssl, hlocal⟩ := (Bool.and_eq_true _ _).mp hsaid
  obtain ⟨es, houtward, hways⟩ := run_secure_iff haccepted hssl
  rw [show Host.plain.outward = [] from rfl, List.nil_append] at houtward
  have hdescribed : ((run securedLine).runOn Host.plain).2.outward.any describesTlsPort = true := by
    decide +kernel
  have hunasked : ((run securedLine).runOn Host.plain).2.outward.any asksPassword = false := by
    decide +kernel
  rw [houtward] at hdescribed hunasked
  -- no password is asked for, so the server is the first that comes
  have hnone : ∀ e ∈ es, ¬asksPassword e = true := fun e he => List.any_eq_false.mp hunasked e he
  rcases hways with
    hasks | ⟨asked, server, timeout, tls, rest, rfl, hasked, honce, hstarted, host, hhost, hiff⟩
  · obtain ⟨e, he, -⟩ := List.any_eq_true.mp hdescribed
    exact absurd (hasks e he) (hnone e he)
  obtain rfl : asked = [] := List.eq_nil_iff_forall_not_mem.mpr fun e he =>
    hnone e (List.mem_append_left _ he) (hasked e he)
  rw [Value.eq_text_of_text? (beq_iff_eq.mp hlocal)] at hhost
  cases hhost
  have hsecure : server.secure = true := hiff.mpr fun hoff => by
    rcases hoff with hoff | hoff <;> exact absurd hoff (by decide)
  obtain ⟨e, he, hdescribes⟩ := List.any_eq_true.mp hdescribed
  rcases List.mem_cons.mp he with rfl | hrest
  · obtain ⟨hname, hport⟩ := (Bool.and_eq_true _ _).mp hdescribes
    exact ⟨bound, s, haccepted, hssl, server, timeout, tls, rest, houtward, eq_of_beq hname,
      eq_of_beq hport, hsecure, honce, hstarted⟩
  · cases e with
    | serverMade server' timeout' tls' => exact absurd hrest (honce _ _ _)
    | _ => cases hdescribes

/-- A line that asks for TLS and names a host that turns it off. -/
def exposedLine : List Text :=
  ["--deregister", "--useSSL", "--hostname", "ldap://localhost", "--bindDN", "cn=admin",
   "--bindPassword", "secret"]

/-- Is a server described that does not use TLS? -/
def isExposed : Event → Bool
  | .serverMade server _ _ => !server.secure
  | _ => false

/-- Is a password to bind with sent, or a request? -/
def isConfidential : Event → Bool
  | .bound | .extendedSent _ _ => true
  | _ => false

/-- A password and a request are sent in the clear although TLS was asked for. -/
theorem run_exposed :
    (∃ bound s, Accepted Host.plain exposedLine bound s ∧ s.useSsl.truthy = true) ∧
      ((run exposedLine).runOn Host.plain).2.outward.any isExposed = true ∧
      ((run exposedLine).runOn Host.plain).2.outward.countP isConfidential = 2 := by
  refine ⟨accepted_of_prepared (by decide +kernel), ?_⟩
  decide +kernel

end OtpRegistrar.Registration
