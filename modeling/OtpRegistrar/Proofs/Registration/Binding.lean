/-
When a session binds, and when a password to bind with is read.

Two places decide whether there is a name to bind with, and they do not ask the same.
Where the source of the password is chosen, a name counts if one is said at all; the
session binds if the name counts as true.  Everything else agrees: a command line
cannot give a password to bind with and no name, and a session that has a name binds
as soon as its connection is ready for it, before anything is sent.

So what is left is to compare the two decisions on every name.  They differ on the
empty one: then a password is read, and asked for if need be, and the session is one
without a bind.
-/
import OtpRegistrar.Proofs.Arguments.Constraint
import OtpRegistrar.Proofs.Registration.Failing
import OtpRegistrar.Proofs.Registration.Security
import OtpRegistrar.Proofs.Registration.Secrecy

namespace OtpRegistrar

theorem Value.truthy_ofText? {t : Option Text} :
    (Value.ofText? t).truthy = true ↔ t ≠ none ∧ t ≠ some [] := by
  rcases t with _ | _ | ⟨c, t⟩ <;> simp [ofText?, truthy]

namespace Registration

open OtpRegistrar.Action OtpRegistrar.CommandLine

/-! ### The two decisions -/

/-- The variables that say where the password to bind with comes from. -/
def bindPasswordNames : List Text :=
  ["bind_password", "bind_password_file", "prompt_for_bind_password"]

/-- Is a place of the password to bind with bound? -/
def namesBindPassword (bound : Bindings) : Bool :=
  (textArgument bound "bind_password").isSome || (textArgument bound "bind_password_file").isSome ||
    bound.has "prompt_for_bind_password"

/-- The source that is chosen where the command line names none. -/
def chooseConfigured (config : Config) (dn : Text) : Except Template.Flaw PasswordSource :=
  match config.text? "ldap_bind_password_file" with
  | none | some [] =>
    PasswordSource.choose none none true (some dn) PasswordSource.bindQuestion
  | some configured =>
    PasswordSource.choose none (some configured) false (some dn) PasswordSource.bindQuestion

/-- With a name to bind with, the place of the password is the one that is bound, else one that is
configured. -/
theorem bindPassword_of_some {bound : Bindings} {config : Config} {dn : Text}
    (hdn : bindDn bound config = some dn) :
    bindPassword bound config =
      if namesBindPassword bound then
        PasswordSource.choose (textArgument bound "bind_password")
          (textArgument bound "bind_password_file") (bound.has "prompt_for_bind_password")
          (some dn) PasswordSource.bindQuestion
      else chooseConfigured config dn := by
  unfold bindPassword namesBindPassword chooseConfigured
  rw [hdn]
  cases textArgument bound "bind_password" with
  | some password => rfl
  | none =>
      cases textArgument bound "bind_password_file" with
      | some path => rfl
      | none =>
          cases bound.has "prompt_for_bind_password" with
          | true => rfl
          | false =>
              rcases config.text? "ldap_bind_password_file" with _ | _ | ⟨c, path⟩ <;> rfl

section Accepted

variable {h : Host} {line : List Text} {bound : Bindings} {s : Settings}
  (haccepted : Accepted h line bound s)

include haccepted

theorem kept_of_accepted {c : Constraint} (hc : c ∈ constraints) :
    ¬c.Violated (bound.map Prod.fst) := by
  have hsimple : ∀ c ∈ constraints, c.Simple := by decide
  exact Constraint.not_violated_of_checkAll (Bindings.has_eq bound) hsimple haccepted.constrained hc

/-- A place of the password to bind with is named only with the name to bind with. -/
theorem has_bindDn_of_accepted {name : Text} (hname : name ∈ bindPasswordNames)
    (hbound : bound.has name = true) : bound.has "bind_dn" = true := by
  have hdeclared : ∀ name ∈ bindPasswordNames,
      Constraint.dependent name ["bind_dn"] ∈ constraints := by decide
  by_contra hnone
  refine kept_of_accepted haccepted (hdeclared name hname)
    ⟨Bindings.has_iff.mp hbound, fun p hp hgiven => ?_⟩
  rw [List.mem_singleton.mp hp] at hgiven
  exact hnone (Bindings.has_iff.mpr hgiven)

theorem bindDn_isSome_of_has (hbound : bound.has "bind_dn" = true) (config : Config) :
    (bindDn bound config).isSome = true := by
  obtain ⟨pieces, hconsists⟩ := consists_of_read haccepted.read
  have hvalued : (textArgument bound "bind_dn").isSome = isGiven pieces "bind_dn" :=
    hconsists.text?_isSome (by decide)
  rw [← hconsists.has_eq, hbound] at hvalued
  obtain ⟨t, ht⟩ := Option.isSome_iff_exists.mp hvalued
  unfold bindDn
  rw [ht]
  rfl

/-- Without a name to bind with no place of the password is named. -/
theorem not_has_of_bindDn_none (hnone : bindDn bound h.config = none) :
    ∀ name ∈ bindPasswordNames, bound.has name = false := by
  intro name hname
  rw [← Bool.not_eq_true]
  intro hbound
  have hsome := bindDn_isSome_of_has haccepted (has_bindDn_of_accepted haccepted hname hbound)
    h.config
  rw [hnone] at hsome
  cases hsome

/-- A password to bind with is needed if and only if a name is said, be it empty. -/
theorem bindPassword_eq_none_iff {source : PasswordSource}
    (hsource : bindPassword bound h.config = .ok source) :
    source = .none ↔ bindDn bound h.config = none := by
  obtain ⟨pieces, hconsists⟩ := consists_of_read haccepted.read
  cases hname : bindDn bound h.config with
  | none =>
      unfold bindPassword at hsource
      have hnone := not_has_of_bindDn_none haccepted hname
      have hpassword : (textArgument bound "bind_password").isSome = bound.has "bind_password" :=
        (hconsists.text?_isSome (by decide)).trans (hconsists.has_eq _).symm
      have hfile : (textArgument bound "bind_password_file").isSome =
          bound.has "bind_password_file" :=
        (hconsists.text?_isSome (by decide)).trans (hconsists.has_eq _).symm
      rw [hnone _ (by decide), Option.isSome_eq_false_iff, Option.isNone_iff_eq_none] at hpassword
      rw [hnone _ (by decide), Option.isSome_eq_false_iff, Option.isNone_iff_eq_none] at hfile
      rw [hname] at hsource
      simp [PasswordSource.eq_none_iff_of_choose hsource, hpassword, hfile]
  | some dn =>
      rw [bindPassword_of_some hname] at hsource
      simp only [reduceCtorEq, iff_false]
      split at hsource
      · rename_i hnamed
        rw [PasswordSource.eq_none_iff_of_choose hsource]
        rintro ⟨hpassword, hfile, hasked⟩
        simp [namesBindPassword, hpassword, hfile, hasked] at hnamed
      · unfold chooseConfigured at hsource
        split at hsource <;> simp [PasswordSource.eq_none_iff_of_choose hsource]

theorem bindDn_of_accepted : s.bindDn = Value.ofText? (bindDn bound h.config) := by
  obtain ⟨port, timeout, hmake⟩ := made_of_settled haccepted.settled
  rw [Settings.eq_of_make hmake]
  rfl

/-- The session binds if and only if a name is said that is not empty. -/
theorem truthy_bindDn_iff :
    s.bindDn.truthy = true ↔ bindDn bound h.config ≠ none ∧ bindDn bound h.config ≠ some [] := by
  rw [bindDn_of_accepted haccepted]
  exact Value.truthy_ofText?

end Accepted

/-! ### What comes of them -/

section Shape

variable {line : List Text} {h : Host} {bound : Bindings} {s : Settings} {es : List Event}

/-- A run opens its connection only inside a session. -/
theorem Shape.bindsWhenReady (hshape : Shape line h bound s es) : BindsWhenReady s h.server es := by
  cases hshape with
  | silent => exact fun hopened => nomatch hopened
  | user huser =>
      intro hopened
      cases asksPassword_of_mem_asks hopened
  | bind huser hbind hread =>
      intro hopened
      cases asksPassword_of_mem_both hopened
  | @session user bind password es huser hbind hread hsession =>
      intro hopened hready hname
      rcases List.mem_append.mp hopened with hasked | hopened
      · cases asksPassword_of_mem_both hasked
      · exact List.mem_append_right _ (hsession.bindsWhenReady hopened hready hname)

theorem Shape.truthy_of_bound (hshape : Shape line h bound s es) (hbound : .bound ∈ es) :
    s.bindDn.truthy = true := by
  obtain ⟨past, future, hsplit⟩ := List.append_of_mem hbound
  exact (due_of_shape hshape hsplit).2.1

theorem Shape.asked (hshape : Shape line h bound s es) {bind : PasswordSource}
    (hbind : bindPassword bound h.config = .ok bind) {e : Event} (he : e ∈ es)
    (hasks : asksPassword e = true) :
    (∃ user, userPassword bound = .ok user ∧ e ∈ user.asks) ∨ e ∈ bind.asks := by
  obtain ⟨past, future, hsplit⟩ := List.append_of_mem he
  have hdue := (due_of_shape hshape hsplit).2
  have hpassword : PasswordDue line h bound past e := by
    cases e <;> first | exact hdue | cases hasks
  obtain ⟨user, huser, ⟨-, hone⟩ | ⟨-, -, bind', hbind', hone⟩⟩ := hpassword
  · exact .inl ⟨user, huser, hone ▸ List.mem_singleton_self e⟩
  · rw [hbind] at hbind'
    cases hbind'
    exact .inr (hone ▸ List.mem_singleton_self e)

end Shape

/-- Once the passwords have been read, the settings hold one to bind with if one is needed. -/
theorem bindPassword_ne_null_iff {line : List Text} {h : Host} {bound : Bindings} {s s' : Settings}
    {source : PasswordSource} {password : Option (List UInt8)} (haccepted : Accepted h line bound s)
    (hsource : bindPassword bound h.config = .ok source)
    (hboth : ((bothPasswordsRead line).runOn h).1 = .ok (password, s')) :
    s'.bindPassword ≠ .null ↔ source ≠ .none := by
  have hrun : (bothPasswordsRead line).runOn h = (.ok (password, s'), _) := Prod.ext hboth rfl
  obtain ⟨⟨entries, s₀⟩, h₀, hprepared, hrun⟩ := runOn_bind_inv hrun
  obtain ⟨password', h₁, huser, hrun⟩ := runOn_bind_inv hrun
  obtain ⟨bindPassword', h₂, hbind, hrun⟩ := runOn_bind_inv hrun
  cases hrun
  obtain ⟨-, bound', haccepted', hquiet⟩ := prepared_ok hprepared
  obtain ⟨rfl, rfl⟩ := haccepted.unique haccepted'
  rcases runOn_readUserPassword h₀ with ⟨f, hnone⟩ | ⟨user, -, hchosen⟩
  · rw [huser] at hnone
    cases hnone
  have hasked := emits_readPassword user h₀
  rw [← hchosen, huser] at hasked
  obtain ⟨source', hsource', hyields⟩ := yields_of_readBindPassword hbind
  have hconfig : ∀ name, name ≠ Host.loggerVariable → h₁.config.get name = h.config.get name :=
    (hquiet.toResembles.trans hasked.toResembles).config
  rw [hasked.bound, hquiet.bound, bindPassword_congr hconfig, hsource] at hsource'
  cases hsource'
  rw [← hyields.isSome_iff]
  cases bindPassword' <;> simp

/-- **A password to bind with is read if and only if the session binds**, unless the name to bind
with is empty.  It is read from the one source that is chosen; as soon as the connection is ready
the session binds if there is such a source, and only then; and with one nothing is sent before the
server has agreed to the bind.  If the name is empty a password is read all the same, and the
session does not bind. -/
theorem run_binds_iff_password {line : List Text} {h : Host} {bound : Bindings} {s : Settings}
    (haccepted : Accepted h line bound s) :
    ∃ source es, bindPassword bound h.config = .ok source ∧
      ((run line).runOn h).2.outward = h.outward ++ es ∧
      (∀ e ∈ es, asksPassword e = true →
        (∃ user, userPassword bound = .ok user ∧ e ∈ user.asks) ∨ e ∈ source.asks) ∧
      (∀ password s', ((bothPasswordsRead line).runOn h).1 = .ok (password, s') →
        (s'.bindPassword ≠ .null ↔ source ≠ .none)) ∧
      (bindDn bound h.config ≠ some [] →
        (.bound ∈ es → source ≠ .none) ∧
        (.opened ∈ es → s.Ready h.server → (.bound ∈ es ↔ source ≠ .none)) ∧
        ∀ past oid value future, es = past ++ .extendedSent oid value :: future →
          source ≠ .none → .bound ∈ past ∧ h.server.bind.Agrees) ∧
      (bindDn bound h.config = some [] → source ≠ .none ∧ .bound ∉ es) := by
  obtain ⟨source, hsource, -, -⟩ := bindPassword_ok bound h.config
  obtain ⟨es, houtward, hshape⟩ := outward_run line h
  have hneeded : source ≠ .none ↔ bindDn bound h.config ≠ none :=
    not_congr (bindPassword_eq_none_iff haccepted hsource)
  have hbinds := truthy_bindDn_iff haccepted
  have hread : ∀ password s', ((bothPasswordsRead line).runOn h).1 = .ok (password, s') →
      (s'.bindPassword ≠ .null ↔ source ≠ .none) :=
    fun password s' hboth => bindPassword_ne_null_iff haccepted hsource hboth
  refine ⟨source, es, hsource, houtward, ?_⟩
  rcases hshape with rfl | ⟨bound', s', haccepted', hshape⟩
  · refine ⟨fun e he => (nomatch he), hread, fun _ => ⟨fun hbound => (nomatch hbound),
      fun hopened => (nomatch hopened), fun past oid value future hsplit => ?_⟩, fun hempty => ?_⟩
    · simp at hsplit
    · exact ⟨hneeded.mpr (by simp [hempty]), List.not_mem_nil⟩
  obtain ⟨rfl, rfl⟩ := haccepted.unique haccepted'
  refine ⟨fun e he hasks => hshape.asked hsource he hasks, hread, fun hname => ?_, fun hempty => ?_⟩
  · have hagree : source ≠ .none ↔ s'.bindDn.truthy = true := by
      rw [hneeded, hbinds]
      exact ⟨fun hsome => ⟨hsome, hname⟩, And.left⟩
    refine ⟨fun hbound => hagree.mpr (hshape.truthy_of_bound hbound), fun hopened hready => ?_,
      fun past oid value future hsplit hsome => ?_⟩
    · rw [hagree]
      exact ⟨hshape.truthy_of_bound, hshape.bindsWhenReady hopened hready⟩
    · obtain ⟨-, -, -, hboundFirst, -⟩ := (due_of_shape hshape hsplit).2
      exact hboundFirst (hagree.mp hsome)
  · refine ⟨hneeded.mpr (by simp [hempty]), fun hbound => ?_⟩
    exact (hbinds.mp (hshape.truthy_of_bound hbound)).2 hempty

/-- A line with a name to bind with, and a password for it. -/
def namedLine : List Text := ["--deregister", "--bindDN", "cn=admin", "--bindPassword", "secret"]

theorem run_binds_iff_password_named :
    ∃ bound s source es, Accepted Host.plain namedLine bound s ∧
      bindDn bound Host.plain.config ≠ some [] ∧ source ≠ .none ∧
      bindPassword bound Host.plain.config = .ok source ∧
      ((run namedLine).runOn Host.plain).2.outward = Host.plain.outward ++ es ∧ .bound ∈ es := by
  obtain ⟨bound, s, haccepted, hname⟩ : ∃ bound s, Accepted Host.plain namedLine bound s ∧
      s.bindDn.truthy = true := accepted_of_prepared (by decide +kernel)
  obtain ⟨source, es, hsource, houtward, -, -, hagree, -⟩ := run_binds_iff_password haccepted
  have hdn := (truthy_bindDn_iff haccepted).mp hname
  have hneeded := (not_congr (bindPassword_eq_none_iff haccepted hsource)).mpr hdn.1
  have hopens : ((run namedLine).runOn Host.plain).2.outward.any (· matches .opened) = true := by
    decide +kernel
  have hopened : .opened ∈ es := by
    rw [houtward, show Host.plain.outward = [] from rfl, List.nil_append,
      List.any_eq_true] at hopens
    obtain ⟨e, he, hmatch⟩ := hopens
    cases e <;> first | exact he | cases hmatch
  have hready : s.Ready Host.plain.server := ⟨rfl, fun _ => ⟨rfl, rfl⟩⟩
  exact ⟨bound, s, source, es, haccepted, hdn.2, hneeded, hsource, houtward,
    ((hagree hdn.2).2.1 hopened hready).mpr hneeded⟩

/-- A line with an empty name to bind with. -/
def namelessLine : List Text := ["--deregister", "--bindDN="]

/-- A machine whose user types a password. -/
def answeringHost : Host := { Host.plain with prompts := [.typed "secret"] }

/-- A user is asked for a password to bind with, and the request is sent without a bind. -/
theorem run_asks_in_vain :
    (∃ bound s, Accepted answeringHost namelessLine bound s) ∧
      ((run namelessLine).runOn answeringHost).2.outward.any asksPassword = true ∧
      ((bothPasswordsRead namelessLine).runOn answeringHost).1.toOption.any
        (·.2.bindPassword.truthy) = true ∧
      ((run namelessLine).runOn answeringHost).2.outward.any (· matches .extendedSent _ _) = true ∧
      ((run namelessLine).runOn answeringHost).2.outward.any (· matches .bound) = false := by
  obtain ⟨bound, s, haccepted, -⟩ : ∃ bound s, Accepted answeringHost namelessLine bound s ∧
      true = true := accepted_of_prepared (p := fun _ => true) (by decide +kernel)
  refine ⟨⟨bound, s, haccepted⟩, ?_⟩
  decide +kernel

end Registration

end OtpRegistrar
