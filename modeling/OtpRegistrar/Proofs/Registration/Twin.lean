/-
Command lines that differ in their secrets alone.

Two lines are twins if they are read as the same pieces, but for the values of
sensitive arguments; none of the other values may be a spelling of such an
argument, or the line would be hidden differently from how it is read.  What such
lines bind differs in two variables, and even there something is bound on both
sides or on none.

Everything a run decides before a password is read depends on the variables other
than these two, and on whether the two are bound.  So the checks come out the same
and the settings are the same, and both passwords come from sources of one kind.
-/
import OtpRegistrar.Proofs.Arguments.Constraint
import OtpRegistrar.Proofs.Arguments.Redaction
import OtpRegistrar.Proofs.Password.Reading
import OtpRegistrar.Proofs.Registration.Stages
import Mathlib.Data.List.Forall2

namespace OtpRegistrar

namespace CommandLine

variable {arguments : List Argument}

/-- Two pieces are the same, but for the value of a sensitive argument. -/
structure Piece.Twin (p p' : Piece arguments) : Prop where
  argument : p'.argument = p.argument
  segment : p.argument.sensitive = false → p'.segment = p.segment
  concealed : p'.segment.conceal = p.segment.conceal

namespace Piece.Twin

variable {p p' : Piece arguments}

theorem refl (p : Piece arguments) : Twin p p := ⟨rfl, fun _ => rfl, rfl⟩

theorem name (htwin : Twin p p') : p'.name = p.name := congrArg Argument.variableName htwin.argument

/-- What is shown of a piece is shown of its twin. -/
theorem veiled (htwin : Twin p p') : p'.veiled = p.veiled := by
  unfold Piece.veiled
  rw [htwin.argument, htwin.concealed]
  cases hsecret : p.argument.sensitive with
  | true => rfl
  | false => rw [htwin.segment hsecret]

theorem value (htwin : Twin p p') (hsecret : p.argument.sensitive = false) (homes : Homes) :
    p'.value homes = p.value homes := by
  unfold Piece.value
  rw [htwin.argument, htwin.segment hsecret]

/-- There is a text in both of two twins, or in none. -/
theorem text?_isSome (htwin : Twin p p') (homes : Homes) :
    (p'.value homes).text?.isSome = (p.value homes).text?.isSome := by
  have hconcealed := htwin.concealed
  unfold Piece.value
  rw [htwin.argument]
  cases hseg : p.segment <;> cases hseg' : p'.segment <;> rw [hseg, hseg'] at hconcealed <;>
    first | rfl | cases hconcealed

end Piece.Twin

/-- The variable of an argument is bound to the value of the first piece that is about it. -/
theorem Consists.get?_twin {homes : Homes} {line line' : List Text} {bound bound' : Bindings}
    {pieces pieces' : List (Piece arguments)} (hconsists : Consists homes line [] pieces bound)
    (hconsists' : Consists homes line' [] pieces' bound')
    (htwins : List.Forall₂ Piece.Twin pieces pieces') (name : Text) :
    bound.get? name = none ∧ bound'.get? name = none ∨
    ∃ p p' : Piece arguments, Piece.Twin p p' ∧ p.name = name ∧
      bound.get? name = some (p.value homes) ∧ bound'.get? name = some (p'.value homes) := by
  rw [hconsists.get?_eq, hconsists'.get?_eq]
  clear hconsists hconsists'
  induction htwins with
  | nil => exact .inl ⟨rfl, rfl⟩
  | @cons p p' ps ps' htwin _ ih =>
      rw [List.find?_cons, List.find?_cons, htwin.name]
      cases hname : p.name == name with
      | true => exact .inr ⟨p, p', htwin, eq_of_beq hname, rfl, rfl⟩
      | false => exact ih

end CommandLine

namespace Registration

open OtpRegistrar.CommandLine

/-! ### Lines -/

/-- The value of an argument that is not sensitive is no spelling of a sensitive one. -/
def Harmless (p : Piece arguments) : Prop :=
  p.argument.sensitive = false → ∀ option value, p.segment = .apart option value →
    value ∉ Argument.sensitiveSpellings arguments

/-- Two command lines are the same, token for token, but for the values of sensitive arguments, and
no other value that is a token of its own is a spelling of a sensitive argument. -/
def TwinLines (line line' : List Text) : Prop :=
  ∃ (pieces pieces' : List (Piece arguments)) (ending : List Text),
    line = Piece.tokens pieces ++ ending ∧ line' = Piece.tokens pieces' ++ ending ∧
    (ending = [] ∨ ending = [Text.ofString "--"]) ∧ List.Forall₂ Piece.Twin pieces pieces' ∧
    ∀ p ∈ pieces, Harmless p

theorem nodup_spellings : (arguments.flatMap Argument.spellings).Nodup := by
  -- numbers are compared faster than texts, and as they differ so do the spellings
  have hcodes : ((arguments.flatMap Argument.spellings).map
      fun t => t.foldl (fun n s => n * 256 + s.code) 0).Nodup := by decide +kernel
  exact hcodes.of_map

theorem plain_arguments : Argument.Plain arguments :=
  ⟨by decide +kernel, by decide +kernel, by decide +kernel⟩

/-- The command line is hidden as it is read. -/
theorem hide_tokens {pieces : List (Piece arguments)} {ending : List Text}
    (hending : ending = [] ∨ ending = [Text.ofString "--"])
    (hharmless : ∀ p ∈ pieces, Harmless p) :
    Redaction.hide (Argument.sensitiveSpellings arguments) (Piece.tokens pieces ++ ending) =
      pieces.flatMap Piece.veiled ++ ending := by
  rw [Redaction.hide, hideFrom_tokens fun p hp =>
    Piece.inStep_of_plain nodup_spellings plain_arguments (hharmless p hp), hideFrom_ending hending]

/-- Of two twin lines the same is shown. -/
theorem TwinLines.invocationEntry {line line' : List Text} (hlines : TwinLines line line') :
    invocationEntry line' = invocationEntry line := by
  obtain ⟨pieces, pieces', ending, rfl, rfl, hending, htwins, hharmless⟩ := hlines
  have hshown : (∀ p' ∈ pieces', Harmless p') ∧
      pieces'.flatMap Piece.veiled = pieces.flatMap Piece.veiled := by
    induction htwins with
    | nil => exact ⟨(fun _ hp => nomatch hp), rfl⟩
    | @cons p p' ps ps' htwin _ ih =>
        obtain ⟨hp, hps⟩ := List.forall_mem_cons.mp hharmless
        obtain ⟨hps', hsame⟩ := ih hps
        refine ⟨List.forall_mem_cons.mpr ⟨fun hsecret => ?_, hps'⟩, ?_⟩
        · rw [htwin.argument] at hsecret
          rw [htwin.segment hsecret]
          exact hp hsecret
        · rw [List.flatMap_cons, List.flatMap_cons, htwin.veiled, hsame]
  unfold Registration.invocationEntry
  rw [hide_tokens hending hharmless, hide_tokens hending hshown.1, hshown.2]

/-! ### What they bind -/

/-- The variables that hold a secret. -/
def secretNames : List Text := ["user_password", "bind_password"]

/-- The same is bound, but for the secrets; where there is a secret on one side there is one on the
other. -/
structure TwinBindings (bound bound' : Bindings) : Prop where
  has : ∀ name, bound'.has name = bound.has name
  get? : ∀ name, name ∉ secretNames → bound'.get? name = bound.get? name
  given : ∀ name, (textArgument bound' name).isSome = (textArgument bound name).isSome

theorem Bindings.has_eq_isSome (bound : Bindings) (name : Text) :
    bound.has name = (bound.get? name).isSome := by
  unfold Bindings.has Bindings.get?
  rw [Option.isSome_map, List.isSome_find?]

/-- **Twin lines bind the same but for the secrets.** -/
theorem TwinLines.bindings {homes : Homes} {line line' : List Text} {bound bound' : Bindings}
    (hlines : TwinLines line line') (hread : read homes arguments line = (bound, .ok ()))
    (hread' : read homes arguments line' = (bound', .ok ())) : TwinBindings bound bound' := by
  obtain ⟨given, hconsists⟩ := consists_of_read hread
  obtain ⟨given', hconsists'⟩ := consists_of_read hread'
  obtain ⟨pieces, pieces', ending, hline, hline', hending, htwins, -⟩ := hlines
  obtain rfl : given = pieces := by
    obtain ⟨ending₀, hending₀, hline₀⟩ := hconsists.ends
    exact Piece.eq_of_tokens hending₀ hending (hline₀.symm.trans hline)
  obtain rfl : given' = pieces' := by
    obtain ⟨ending₀, hending₀, hline₀⟩ := hconsists'.ends
    exact Piece.eq_of_tokens hending₀ hending (hline₀.symm.trans hline')
  have hfound := hconsists.get?_twin hconsists' htwins
  refine ⟨fun name => ?_, fun name hname => ?_, fun name => ?_⟩
  · rw [Bindings.has_eq_isSome, Bindings.has_eq_isSome]
    rcases hfound name with ⟨hnone, hnone'⟩ | ⟨p, p', -, -, hsome, hsome'⟩
    · rw [hnone, hnone']
    · rw [hsome, hsome']
      rfl
  · rcases hfound name with ⟨hnone, hnone'⟩ | ⟨p, p', htwin, rfl, hsome, hsome'⟩
    · rw [hnone, hnone']
    · have hopen : p.argument.sensitive = false := by
        have hsecrets : ∀ a ∈ arguments, a.sensitive = true → a.variableName ∈ secretNames := by
          decide +kernel
        exact Bool.eq_false_iff.mpr fun hsecret => hname (hsecrets _ p.argument_mem hsecret)
      rw [hsome, hsome', htwin.value hopen]
  · unfold textArgument
    rcases hfound name with ⟨hnone, hnone'⟩ | ⟨p, p', htwin, -, hsome, hsome'⟩
    · rw [hnone, hnone']
    · rw [hsome, hsome']
      exact htwin.text?_isSome homes

/-! ### What a run decides -/

namespace TwinBindings

variable {bound bound' : Bindings}

theorem textArgument (hbound : TwinBindings bound bound') {name : Text}
    (hname : name ∉ secretNames) :
    textArgument bound' name = textArgument bound name := by
  unfold Registration.textArgument
  rw [hbound.get? name hname]

theorem otp (hbound : TwinBindings bound bound') : otp bound' = otp bound :=
  hbound.textArgument (by decide)

theorem authId (hbound : TwinBindings bound bound') : authId bound' = authId bound :=
  hbound.textArgument (by decide)

theorem userName (hbound : TwinBindings bound bound') : userName bound' = userName bound := by
  unfold Registration.userName
  rw [hbound.authId]

theorem deregisters (hbound : TwinBindings bound bound') :
    deregisters bound' = deregisters bound := hbound.has _

theorem bindDn (hbound : TwinBindings bound bound') (config : Config) :
    bindDn bound' config = bindDn bound config := by
  unfold Registration.bindDn
  rw [hbound.textArgument (by decide)]

theorem checkAll (hbound : TwinBindings bound bound') (constraints : List Constraint) :
    Constraint.checkAll arguments bound' constraints =
      Constraint.checkAll arguments bound constraints :=
  Constraint.checkAll_congr hbound.has constraints

theorem check (hbound : TwinBindings bound bound') : check bound' = check bound := by
  unfold Registration.check sentNames isUtf8Argument
  rw [hbound.has, hbound.has]
  simp (disch := decide) only [List.find?_cons, List.find?_nil, hbound.textArgument]

theorem settings (hbound : TwinBindings bound bound') (config : Config) (password : Value) :
    settings bound' config password = settings bound config password := by
  unfold Registration.settings saidSettings valueOr switchOf namesSecurity numberArgument
  rw [hbound.bindDn]
  simp (disch := decide) only [hbound.has, hbound.get?]

/-- The password of the user comes from twin sources. -/
theorem userPassword (hbound : TwinBindings bound bound') {source source' : PasswordSource}
    (hsource : userPassword bound = .ok source) (hsource' : userPassword bound' = .ok source') :
    source.Twin source' := by
  unfold Registration.userPassword at hsource hsource'
  have hfile : Registration.textArgument bound' "user_password_file" =
      Registration.textArgument bound "user_password_file" := hbound.textArgument (by decide)
  rw [hfile, hbound.has, hbound.authId] at hsource'
  exact PasswordSource.twin_of_choose (hbound.given _) hsource hsource'

/-- The password to bind with comes from twin sources. -/
theorem bindPassword (hbound : TwinBindings bound bound') {config : Config}
    {source source' : PasswordSource} (hsource : bindPassword bound config = .ok source)
    (hsource' : bindPassword bound' config = .ok source') : source.Twin source' := by
  unfold Registration.bindPassword at hsource hsource'
  have hnone : (Registration.textArgument bound' "bind_password").isNone =
      (Registration.textArgument bound "bind_password").isNone := by
    rw [← Option.not_isSome, ← Option.not_isSome, hbound.given]
  have hfile : Registration.textArgument bound' "bind_password_file" =
      Registration.textArgument bound "bind_password_file" := hbound.textArgument (by decide)
  rw [hfile, hbound.has, hbound.bindDn] at hsource'
  dsimp only at hsource hsource'
  rw [hnone] at hsource'
  exact PasswordSource.twin_of_choose (hbound.given _) hsource hsource'

end TwinBindings

end Registration

end OtpRegistrar
