/-
Hiding and reading stay in step, as long as no value looks like a secret option.

A command line is gone through twice, and by two different readers.  The one that
binds variables knows which tokens are values; the one that hides secrets only
knows the spellings of sensitive arguments, and takes whatever stands behind one of
them for a value.  Both agree as long as they do so on every segment, which is what
`Piece.InStep` asks: a spelling of a sensitive argument stands where an option does
and nowhere else.  Then the hidden line is the line itself with every secret value
exchanged for the mark, piece by piece.

A value that is itself such a spelling puts the two out of step: the option behind
it is hidden, and the secret behind that option is not.

What can be out of step on a line depends on the declarations too.  In a `Plain`
syntax a sensitive argument takes a value, and no token that is not the whole of an
option can be mistaken for one, so that only the values remain to be looked at.
-/
import OtpRegistrar.Log.Redaction
import OtpRegistrar.Proofs.Arguments.Declaration
import OtpRegistrar.Proofs.Arguments.Segment
import Mathlib.Data.List.Nodup
import Mathlib.Data.List.Pairwise

namespace OtpRegistrar

/-! ### The spellings of a syntax are distinct -/

namespace Argument

/-- **No two arguments of a syntax share a spelling.** -/
theorem nodup_of_ofSyntax {t : Text} {arguments : List Argument}
    (hdeclared : ofSyntax t = .ok arguments) : (arguments.flatMap spellings).Nodup :=
  (ofSyntax_eq_ok_iff.mp hdeclared).2

theorem eq_of_mem_spellings {arguments : List Argument}
    (hnodup : (arguments.flatMap spellings).Nodup) {a b : Argument} (ha : a ∈ arguments)
    (hb : b ∈ arguments) {s : Text} (hsa : s ∈ a.spellings) (hsb : s ∈ b.spellings) : a = b := by
  refine Classical.byContradiction fun hne => ?_
  obtain ⟨-, hdisjoint⟩ := List.nodup_flatMap.mp hnodup
  have hsymm : Std.Symm (Function.onFun List.Disjoint spellings) := 
    ⟨fun _ _ hab _ hb ha => hab ha hb⟩
  exact hdisjoint.forall ha hb hne hsa hsb

theorem mem_sensitiveSpellings {arguments : List Argument} {s : Text} :
    s ∈ sensitiveSpellings arguments ↔ ∃ a ∈ arguments, a.sensitive = true ∧ s ∈ a.spellings := by
  unfold sensitiveSpellings
  rw [List.mem_flatMap]
  exact ⟨fun ⟨a, ha, hs⟩ => ⟨a, (List.mem_filter.mp ha).1, (List.mem_filter.mp ha).2, hs⟩,
    fun ⟨a, ha, hsecret, hs⟩ => ⟨a, List.mem_filter.mpr ⟨ha, hsecret⟩, hs⟩⟩

/-- The declarations leave no doubt about what an option is: a sensitive argument takes a value, an
argument is not also called by its variable, and no spelling looks like one joined to a value. -/
structure Plain (arguments : List Argument) : Prop where
  valued : ∀ a ∈ arguments, a.sensitive = true → a.flag = none
  named : ∀ a ∈ arguments, a.variableName.startsWith "-" = false
  whole : ∀ a ∈ arguments, ∀ s ∈ a.spellings, Symbol.char '=' ∉ s

end Argument

/-! ### In step -/

namespace CommandLine

open Redaction

/-- The segment with its value hidden. -/
def Segment.conceal : Segment → Segment
  | alone option => alone option
  | joined option _ => joined option mark
  | apart option _ => apart option mark

namespace Piece

variable {arguments : List Argument}

/-- What is to be shown of a piece: all of it but a sensitive value. A value that looks like a
sensitive option joined to its value is not shown as a whole either. -/
def veiled (p : Piece arguments) : List Text :=
  if p.argument.sensitive then p.segment.conceal.tokens
  else
    match p.segment with
    | .apart option value =>
      [option, hideInline (Argument.sensitiveSpellings arguments) value]
    | segment => segment.tokens

/-- A spelling of a sensitive argument stands in the piece exactly where the option of a sensitive
argument does. -/
def InStep (p : Piece arguments) : Prop :=
  match p.segment with
  | .alone option => option ∉ Argument.sensitiveSpellings arguments
  | .joined option value =>
    (option ∈ Argument.sensitiveSpellings arguments ↔ p.argument.sensitive = true) ∧
      option ++ .char '=' :: value ∉ Argument.sensitiveSpellings arguments
  | .apart option value =>
    (option ∈ Argument.sensitiveSpellings arguments ↔ p.argument.sensitive = true) ∧
      (p.argument.sensitive = false → value ∉ Argument.sensitiveSpellings arguments)

end Piece

section Steps

variable {sensitive : List Text} {rest : List Text}

/-- A token that is no sensitive spelling is shown, up to a value joined to one. -/
theorem hideFrom_of_not_mem {token : Text} (htoken : token ∉ sensitive) :
    hideFrom sensitive false (token :: rest) =
      hideInline sensitive token :: hideFrom sensitive false rest := by
  rw [hideFrom, if_neg Bool.false_ne_true, if_neg (by rwa [List.contains_iff_mem])]

/-- What stands behind a sensitive spelling is hidden. -/
theorem hideFrom_of_mem {option value : Text} (hoption : option ∈ sensitive) :
    hideFrom sensitive false (option :: value :: rest) =
      option :: mark :: hideFrom sensitive false rest := by
  rw [hideFrom, if_neg Bool.false_ne_true, if_pos (List.contains_iff_mem.mpr hoption), hideFrom,
    if_pos rfl]

theorem hideInline_of_plain {token : Text} (hplain : Symbol.char '=' ∉ token) :
    hideInline sensitive token = token := by
  unfold hideInline
  rw [Text.splitFirst?_of_not_mem hplain]

theorem hideInline_joined {option : Text} (hplain : Symbol.char '=' ∉ option) (value : Text) :
    hideInline sensitive (option ++ .char '=' :: value) =
      option ++ .char '=' :: if option ∈ sensitive then mark else value := by
  unfold hideInline
  rw [Text.splitFirst?_append hplain]
  dsimp only
  by_cases hoption : option ∈ sensitive
  · rw [if_pos (List.contains_iff_mem.mpr hoption), if_pos hoption, List.append_assoc]
    rfl
  · rw [if_neg (by rwa [List.contains_iff_mem]), if_neg hoption]

theorem length_hideFrom (isValue : Bool) (line : List Text) :
    (hideFrom sensitive isValue line).length = line.length := by
  fun_induction hideFrom sensitive isValue line <;> simp_all

end Steps

section InStep

variable {arguments : List Argument}

/-- Both readers go over a piece in step. -/
theorem Piece.InStep.hideFrom_tokens {p : Piece arguments} (hstep : p.InStep)
    (rest : List Text) :
    hideFrom (Argument.sensitiveSpellings arguments) false (p.segment.tokens ++ rest) =
      p.veiled ++ hideFrom (Argument.sensitiveSpellings arguments) false rest := by
  obtain ⟨seg, a, fits⟩ := p
  unfold InStep at hstep
  unfold veiled
  cases seg with
  | alone option =>
      have hplain : Symbol.char '=' ∉ option := fits.plain
      have hshown : (if a.sensitive then (Segment.alone option).conceal.tokens else [option]) =
          [option] := ite_self _
      dsimp only [Segment.tokens] at hstep hshown ⊢
      rw [hshown, List.singleton_append, hideFrom_of_not_mem hstep, hideInline_of_plain hplain]
      rfl
  | joined option value =>
      have hplain : Symbol.char '=' ∉ option := fits.plain
      obtain ⟨hoption, htoken⟩ := hstep
      dsimp only [Segment.tokens] at hoption ⊢
      rw [List.singleton_append, hideFrom_of_not_mem htoken, hideInline_joined hplain]
      simp only [hoption]
      cases a.sensitive <;> rfl
  | apart option value =>
      have hplain : Symbol.char '=' ∉ option := fits.plain
      obtain ⟨hoption, hvalue⟩ := hstep
      dsimp only [Segment.tokens] at hoption hvalue ⊢
      cases hsecret : a.sensitive with
      | true => exact hideFrom_of_mem (hoption.mpr hsecret)
      | false =>
          have hother : option ∉ Argument.sensitiveSpellings arguments := by
            rw [hoption, hsecret]
            exact Bool.false_ne_true
          rw [List.cons_append, List.singleton_append, hideFrom_of_not_mem hother,
            hideInline_of_plain hplain, hideFrom_of_not_mem (hvalue hsecret)]
          rfl

/-- **Pieces in step are hidden one by one.** -/
theorem hideFrom_tokens {pieces : List (Piece arguments)} (hsteps : ∀ p ∈ pieces, p.InStep)
    (rest : List Text) :
    hideFrom (Argument.sensitiveSpellings arguments) false (Piece.tokens pieces ++ rest) =
      pieces.flatMap Piece.veiled ++
        hideFrom (Argument.sensitiveSpellings arguments) false rest := by
  induction pieces with
  | nil => rfl
  | cons p pieces ih =>
      obtain ⟨hstep, hsteps⟩ := List.forall_mem_cons.mp hsteps
      rw [Piece.tokens_cons, List.append_assoc, hstep.hideFrom_tokens, ih hsteps,
        List.flatMap_cons, List.append_assoc]

/-- In a plain syntax a piece has a sensitive spelling for its option exactly if its argument is
sensitive. -/
theorem Piece.option_mem_iff (hnodup : (arguments.flatMap Argument.spellings).Nodup)
    (hplain : Argument.Plain arguments) (p : Piece arguments) :
    p.segment.option ∈ Argument.sensitiveSpellings arguments ↔ p.argument.sensitive = true := by
  have hmem := p.argument_mem
  have hspelled : p.segment.option ∈ p.argument.spellings := by
    have hfits := List.find?_some p.fits.found
    rcases Bool.or_eq_true_iff.mp hfits with hspelling | hname
    · exact List.contains_iff_mem.mp hspelling
    · have hdashed := p.fits.dashed
      rw [eq_of_beq hname, hplain.named _ hmem] at hdashed
      cases hdashed
  rw [Argument.mem_sensitiveSpellings]
  constructor
  · rintro ⟨b, hb, hsecret, hoption⟩
    rw [Argument.eq_of_mem_spellings hnodup hmem hb hspelled hoption]
    exact hsecret
  · exact fun hsecret => ⟨_, hmem, hsecret, hspelled⟩

/-- In a plain syntax only a value can be out of step. -/
theorem Piece.inStep_of_plain (hnodup : (arguments.flatMap Argument.spellings).Nodup)
    (hplain : Argument.Plain arguments) {p : Piece arguments}
    (hvalue : p.argument.sensitive = false → ∀ option value, p.segment = .apart option value →
      value ∉ Argument.sensitiveSpellings arguments) : p.InStep := by
  have hiff := p.option_mem_iff hnodup hplain
  have hmem := p.argument_mem
  obtain ⟨seg, a, fits⟩ := p
  unfold InStep
  cases seg with
  | alone option =>
      intro hoption
      have hvalued := fits.valued
      rw [hplain.valued a hmem (hiff.mp hoption)] at hvalued
      cases hvalued
  | joined option value =>
      refine ⟨hiff, fun htoken => ?_⟩
      obtain ⟨b, hb, -, hspelled⟩ := Argument.mem_sensitiveSpellings.mp htoken
      exact hplain.whole b hb _ hspelled (List.mem_append_right _ List.mem_cons_self)
  | apart option value => exact ⟨hiff, fun hsecret => hvalue hsecret option value rfl⟩

theorem hideFrom_ending {sensitive ending : List Text}
    (hending : ending = [] ∨ ending = [Text.ofString "--"]) :
    hideFrom sensitive false ending = ending := by
  rcases hending with rfl | rfl
  · rfl
  · by_cases hmem : Text.ofString "--" ∈ sensitive
    · rw [hideFrom, if_neg Bool.false_ne_true, if_pos (List.contains_iff_mem.mpr hmem)]
      rfl
    · rw [hideFrom_of_not_mem hmem, hideInline_of_plain (by decide)]
      rfl

end InStep

/-- **Hiding agrees with reading, piece by piece.** The hidden line is as long as the line that is
read.  If all its pieces are in step it is made of them with every sensitive value hidden; and in a
plain syntax they are, as long as no value of another argument is a sensitive spelling. -/
theorem hide_agrees {t : Text} {homes : Homes} {arguments : List Argument} {line : List Text}
    {bound : Bindings} (hdeclared : Argument.ofSyntax t = .ok arguments)
    (hread : read homes arguments line = (bound, .ok ())) :
    ∃ (pieces : List (Piece arguments)) (ending : List Text),
      Consists homes line [] pieces bound ∧ line = Piece.tokens pieces ++ ending ∧
      (hide (Argument.sensitiveSpellings arguments) line).length = line.length ∧
      ((∀ p ∈ pieces, p.InStep) →
        hide (Argument.sensitiveSpellings arguments) line =
          pieces.flatMap Piece.veiled ++ ending) ∧
      (Argument.Plain arguments →
        (∀ p ∈ pieces, p.argument.sensitive = false → ∀ option value,
          p.segment = .apart option value → value ∉ Argument.sensitiveSpellings arguments) →
        ∀ p ∈ pieces, p.InStep) := by
  obtain ⟨pieces, hconsists⟩ := consists_of_read hread
  obtain ⟨ending, hending, hline⟩ := hconsists.ends
  refine ⟨pieces, ending, hconsists, hline, length_hideFrom false line, fun hsteps => ?_,
    fun hplain hvalues p hp => ?_⟩
  · rw [hline, hide, hideFrom_tokens hsteps, hideFrom_ending hending]
  · exact Piece.inStep_of_plain (Argument.nodup_of_ofSyntax hdeclared) hplain (hvalues p hp)

/-- A user, and a password that is not to be shown. -/
def loginSyntax : Text := "--authID|--auth-id :auth_id: --userPassword|--user-password :!password:"

def loginArguments : List Argument :=
  [⟨"--authID", ["--auth-id"], "auth_id", none, false, false, false⟩,
   ⟨"--userPassword", ["--user-password"], "password", none, false, true, false⟩]

/-- A line that is hidden as it is read. -/
def loginLine : List Text := ["--authID", "u:tester", "--user-password", "secret", "--"]

def loginBound : Bindings := [("auth_id", .text "u:tester"), ("password", .text "secret")]

/-- What the line consists of. -/
def loginPieces : List (Piece loginArguments) :=
  [⟨.apart "--authID" "u:tester", loginArguments[0],
      ⟨rfl, rfl, by decide +kernel, fun _ => by decide +kernel, rfl⟩⟩,
   ⟨.apart "--user-password" "secret", loginArguments[1],
      ⟨rfl, rfl, by decide +kernel, fun _ => by decide +kernel, rfl⟩⟩]

theorem hide_agrees_login :
    Argument.ofSyntax loginSyntax = .ok loginArguments ∧
    read (.own []) loginArguments loginLine = (loginBound, .ok ()) ∧
    Consists (.own []) loginLine [] loginPieces loginBound ∧ (∀ p ∈ loginPieces, p.InStep) ∧
    hide (Argument.sensitiveSpellings loginArguments) loginLine =
      (["--authID", "u:tester", "--user-password", mark, "--"] : List Text) := by
  have hdeclared : Argument.ofSyntax loginSyntax = .ok loginArguments := by decide +kernel
  have hread : read (.own []) loginArguments loginLine = (loginBound, .ok ()) := by rfl
  obtain ⟨pieces, ending, hconsists, hline, -, hhidden, hplain⟩ := hide_agrees hdeclared hread
  obtain ⟨ending', hending', hline'⟩ := hconsists.ends
  obtain rfl : pieces = loginPieces := Piece.eq_of_tokens hending'
    (.inr rfl : [Text.ofString "--"] = [] ∨ _) (hline'.symm.trans rfl)
  obtain rfl : ending = ["--"] := List.append_cancel_left (hline.symm.trans rfl)
  have hsteps : ∀ p ∈ loginPieces, p.InStep := by
    refine hplain ⟨by decide +kernel, by decide +kernel, by decide +kernel⟩ ?_
    intro p hp hshown option value hsegment
    rcases List.mem_pair.mp hp with rfl | rfl
    · cases hsegment
      decide +kernel
    · cases hshown
  exact ⟨hdeclared, hread, hconsists, hsteps, (hhidden hsteps).trans rfl⟩

/-- A line whose user is a sensitive spelling. -/
def decoyLine : List Text := ["--authID", "--userPassword", "--userPassword", "secret"]

/-- The password is shown, although it is bound to a sensitive argument. -/
theorem hide_shows_secret :
    Argument.ofSyntax loginSyntax = .ok loginArguments ∧
    (read (.own []) loginArguments decoyLine).2 = .ok () ∧
    ((read (.own []) loginArguments decoyLine).1.get? "password").bind Value.text? =
      some (Text.ofString "secret") ∧
    Text.ofString "secret" ∈ hide (Argument.sensitiveSpellings loginArguments) decoyLine := by
  refine ⟨?_, rfl, ?_, ?_⟩ <;> decide +kernel

end CommandLine

end OtpRegistrar
