/-
What password a source gives.

A source is read as bytes, and a text is what they spell.  `Gives` says which text this
is without any bytes: the one that was given, the first line of the file, the answer
that is next.  It also says which answers are left, and this is how two sources that
are read one behind the other share the prompt.

A source that gives a password is read as its bytes, and one that is read gives one;
so everything later on can be said of texts.
-/
import OtpRegistrar.Proofs.Password.FirstLine

namespace OtpRegistrar

open Text (FirstLineShows firstLineBytes isUtf8 toBytes)

namespace PasswordSource

/-- With these files, and these answers to come at the prompt, the source gives the password, if
there is to be one, and leaves the rest of the answers. -/
inductive Gives (files : FileTree) :
    List PromptAnswer → PasswordSource → Option Text → List PromptAnswer → Prop
  | none {answers : List PromptAnswer} : Gives files answers .none Option.none answers
  | inline {answers : List PromptAnswer} {t : Text} (ht : isUtf8 t = true) :
      Gives files answers (.inline t) (some t) answers
  /-- The first line of a file is a password if it is not empty. -/
  | file {answers : List PromptAnswer} {path t : Text} {content : List UInt8}
      (hnul : FileTree.hasNul path = false) (hfile : files.read path = .ok content)
      (hshows : FirstLineShows content) (ht : isUtf8 t = true) (hsome : t ≠ [])
      (hline : toBytes t = firstLineBytes content) :
      Gives files answers (.file path) (some t) answers
  | prompt {account : Option Text} {question t : Text} {rest : List PromptAnswer}
      (ht : isUtf8 t = true) :
      Gives files (.typed t :: rest) (.prompt account question) (some t) rest

namespace Gives

variable {files : FileTree} {answers rest rest' : List PromptAnswer} {source : PasswordSource}
  {given given' : Option Text}

theorem utf8 (hgives : Gives files answers source given rest) {t : Text} (ht : given = some t) :
    isUtf8 t = true := by
  cases hgives with
  | none => cases ht
  | inline hutf8 | file _ _ _ hutf8 | prompt hutf8 => exact Option.some.inj ht ▸ hutf8

theorem some_of_ne_none (hgives : Gives files answers source given rest)
    (hneeded : source ≠ .none) : ∃ t, given = some t := by
  cases hgives with
  | none => exact absurd rfl hneeded
  | inline | file | prompt => exact ⟨_, rfl⟩

/-- **A source gives one password at most.** -/
theorem unique (hgives : Gives files answers source given rest)
    (hgives' : Gives files answers source given' rest') : given = given' ∧ rest = rest' := by
  cases hgives with
  | none =>
      cases hgives'
      exact ⟨rfl, rfl⟩
  | inline ht =>
      cases hgives'
      exact ⟨rfl, rfl⟩
  | file _ hfile _ ht _ hline =>
      cases hgives' with
      | file _ hfile' _ ht' _ hline' =>
          rw [hfile] at hfile'
          cases hfile'
          exact ⟨congrArg some (Text.toBytes_injective ht ht' (hline.trans hline'.symm)), rfl⟩
  | prompt ht =>
      cases hgives'
      exact ⟨rfl, rfl⟩

end Gives

end PasswordSource

namespace Action

open PasswordSource

variable {h h₁ : Host} {source : PasswordSource}

/-- **A password that is read is one that its source gives.** -/
theorem gives_of_readPassword {password : Option (List UInt8)}
    (hread : (readPassword source).runOn h = (.ok password, h₁)) :
    ∃ given, Gives h.files h.prompts source given h₁.prompts ∧ password = given.map toBytes ∧
      h₁.files = h.files := by
  cases source with
  | none =>
      cases hread
      exact ⟨none, .none, rfl, rfl⟩
  | unsettled => cases hread
  | inline t =>
      obtain ⟨bytes, rfl, hwritten⟩ := runOn_some_inv hread
      obtain ⟨hgiven, rfl⟩ := runOn_orFail_inv hwritten
      obtain ⟨hutf8, rfl⟩ := ofText_eq_ok_iff.mp hgiven
      exact ⟨some t, .inline hutf8, rfl, rfl⟩
  | file path =>
      obtain ⟨bytes, rfl, hreading⟩ := runOn_some_inv hread
      obtain ⟨rfl, content, hnul, hfile, hfound⟩ := readPasswordFile_ok hreading
      obtain ⟨hshows, hsome, rfl⟩ := ofFile_eq_ok_iff.mp hfound
      obtain ⟨t, hutf8, hline⟩ := spelled_of_ofFile hfound
      refine ⟨some t, .file hnul hfile hshows hutf8 ?_ hline, congrArg some hline.symm, rfl⟩
      rintro rfl
      exact hsome hline.symm
  | prompt account question =>
      obtain ⟨bytes, rfl, hprompt⟩ := runOn_some_inv hread
      obtain ⟨t, rest, hnext, htyped, rfl⟩ := readPrompt_ok hprompt
      obtain ⟨hutf8, rfl⟩ := ofText_eq_ok_iff.mp htyped
      rw [hnext]
      exact ⟨some t, .prompt hutf8, rfl, rfl⟩

/-- **A password that a source gives is read**, as its bytes. -/
theorem readPassword_of_gives {given : Option Text} {rest : List PromptAnswer}
    (hgives : Gives h.files h.prompts source given rest) :
    ∃ h₁, (readPassword source).runOn h = (.ok (given.map toBytes), h₁) ∧ h₁.prompts = rest ∧
      h₁.files = h.files := by
  generalize hanswers : h.prompts = answers at hgives
  cases hgives with
  | none => exact ⟨h, rfl, hanswers, rfl⟩
  | @inline _ t ht =>
      have hgiven : ofText t = .ok (toBytes t) := ofText_eq_ok_iff.mpr ⟨ht, rfl⟩
      refine ⟨h, ?_, hanswers, rfl⟩
      unfold readPassword
      rw [runOn_map, runOn_orFail, hgiven]
      rfl
  | @file _ path t content hnul hfile hshows ht hsome hline =>
      have hempty : firstLineBytes content ≠ [] := by
        rw [← hline]
        exact mt (Text.toBytes_eq_nil_iff ht).mp hsome
      refine ⟨h.note (.passwordFileRead path), ?_, hanswers, rfl⟩
      unfold readPassword
      rw [runOn_map, runOn_readPasswordFile hnul hfile, ofFile_of_shows hshows, if_neg hempty,
        ← hline]
      rfl
  | @prompt account question t _ ht =>
      have htyped : ofText t = .ok (toBytes t) := ofText_eq_ok_iff.mpr ⟨ht, rfl⟩
      refine ⟨{ h.note (.prompted question) with prompts := rest }, ?_, rfl, rfl⟩
      have hasked : (ask question).runOn h =
          (.ok t, { h.note (.prompted question) with prompts := rest }) := by
        unfold ask
        rw [runOn_ofFunction]
        dsimp only [Host.note]
        rw [hanswers]
      unfold readPassword readPrompt
      rw [runOn_map, runOn_attempt_bind, hasked]
      dsimp only
      rw [runOn_orFail, htyped]
      rfl

end Action

end OtpRegistrar
