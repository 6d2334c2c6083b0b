/-
What a password is when it has been read.

A password comes from its source in one step that leaves the host as it is but for
the event it notes and the answer it takes.  `Yields` lists those steps that end
with a password, and everything later on is read off it: the bytes of a password
always spell a text, and two sources that differ in the password alone leave twins
as twins.
-/
import OtpRegistrar.Password.Reading
import OtpRegistrar.Proofs.Directory.DeviceRequest
import OtpRegistrar.Proofs.Host.Twin
import OtpRegistrar.Proofs.Text.Utf8

namespace OtpRegistrar

/-- Only a text without stray symbols is written. -/
theorem Text.isUtf8_of_encode {t : Text} {bytes : List UInt8}
    (hwritten : Text.encode t = .ok bytes) : Text.isUtf8 t = true := by
  unfold Text.encode at hwritten
  split at hwritten
  · rename_i hnone
    exact List.all_eq_true.mpr (List.dropWhile_eq_nil_iff.mp hnone)
  · cases hwritten

/-- The bytes spell a text. -/
def Spelled (bytes : List UInt8) : Prop := ∃ t, Text.isUtf8 t = true ∧ Text.toBytes t = bytes

namespace PasswordSource

/-- A text is given as its bytes, if it has any. -/
theorem ofText_eq_ok_iff {t : Text} {bytes : List UInt8} :
    ofText t = .ok bytes ↔ Text.isUtf8 t = true ∧ Text.toBytes t = bytes := by
  constructor
  · intro hgiven
    unfold ofText at hgiven
    split at hgiven
    · rename_i hwritten
      cases hgiven
      have hutf8 := Text.isUtf8_of_encode hwritten
      rw [Text.encode_of_isUtf8 hutf8] at hwritten
      exact ⟨hutf8, Except.ok.inj hwritten⟩
    · cases hgiven
  · rintro ⟨hutf8, rfl⟩
    unfold ofText
    rw [Text.encode_of_isUtf8 hutf8]

theorem spelled_of_ofText {t : Text} {bytes : List UInt8} (hgiven : ofText t = .ok bytes) :
    Spelled bytes := ⟨t, ofText_eq_ok_iff.mp hgiven⟩

theorem spelled_of_ofFile {path : Text} {content bytes : List UInt8}
    (hfound : ofFile path content = .ok bytes) : Spelled bytes := by
  unfold ofFile at hfound
  split at hfound
  · cases hfound
  · cases hfound
  · rename_i line _ hline
    cases hfound
    exact ⟨line, Text.isUtf8_of_firstLine hline, rfl⟩

/-- On the host the source yields the password, if there is to be one, and leaves the other host. -/
inductive Yields (h : Host) : PasswordSource → Option (List UInt8) → Host → Prop
  | none : Yields h .none Option.none h
  | inline {t : Text} {bytes : List UInt8} (hgiven : ofText t = .ok bytes) :
      Yields h (.inline t) (some bytes) h
  | file {path : Text} {content bytes : List UInt8} (hfound : ofFile path content = .ok bytes) :
      Yields h (.file path) (some bytes) (h.note (.passwordFileRead path))
  | prompt {account : Option Text} {question t : Text} {rest : List PromptAnswer}
      {bytes : List UInt8} (htyped : ofText t = .ok bytes) :
      Yields h (.prompt account question) (some bytes)
        { h.note (.prompted question) with prompts := rest }

namespace Yields

variable {h h₁ : Host} {source : PasswordSource} {password : Option (List UInt8)}

theorem isSome_iff (hyields : Yields h source password h₁) :
    password.isSome = true ↔ source ≠ .none := by
  cases hyields <;> simp

theorem spelled (hyields : Yields h source password h₁) {bytes : List UInt8}
    (hbytes : password = some bytes) : Spelled bytes := by
  cases hyields with
  | none => cases hbytes
  | inline hgiven | prompt hgiven => exact Option.some.inj hbytes ▸ spelled_of_ofText hgiven
  | file hfound => exact Option.some.inj hbytes ▸ spelled_of_ofFile hfound

end Yields

/-- No password is needed if and only if no place of one is named. -/
theorem eq_none_iff_of_choose {password path account : Option Text} {asked : Bool} {question : Text}
    {source : PasswordSource}
    (hchosen : choose password path asked account question = .ok source) :
    source = .none ↔ password = Option.none ∧ path = Option.none ∧ asked = false := by
  unfold choose at hchosen
  split at hchosen
  · cases hchosen
    simp
  · cases hchosen
    simp
  · cases asked with
    | false =>
        cases hchosen
        simp
    | true =>
        cases hrender : Template.render [("account", Value.ofText? account)] question with
        | error e =>
            rw [hrender] at hchosen
            cases hchosen
        | ok shown =>
            rw [hrender] at hchosen
            cases hchosen
            simp

/-- Two sources are the same but for the password that the command line holds. -/
inductive Twin : PasswordSource → PasswordSource → Prop
  | none : Twin .none .none
  | inline (t t' : Text) : Twin (.inline t) (.inline t')
  | file (path : Text) : Twin (.file path) (.file path)
  | prompt (account : Option Text) (question : Text) :
      Twin (.prompt account question) (.prompt account question)

/-- Twin sources leave twins as twins. -/
theorem Twin.yields {B : Bindings → Bindings → Prop} {h h' h₁ h₁' : Host}
    {source source' : PasswordSource} {password password' : Option (List UInt8)}
    (hsources : Twin source source') (hhosts : Host.Twin B h h')
    (hyields : Yields h source password h₁) (hyields' : Yields h' source' password' h₁') :
    Host.Twin B h₁ h₁' := by
  cases hsources with
  | none =>
      cases hyields
      cases hyields'
      exact hhosts
  | inline t t' =>
      cases hyields
      cases hyields'
      exact hhosts
  | file path =>
      cases hyields
      cases hyields'
      exact hhosts.noted rfl
  | prompt account question =>
      cases hyields
      cases hyields'
      exact { hhosts.noted (e := .prompted question) rfl with }

/-- Sources are chosen alike if on both sides the same is named. -/
theorem twin_of_choose {password password' path account : Option Text} {asked : Bool}
    {question : Text} {source source' : PasswordSource}
    (hgiven : password'.isSome = password.isSome)
    (hchosen : choose password path asked account question = .ok source)
    (hchosen' : choose password' path asked account question = .ok source') :
    Twin source source' := by
  cases password with
  | some p =>
      obtain ⟨p', rfl⟩ := Option.isSome_iff_exists.mp hgiven
      cases hchosen
      cases hchosen'
      exact .inline p p'
  | none =>
      rw [Option.isSome_none, Option.isSome_eq_false_iff, Option.isNone_iff_eq_none] at hgiven
      rw [hgiven, hchosen] at hchosen'
      cases hchosen'
      unfold choose at hchosen
      cases path with
      | some path =>
          cases hchosen
          exact .file path
      | none =>
          cases asked with
          | false =>
              cases hchosen
              exact .none
          | true =>
              cases hrender : Template.render [("account", Value.ofText? account)] question with
              | error e =>
                  rw [hrender] at hchosen
                  cases hchosen
              | ok rendered =>
                  rw [hrender] at hchosen
                  cases hchosen
                  exact .prompt account rendered

end PasswordSource

namespace Action

open PasswordSource

theorem runOn_some_inv {α : Type} {a : Action α} {h h₁ : Host} {x? : Option α}
    (hrun : (some <$> a).runOn h = (.ok x?, h₁)) :
    ∃ x, x? = some x ∧ a.runOn h = (.ok x, h₁) := by
  rw [runOn_map] at hrun
  rcases ha : a.runOn h with ⟨r, h'⟩
  rw [ha] at hrun
  cases r with
  | error f => cases hrun
  | ok x =>
      cases hrun
      exact ⟨x, rfl, rfl⟩

theorem readPasswordFile_ok {path : Text} {bytes : List UInt8} {h h₁ : Host}
    (hrun : (readPasswordFile path).runOn h = (.ok bytes, h₁)) :
    h₁ = h.note (.passwordFileRead path) ∧ ∃ content, FileTree.hasNul path = false ∧
      h.files.read path = .ok content ∧ ofFile path content = .ok bytes := by
  unfold readPasswordFile at hrun
  rw [runOn_ofFunction] at hrun
  dsimp only at hrun
  split at hrun
  · cases hrun
  · rename_i hnul
    split at hrun
    · cases hrun
    · rename_i content hfile
      cases hfound : ofFile path content with
      | error e =>
          rw [hfound] at hrun
          cases hrun
      | ok line =>
          rw [hfound] at hrun
          cases hrun
          exact ⟨rfl, content, Bool.eq_false_iff.mpr hnul, hfile, hfound⟩

theorem ask_cases (question : Text) (h : Host) :
    (∃ f g, (ask question).runOn h = (.error f, g)) ∨
    ∃ t rest, h.prompts = .typed t :: rest ∧ (ask question).runOn h =
      (.ok t, { h.note (.prompted question) with prompts := rest }) := by
  unfold ask
  rw [runOn_ofFunction]
  dsimp only
  split
  · exact .inl ⟨_, _, rfl⟩
  · exact .inr ⟨_, _, ‹_›, rfl⟩
  · exact .inl ⟨_, _, rfl⟩

theorem readPrompt_ok {account : Option Text} {question : Text} {bytes : List UInt8} {h h₁ : Host}
    (hrun : (readPrompt account question).runOn h = (.ok bytes, h₁)) :
    ∃ t rest, h.prompts = .typed t :: rest ∧ ofText t = .ok bytes ∧
      h₁ = { h.note (.prompted question) with prompts := rest } := by
  unfold readPrompt at hrun
  rw [runOn_attempt_bind] at hrun
  rcases ask_cases question h with ⟨f, g, hasked⟩ | ⟨t, rest, hnext, hasked⟩
  · rw [hasked] at hrun
    dsimp only at hrun
    split at hrun <;> cases hrun
  · rw [hasked] at hrun
    obtain ⟨htyped, rfl⟩ := runOn_orFail_inv hrun
    exact ⟨t, rest, hnext, htyped, rfl⟩

/-- **What reading a password can end with.** -/
theorem yields_of_readPassword {source : PasswordSource} {password : Option (List UInt8)}
    {h h₁ : Host} (hread : (readPassword source).runOn h = (.ok password, h₁)) :
    Yields h source password h₁ := by
  cases source with
  | none =>
      cases hread
      exact .none
  | unsettled => cases hread
  | inline t =>
      obtain ⟨bytes, rfl, hwritten⟩ := runOn_some_inv hread
      obtain ⟨hgiven, rfl⟩ := runOn_orFail_inv hwritten
      exact .inline hgiven
  | file path =>
      obtain ⟨bytes, rfl, hfile⟩ := runOn_some_inv hread
      obtain ⟨rfl, content, -, -, hfound⟩ := readPasswordFile_ok hfile
      exact .file hfound
  | prompt account question =>
      obtain ⟨bytes, rfl, hprompt⟩ := runOn_some_inv hread
      obtain ⟨t, rest, -, htyped, rfl⟩ := readPrompt_ok hprompt
      exact .prompt htyped

/-- What is encoded where a password is read is decoded where it is sent. -/
theorem decoded_toBytes {t : Text} (ht : Text.isUtf8 t = true) :
    decoded (.bytes (Text.toBytes t)) = pure (.text t) := by
  unfold decoded
  dsimp only
  rw [Text.decode_toBytes ht]
  rfl

/-- A password that spells a text can be sent. -/
theorem decoded_spelled {bytes : List UInt8} (hspelled : Spelled bytes) :
    ∃ t, decoded (.bytes bytes) = pure (.text t) := by
  obtain ⟨t, hutf8, rfl⟩ := hspelled
  exact ⟨t, decoded_toBytes hutf8⟩

end Action

end OtpRegistrar
