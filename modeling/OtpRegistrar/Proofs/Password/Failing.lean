/-
What reading a password fails with.

Whatever a source holds that is no password, and whatever a prompt answers instead of
one, is a password that cannot be read.  Nothing else goes wrong, with one exception:
a path that holds a NUL names no file, and the attempt to open it is another failure.
A source can always be chosen, since the questions that are asked at a prompt are
templates which can be filled in with any account.
-/
import OtpRegistrar.Proofs.Arguments.NulFree
import OtpRegistrar.Proofs.Password.Reading

namespace OtpRegistrar

/-! ### Questions -/

namespace Template

/-- The piece is a text, or a place for the account as it is. -/
def Piece.asksAccount : Piece → Bool
  | .plain _ => true
  | .place p => p.name == Text.ofString "account" && p.conversion.isNone && p.layout.isEmpty
  | .broken _ => false

/-- A template with no other places can be filled in with any account. -/
theorem render_account {t : Text} (ht : (pieces t).all Piece.asksAccount = true) (v : Value) :
    ∃ filled, render [("account", v)] t = .ok filled := by
  have hfill : ∀ (piece : Piece → Except Flaw Text) (ps : List Piece) (done : Text),
      (∀ p ∈ ps, ∃ part, piece p = .ok part) →
      ∃ filled, ps.foldl (fun done p => do return (← done) ++ (← piece p)) (.ok done) =
        (.ok filled : Except Flaw Text) := by
    intro piece ps
    induction ps with
    | nil => exact fun done _ => ⟨done, rfl⟩
    | cons p rest ih =>
        intro done hpieces
        obtain ⟨⟨part, hpart⟩, hrest⟩ := List.forall_mem_cons.mp hpieces
        rw [List.foldl_cons, hpart]
        exact ih (done ++ part) hrest
  unfold render fill
  refine hfill _ _ [] fun p hp => ?_
  have hasks := List.all_eq_true.mp ht p hp
  cases p with
  | plain t => exact ⟨t, rfl⟩
  | broken f => cases hasks
  | place p =>
      obtain ⟨name, conversion, layout⟩ := p
      unfold Piece.asksAccount at hasks
      simp only [Bool.and_eq_true, beq_iff_eq, Option.isNone_iff_eq_none, List.isEmpty_iff]
        at hasks
      obtain ⟨⟨rfl, rfl⟩, rfl⟩ := hasks
      exact ⟨v.shown, rfl⟩

end Template

namespace PasswordSource

/-- The question asks for the account, if for anything. -/
def AsksAccount (question : Text) : Prop :=
  (Template.pieces question).all Template.Piece.asksAccount = true

theorem asksAccount_userQuestion : AsksAccount userQuestion := by
  unfold AsksAccount
  decide +kernel

theorem asksAccount_bindQuestion : AsksAccount bindQuestion := by
  unfold AsksAccount
  decide +kernel

/-- **A source can be chosen for whatever was given**; it is settled, and a file that it names has
been given. -/
theorem choose_ok (password path account : Option Text) (asked : Bool) {question : Text}
    (hquestion : AsksAccount question) :
    ∃ source, choose password path asked account question = .ok source ∧ source ≠ .unsettled ∧
      ∀ p, source = .file p → path = some p := by
  unfold choose
  cases password with
  | some t => exact ⟨_, rfl, by simp, by simp⟩
  | none =>
      cases path with
      | some p => exact ⟨_, rfl, by simp, by simp⟩
      | none =>
          obtain ⟨filled, hfilled⟩ := Template.render_account hquestion (Value.ofText? account)
          dsimp only
          rw [hfilled]
          cases asked with
          | true => exact ⟨.prompt account filled, rfl, by simp, by simp⟩
          | false => exact ⟨.none, rfl, by simp, by simp⟩

end PasswordSource

/-! ### Reading -/

namespace Host

/-- Whatever the prompts fail with, it is the end of the input or a refusal of the operating
system. -/
def Answerable (h : Host) : Prop :=
  ∀ r, PromptAnswer.failed r ∈ h.prompts → r.family = .endOfInput ∨ r.family = .system

/-- The prompts of one host are what is left of those of another. -/
def Prompts (h h' : Host) : Prop := h'.prompts <:+ h.prompts

instance : IsPreorder Host Prompts where
  refl h := List.suffix_refl h.prompts
  trans _ _ _ hab hbc := List.IsSuffix.trans hbc hab

theorem Answerable.of_prompts {h h' : Host} (hanswerable : h.Answerable) (hleft : h.Prompts h') :
    h'.Answerable := fun r hr => hanswerable r (hleft.subset hr)

end Host

namespace Action

variable {h : Host}

/-- The password cannot be read. -/
abbrev Unread (f : Fault) : Prop := f.isKind .passwordRead = true

theorem comesTo_readPasswordFile (path : Text) :
    ComesTo (fun _ _ => True) (fun f => Unread f ∨ ¬path.NulFree ∧ f = .nulInPath)
      (readPasswordFile path) h := by
  unfold ComesTo readPasswordFile
  rw [runOn_ofFunction]
  dsimp only
  by_cases hnul : FileTree.hasNul path = true
  · rw [if_pos hnul]
    refine .inr ⟨fun hfree => ?_, rfl⟩
    rw [FileTree.hasNul_eq_false_iff.mpr hfree] at hnul
    cases hnul
  · rw [if_neg hnul]
    dsimp only [Host.note]
    cases h.files.read path with
    | error e => exact .inl rfl
    | ok content =>
        dsimp only
        cases PasswordSource.ofFile path content with
        | error e => exact .inl rfl
        | ok bytes => trivial

/-- What is answered is typed, or the input has come to its end, or the prompt has failed. -/
theorem comesTo_ask (hanswerable : h.Answerable) (question : Text) :
    ComesTo (fun _ _ => True)
      (fun f => (f.family == .endOfInput || f.isSystem) = true) (ask question) h := by
  unfold ComesTo ask
  rw [runOn_ofFunction]
  dsimp only [Host.note]
  cases hprompts : h.prompts with
  | nil => rfl
  | cons answer rest =>
      cases answer with
      | typed t => trivial
      | failed r =>
          have hfamily := hanswerable r (by rw [hprompts]; exact List.mem_cons_self)
          dsimp only
          rw [show (Fault.raised r).family = r.family from rfl,
            show (Fault.raised r).isSystem = r.isSystem from rfl, Raised.isSystem]
          rcases hfamily with hend | hsystem
          · rw [hend]
            rfl
          · rw [hsystem]
            rfl

theorem comesTo_readPrompt (hanswerable : h.Answerable) (account : Option Text)
    (question : Text) :
    ComesTo (fun _ _ => True) Unread (readPrompt account question) h := by
  unfold readPrompt
  refine ComesTo.attempt_bind (comesTo_ask hanswerable question) (fun t h' _ => ?_)
    fun f h' hf => ?_
  · exact .orFail (fun _ _ => trivial) fun e _ => rfl
  · dsimp only
    rw [if_pos hf]
    exact .of_error rfl rfl

/-- **What reading a password comes to**: bytes that spell a text, or nothing, or a password that
cannot be read; a path that holds a NUL is the exception. -/
theorem comesTo_readPassword {source : PasswordSource} (hsettled : source ≠ .unsettled)
    (hanswerable : h.Answerable) :
    ComesTo (fun password _ => ∀ bytes, password = some bytes → Spelled bytes)
      (fun f => Unread f ∨ ∃ path, source = .file path ∧ ¬path.NulFree ∧ f = .nulInPath)
      (readPassword source) h := by
  -- what is read is handed on as it is
  have hsome : ∀ {P : Fault → Prop} {a : Action (List UInt8)},
      ComesTo (fun _ _ => True) P a h → ComesTo (fun _ _ => True) P (some <$> a) h := by
    intro P a ha
    rw [map_eq_pure_bind]
    exact ha.bind fun _ _ _ => .of_ok rfl trivial
  have hread : ComesTo (fun _ _ => True)
      (fun f => Unread f ∨ ∃ path, source = .file path ∧ ¬path.NulFree ∧ f = .nulInPath)
      (readPassword source) h := by
    unfold readPassword
    cases source with
    | none => exact .of_ok rfl trivial
    | unsettled => exact absurd rfl hsettled
    | inline t => exact hsome (.orFail (fun _ _ => trivial) fun e _ => .inl rfl)
    | file path =>
        refine hsome ((comesTo_readPasswordFile path).mono (fun _ _ hq => hq) fun f hf => ?_)
        exact hf.imp_right fun ⟨hnul, hf⟩ => ⟨path, rfl, hnul, hf⟩
    | prompt account question =>
        exact hsome ((comesTo_readPrompt hanswerable account question).mono (fun _ _ hq => hq)
          fun f hf => .inl hf)
  rcases hrun : (readPassword source).runOn h with ⟨r, h'⟩
  cases r with
  | ok password =>
      exact .of_ok hrun fun bytes hbytes => (yields_of_readPassword hrun).spelled hbytes
  | error f => exact .of_error hrun (hread.error hrun)

/-- Reading a password takes answers off the prompts, and no more. -/
theorem prompts_readPassword (source : PasswordSource) :
    Keeps Host.Prompts (readPassword source) := by
  unfold readPassword
  cases source with
  | none => exact Keeps.pure _
  | inline t => exact Keeps.map (Keeps.orFail _ _) _
  | unsettled => exact Keeps.fail _
  | file path =>
      refine Keeps.map (fun h => ?_) _
      unfold readPasswordFile
      rw [runOn_ofFunction]
      dsimp only
      split
      · exact List.suffix_refl h.prompts
      · split <;> exact List.suffix_refl h.prompts
  | prompt account question =>
      refine Keeps.map ?_ _
      unfold readPrompt
      refine Keeps.bind (Keeps.attempt fun h => ?_) fun outcome => ?_
      · unfold Host.Prompts ask
        rw [runOn_ofFunction]
        dsimp only [Host.note]
        split
        · exact List.suffix_refl h.prompts
        · rename_i hprompts
          exact hprompts ▸ List.suffix_cons _ _
        · rename_i hprompts
          exact hprompts ▸ List.suffix_cons _ _
      · split
        · exact Keeps.orFail _ _
        · exact Keeps.ite (Keeps.fail _) (Keeps.fail _)

end Action

end OtpRegistrar
