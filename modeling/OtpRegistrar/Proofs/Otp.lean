/-
Which texts are taken for one-time passwords.

The length of a text is looked at first, and then its letters.  Either check alone would
let too much through: the length says nothing of the letters, and letters without an
identity in front are turned away by the length alone.

The two do not look at the same text.  A line feed at the end counts for the length and is
not there for the letters, so that a text of thirty-two letters with a line feed behind
them passes both, and its public identity is empty.  Such texts are `Ended`, and they are
the only ones that are taken without being passwords.
-/
import OtpRegistrar.Failure.Fault
import OtpRegistrar.Proofs.Text.Lines

namespace OtpRegistrar.Otp

/-- The text is the public identity with thirty-two letters behind it. -/
structure WellFormed (otp identity : Text) : Prop where
  split : ∃ changing : Text, otp = identity ++ changing ∧ changing.length = 32
  nonempty : 1 ≤ identity.length
  short : identity.length ≤ 16
  modhex : ∀ s ∈ otp, ∃ c ∈ modhexLetters, s = .char c

/-- The text is at most fifteen letters with thirty-two behind them, and ends in a line feed. -/
structure Ended (otp identity : Text) : Prop where
  split : ∃ changing : Text, otp = identity ++ changing ++ Text.newline ∧ changing.length = 32
  short : identity.length ≤ 15
  modhex : ∀ s ∈ otp.dropLast, ∃ c ∈ modhexLetters, s = .char c

variable {otp identity t : Text} {s : Symbol}

/-! ### Letters -/

theorem isModhex_iff : isModhex s = true ↔ ∃ c ∈ modhexLetters, s = .char c := by
  cases s with
  | char c => simp [isModhex, modhexValue?, List.isSome_idxOf?]
  | stray low => simp [isModhex, modhexValue?]

theorem all_isModhex_iff :
    t.all isModhex = true ↔ ∀ s ∈ t, ∃ c ∈ modhexLetters, s = .char c := by
  rw [List.all_eq_true]
  exact forall₂_congr fun s _ => isModhex_iff

/-- A line feed is no letter. -/
theorem newline_not_modhex : ¬ ∃ c ∈ modhexLetters, Symbol.char '\n' = .char c := by
  rintro ⟨c, hc, heq⟩
  cases heq
  revert hc
  decide +kernel

/-! ### The final line feed -/

theorem withoutFinalNewline_of_ne (ht : t.getLast? ≠ some (.char '\n')) :
    withoutFinalNewline t = t := if_neg ht

theorem withoutFinalNewline_append (t : Text) : withoutFinalNewline (t ++ Text.newline) = t := by
  rw [withoutFinalNewline, if_pos (Text.getLast?_append_newline t), Text.dropLast_append_newline]

/-! ### What is taken -/

/-- What is asked of the length and of the letters. -/
theorem publicId_eq_ok_iff :
    publicId otp = .ok identity ↔
      33 ≤ otp.length ∧ otp.length ≤ 48 ∧
        (∃ changing : Text, withoutFinalNewline otp = identity ++ changing ∧
          changing.length = 32) ∧
        ∀ s ∈ withoutFinalNewline otp, ∃ c ∈ modhexLetters, s = .char c := by
  have hchange : variableLength = 32 := rfl
  have hlimit : identityLimit = 16 := rfl
  rw [← all_isModhex_iff]
  unfold publicId
  constructor
  · intro htaken
    split at htaken
    · cases htaken
    rename_i hlength
    dsimp only at htaken
    split at htaken
    · rename_i hletters
      cases htaken
      refine ⟨by omega, by omega, ⟨_, (List.take_append_drop _ _).symm, ?_⟩, hletters.1⟩
      rw [List.length_drop]
      omega
    · cases htaken
  · rintro ⟨hlong, hshort, ⟨changing, hsplit, hchanging⟩, hletters⟩
    have hlength : (withoutFinalNewline otp).length = identity.length + 32 := by
      rw [hsplit, List.length_append, hchanging]
    rw [if_neg (by omega), if_pos ⟨hletters, by omega⟩, hlength, hchange, Nat.add_sub_cancel,
      hsplit, List.take_left]

theorem publicId_of_ne (hotp : otp.getLast? ≠ some (.char '\n')) :
    publicId otp = .ok identity ↔ WellFormed otp identity := by
  rw [publicId_eq_ok_iff, withoutFinalNewline_of_ne hotp]
  constructor
  · rintro ⟨hlong, hshort, ⟨changing, rfl, hchanging⟩, hletters⟩
    rw [List.length_append] at hlong hshort
    exact ⟨⟨changing, rfl, hchanging⟩, by omega, by omega, hletters⟩
  · rintro ⟨⟨changing, rfl, hchanging⟩, hsome, hshort, hletters⟩
    rw [List.length_append]
    exact ⟨by omega, by omega, ⟨changing, rfl, hchanging⟩, hletters⟩

theorem publicId_append_newline :
    publicId (t ++ Text.newline) = .ok identity ↔ Ended (t ++ Text.newline) identity := by
  rw [publicId_eq_ok_iff, withoutFinalNewline_append]
  have hletters := Text.dropLast_append_newline t
  have hlength : (t ++ Text.newline).length = t.length + 1 := by simp [Text.newline]
  rw [hlength]
  constructor
  · rintro ⟨hlong, hshort, ⟨changing, rfl, hchanging⟩, hmodhex⟩
    rw [List.length_append] at hlong hshort
    exact ⟨⟨changing, rfl, hchanging⟩, by omega, by rwa [hletters]⟩
  · rintro ⟨⟨changing, hsplit, hchanging⟩, hshort, hmodhex⟩
    obtain rfl : t = identity ++ changing := List.append_cancel_right hsplit
    rw [hletters] at hmodhex
    rw [List.length_append]
    exact ⟨by omega, by omega, ⟨changing, rfl, hchanging⟩, hmodhex⟩

theorem WellFormed.not_newline (hotp : WellFormed otp identity) :
    otp.getLast? ≠ some (.char '\n') := by
  intro hlast
  exact newline_not_modhex (hotp.modhex _ (List.mem_of_getLast? hlast))

theorem Ended.newline (hotp : Ended otp identity) : ∃ t, otp = t ++ Text.newline := by
  obtain ⟨⟨changing, rfl, -⟩, -, -⟩ := hotp
  exact ⟨_, rfl⟩

/-- **A text is taken for a one-time password if it is one, or if a line feed follows its letters**;
any other is a failure of the program's own. So what is taken are exactly the passwords, unless the
text is one of the latter kind. -/
theorem publicId_iff (otp : Text) :
    (∀ identity, publicId otp = .ok identity ↔ WellFormed otp identity ∨ Ended otp identity) ∧
    ((∃ f, publicId otp = .error f ∧ (Fault.otp f).family = .own .general) ↔
      ∀ identity, ¬ WellFormed otp identity ∧ ¬ Ended otp identity) ∧
    ((∀ identity, publicId otp = .ok identity ↔ WellFormed otp identity) ↔
      ∀ identity, ¬ Ended otp identity) := by
  have htaken : ∀ identity, publicId otp = .ok identity ↔
      WellFormed otp identity ∨ Ended otp identity := by
    intro identity
    rcases Text.newline_cases otp with hplain | ⟨t, rfl⟩
    · rw [publicId_of_ne hplain, or_iff_left]
      rintro hended
      obtain ⟨t, rfl⟩ := hended.newline
      exact hplain (Text.getLast?_append_newline t)
    · rw [publicId_append_newline, or_iff_right]
      exact fun hformed => hformed.not_newline (Text.getLast?_append_newline t)
  refine ⟨htaken, ?_, ?_⟩
  · cases hotp : publicId otp with
    | error f =>
        refine iff_of_true ⟨f, rfl, rfl⟩ fun identity => ?_
        rw [← not_or, ← htaken identity, hotp]
        simp
    | ok identity =>
        have hsome := (htaken identity).mp hotp
        refine iff_of_false (by simp) fun hnone => ?_
        exact hsome.elim (hnone identity).1 (hnone identity).2
  · constructor
    · intro honly identity hended
      have hformed := (honly identity).mp ((htaken identity).mpr (.inr hended))
      obtain ⟨t, rfl⟩ := hended.newline
      exact hformed.not_newline (Text.getLast?_append_newline t)
    · intro hnone identity
      rw [htaken identity, or_iff_left (hnone identity)]

/-- Thirty-two letters and a line feed. -/
def endedLetters : Text := List.replicate 32 (.char 'v') ++ Text.newline

/-- They are taken, although there is no identity in front of the letters. -/
theorem publicId_takes_newline :
    publicId endedLetters = .ok [] ∧ ∀ identity, ¬ WellFormed endedLetters identity := by
  refine ⟨by decide +kernel, fun identity hformed => hformed.not_newline (by decide +kernel)⟩

end OtpRegistrar.Otp
