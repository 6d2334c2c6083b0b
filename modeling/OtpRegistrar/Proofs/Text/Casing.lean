/-
Words that are recognised in any case.

A text is compared with a word in lower case, and lower case is Unicode's.  That no text
is taken for the word but the word itself, each of its letters small or capital, has to be
shown: some symbols outside of ASCII have a lower case that begins with a letter of it.
There are two such letters, `i` and `k`, and a word that has neither of them is safe.
-/
import OtpRegistrar.Text.Casing
import Mathlib.Data.List.Forall2

namespace OtpRegistrar.Text

/-- The text is the word, each of its letters as it is or as a capital. -/
def InSomeCase (word : String) (t : Text) : Prop :=
  List.Forall₂ (fun c s => s = .char c ∨ s = .char c.toUpper) word.toList t

instance (word : String) (t : Text) : Decidable (InSomeCase word t) :=
  inferInstanceAs (Decidable (List.Forall₂ _ _ _))

/-- A small letter that is the lower case of itself and of its capital alone. -/
def IsSafe (c : Char) : Prop := c.isLower = true ∧ c ≠ 'i' ∧ c ≠ 'k'

instance : DecidablePred IsSafe := fun c =>
  inferInstanceAs (Decidable (c.isLower = true ∧ c ≠ 'i' ∧ c ≠ 'k'))

/-- A word of such letters. -/
def IsSafeWord (word : String) : Prop := ∀ c ∈ word.toList, IsSafe c

-- the letters are gone through, and not all characters that there are
instance : DecidablePred IsSafeWord := fun word => List.decidableBAll IsSafe word.toList

/-! ### Letters -/

/-- What holds of all characters of ASCII can be looked up. -/
theorem ascii_induction {p : Char → Prop} (hall : ∀ n : Fin 128, p (Char.ofNat n)) {c : Char}
    (hc : c.toNat < 128) : p c := by
  have hp := hall ⟨c.toNat, hc⟩
  rwa [Char.ofNat_toNat] at hp

theorem IsSafe.lt {c : Char} (hc : IsSafe c) : c.toNat < 128 := by
  have hlast : c.val.toNat ≤ 122 := of_decide_eq_true (Bool.and_eq_true_iff.mp hc.1).2
  show c.val.toNat < 128
  omega

theorem toUpper_lt {c : Char} (hc : c.toNat < 128) : c.toUpper.toNat < 128 :=
  ascii_induction (p := fun c => c.toUpper.toNat < 128) (by decide) hc

theorem toLower_of_isLower {c : Char} (hc : c.toNat < 128) (hlower : c.isLower = true) :
    c.toLower = c ∧ c.toUpper.toLower = c :=
  ascii_induction (p := fun c => c.isLower = true → c.toLower = c ∧ c.toUpper.toLower = c)
    (by decide) hc hlower

theorem eq_or_eq_toUpper {c : Char} (hc : c.toNat < 128) (hlower : c.toLower.isLower = true) :
    c = c.toLower ∨ c = c.toLower.toUpper :=
  ascii_induction (p := fun c => c.toLower.isLower = true → c = c.toLower ∨ c = c.toLower.toUpper)
    (by decide) hc hlower

theorem lower_ascii {c : Char} (hc : c.toNat < 128) :
    (Symbol.char c).lower = [.char c.toLower] := by
  unfold Symbol.lower
  dsimp only
  rw [if_pos hc]

/-- The symbols whose lower case begins with a safe letter are this letter and its capital. -/
theorem lower_eq_cons_iff {c : Char} (hc : IsSafe c) {s : Symbol} {rest : Text} :
    s.lower = .char c :: rest ↔ rest = [] ∧ (s = .char c ∨ s = .char c.toUpper) := by
  constructor
  · intro hlower
    cases s with
    | stray low => cases hlower
    | char d =>
        by_cases hd : d.toNat < 128
        · rw [lower_ascii hd] at hlower
          obtain ⟨hletter, hrest⟩ := List.cons.inj hlower
          obtain rfl : d.toLower = c := Symbol.char.inj hletter
          exact ⟨hrest.symm, (eq_or_eq_toUpper hd hc.1).imp (congrArg _) (congrArg _)⟩
        · obtain ⟨s, rest', hforeign, hs⟩ := Symbol.lower_foreign (Nat.not_lt.mp hd)
          rw [hforeign] at hlower
          obtain rfl : s = .char c := (List.cons.inj hlower).1
          have hlt := hc.lt
          rcases hs with hi | hk | hnul | hfar
          · exact absurd (Symbol.char.inj hi) hc.2.1
          · exact absurd (Symbol.char.inj hk) hc.2.2
          · have hsmall := hc.1
            rw [Symbol.char.inj hnul] at hsmall
            exact absurd hsmall (by decide)
          · exact absurd hfar (Nat.not_le.mpr hlt)
  · rintro ⟨rfl, rfl | rfl⟩
    · rw [lower_ascii hc.lt, (toLower_of_isLower hc.lt hc.1).1]
    · rw [lower_ascii (toUpper_lt hc.lt), (toLower_of_isLower hc.lt hc.1).2]

/-! ### Words -/

/-- Every symbol of such a text comes from a letter of the word. -/
theorem InSomeCase.mem {word : String} {t : Text} (hcase : InSomeCase word t) {s : Symbol}
    (hs : s ∈ t) : ∃ c ∈ word.toList, s = .char c ∨ s = .char c.toUpper := by
  unfold InSomeCase at hcase
  generalize word.toList = letters at hcase ⊢
  induction hcase with
  | nil => cases hs
  | cons hfirst hrest ih =>
      rcases List.mem_cons.mp hs with rfl | hs
      · exact ⟨_, List.mem_cons_self, hfirst⟩
      · obtain ⟨c, hc, hspelled⟩ := ih hs
        exact ⟨c, List.mem_cons_of_mem _ hc, hspelled⟩

theorem flatMap_lower_eq_iff {word : List Char} (hword : ∀ c ∈ word, IsSafe c) (t : Text) :
    t.flatMap Symbol.lower = word.map .char ↔
      List.Forall₂ (fun c s => s = .char c ∨ s = .char c.toUpper) word t := by
  induction t generalizing word with
  | nil =>
      cases word with
      | nil => simp
      | cons c word => simp
  | cons s t ih =>
      -- no symbol has an empty lower case, so the first letter comes from the first symbol
      obtain ⟨first, rest, hlower⟩ : ∃ first rest, s.lower = first :: rest := by
        cases s with
        | stray low => exact ⟨_, _, rfl⟩
        | char d =>
            by_cases hd : d.toNat < 128
            · exact ⟨_, _, lower_ascii hd⟩
            · obtain ⟨first, rest, hforeign, -⟩ := Symbol.lower_foreign (Nat.not_lt.mp hd)
              exact ⟨first, rest, hforeign⟩
      cases word with
      | nil => simp [hlower]
      | cons c word =>
          obtain ⟨hc, hmore⟩ := List.forall_mem_cons.mp hword
          rw [List.flatMap_cons, List.map_cons, List.forall₂_cons, ← ih hmore]
          constructor
          · intro heq
            rw [hlower, List.cons_append] at heq
            obtain ⟨rfl, hmore⟩ := List.cons.inj heq
            obtain ⟨rfl, hs⟩ := (lower_eq_cons_iff hc).mp hlower
            exact ⟨hs, hmore⟩
          · rintro ⟨hs, heq⟩
            rw [(lower_eq_cons_iff hc).mpr ⟨rfl, hs⟩, heq]
            rfl

/-- **The texts whose lower case is a safe word are its spellings in small and capital letters.** -/
theorem lower_eq_iff {word : String} (hword : IsSafeWord word) (t : Text) :
    lower t = ofString word ↔ InSomeCase word t := by
  have hplain : ∀ {c : Char}, 128 ≤ c.toNat → Symbol.char c ∉ ofString word := by
    intro c hc hmem
    obtain ⟨d, hd, heq⟩ := List.mem_map.mp hmem
    obtain rfl : d = c := Symbol.char.inj heq
    have hlt := (hword d hd).lt
    omega
  constructor
  · intro heq
    have hsigma : Symbol.char 'Σ' ∉ t := by
      intro hmem
      have hlower := mem_lower_of_mem hmem
      rw [heq] at hlower
      exact hlower.elim (hplain (by decide)) (hplain (by decide))
    rw [lower_eq_flatMap hsigma] at heq
    exact (flatMap_lower_eq_iff hword t).mp heq
  · intro hcase
    have hsigma : Symbol.char 'Σ' ∉ t := by
      intro hmem
      have hfar : ¬('Σ' : Char).toNat < 128 := by decide
      obtain ⟨c, hc, hsmall | hcapital⟩ := hcase.mem hmem
      · exact hfar (Symbol.char.inj hsmall ▸ (hword c hc).lt)
      · exact hfar (Symbol.char.inj hcapital ▸ toUpper_lt (hword c hc).lt)
    rw [lower_eq_flatMap hsigma]
    exact (flatMap_lower_eq_iff hword t).mpr hcase

/-- A text spells one safe word. -/
theorem InSomeCase.unique {word other : String} (hword : IsSafeWord word)
    (hother : IsSafeWord other) {t : Text} (hcase : InSomeCase word t)
    (hcase' : InSomeCase other t) : ofString word = ofString other := by
  rw [← (lower_eq_iff hword t).mpr hcase, (lower_eq_iff hother t).mpr hcase']

end OtpRegistrar.Text
