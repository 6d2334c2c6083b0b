/-
Whole numbers that are written in the one way in which they are printed.

Reading is generous and writing is not, and a text counts as a number only if reading it
and writing the result gives the text again.  Which texts these are is said here without
reading or writing: `Decimal` has the zero, and an optional minus in front of digits of
which the first is none.

A number and its digits determine each other, since a first digit that is not zero stays
the first whatever comes behind it.  The induction is on the digits from the last one, as
it is the last that a division by ten splits off.
-/
import OtpRegistrar.Number.Integer
import Mathlib.Data.List.Induction
import Mathlib.Data.List.TakeWhile
import Mathlib.Data.Nat.Digits.Defs

namespace OtpRegistrar.Integer

/-- A digit as it is written. -/
def digit (d : Fin 10) : Symbol := .char (Nat.digitChar d.val)

/-- Digits as they are written, the highest first. -/
def numeral (ds : List (Fin 10)) : Text := ds.map digit

/-- The number that digits stand for, the highest first. -/
def valueOf (ds : List (Fin 10)) : Nat := Nat.ofDigits 10 (ds.reverse.map Fin.val)

/-- The text is a number in its decimal form, with at most 4300 digits. -/
inductive Decimal : Text → Int → Prop
  | zero : Decimal "0" 0
  | positive {first : Fin 10} {rest : List (Fin 10)} (hfirst : first ≠ 0)
      (hfew : (first :: rest).length ≤ 4300) :
      Decimal (numeral (first :: rest)) (valueOf (first :: rest))
  | negative {first : Fin 10} {rest : List (Fin 10)} (hfirst : first ≠ 0)
      (hfew : (first :: rest).length ≤ 4300) :
      Decimal (.char '-' :: numeral (first :: rest)) (-(valueOf (first :: rest) : Int))

/-! ### Digits -/

theorem decimalValue?_digit (d : Fin 10) : (digit d).decimalValue? = some d.val := by
  revert d
  decide

theorem isDigitOrUnderscore_digit (d : Fin 10) : isDigitOrUnderscore (digit d) = true := by
  revert d
  decide

theorem isNumberBlank_digit (d : Fin 10) : (digit d).isNumberBlank = false := by
  revert d
  decide

theorem digit_ne {s : Symbol} (hs : s.decimalValue? = none) (d : Fin 10) : digit d ≠ s := by
  rintro rfl
  rw [decimalValue?_digit] at hs
  cases hs

/-! ### Reading -/

theorem ofDigits_eq (ds : List Nat) : ofDigits ds = Nat.ofDigits 10 ds.reverse := by
  unfold ofDigits
  rw [Nat.ofDigits_eq_foldr, List.foldr_reverse]
  refine congrArg (fun f => List.foldl f 0 ds) ?_
  funext n d
  exact Nat.add_comm _ _

theorem ofDigits_map_val (ds : List (Fin 10)) : ofDigits (ds.map Fin.val) = valueOf ds := by
  rw [ofDigits_eq, valueOf, List.map_reverse]

theorem readDigits?_numeral {ds : List (Fin 10)} (hsome : ds ≠ []) :
    readDigits? (numeral ds) = some (ds.map Fin.val) := by
  induction ds with
  | nil => exact absurd rfl hsome
  | cons d ds ih =>
      cases ds with
      | nil =>
          show readDigits? [digit d] = _
          rw [readDigits?, decimalValue?_digit]
          rfl
      | cons d' ds =>
          have hother : digit d' ≠ .char '_' := digit_ne (by decide) d'
          have hrest := ih (List.cons_ne_nil _ _)
          show readDigits? (digit d :: digit d' :: numeral ds) = _
          rw [readDigits?, decimalValue?_digit]
          dsimp only
          rw [if_neg hother, show digit d' :: numeral ds = numeral (d' :: ds) from rfl, hrest]
          rfl

theorem takeWhile_numeral (ds : List (Fin 10)) :
    (numeral ds).takeWhile isDigitOrUnderscore = numeral ds := by
  rw [List.takeWhile_eq_self_iff]
  intro s hs
  obtain ⟨d, -, rfl⟩ := List.mem_map.mp hs
  exact isDigitOrUnderscore_digit d

theorem dropWhile_numeral (ds : List (Fin 10)) :
    (numeral ds).dropWhile isDigitOrUnderscore = [] := by
  rw [List.dropWhile_eq_nil_iff]
  intro s hs
  obtain ⟨d, -, rfl⟩ := List.mem_map.mp hs
  exact isDigitOrUnderscore_digit d

/-- Digits are read as the number that they stand for, unless they are too many. -/
theorem read_numeral {ds : List (Fin 10)} (hsome : ds ≠ []) :
    read (numeral ds) =
      if 4300 < ds.length then .error (.tooLong ds.length) else .ok (valueOf ds) := by
  obtain ⟨d, ds, rfl⟩ := List.exists_cons_of_ne_nil hsome
  have hblank : (numeral (d :: ds)).dropWhile Symbol.isNumberBlank = numeral (d :: ds) :=
    List.dropWhile_cons_of_neg (by simp [isNumberBlank_digit])
  have hminus : digit d ≠ .char '-' := digit_ne (by decide) d
  have hplus : digit d ≠ .char '+' := digit_ne (by decide) d
  have hsign : splitSign (numeral (d :: ds)) = (false, numeral (d :: ds)) := by
    show splitSign (digit d :: numeral ds) = _
    unfold splitSign
    split
    · rename_i heq
      exact absurd (List.cons.inj heq).1 hminus
    · rename_i heq
      exact absurd (List.cons.inj heq).1 hplus
    · rfl
  unfold read
  rw [hblank, hsign]
  dsimp only
  rw [takeWhile_numeral, dropWhile_numeral, readDigits?_numeral hsome]
  dsimp only
  rw [List.length_map, ofDigits_map_val]
  rfl

/-- A minus in front of them makes the number negative. -/
theorem read_minus_numeral {ds : List (Fin 10)} (hsome : ds ≠ []) :
    read (.char '-' :: numeral ds) =
      if 4300 < ds.length then .error (.tooLong ds.length) else .ok (-(valueOf ds : Int)) := by
  have hblank : (.char '-' :: numeral ds : Text).dropWhile Symbol.isNumberBlank =
      .char '-' :: numeral ds := List.dropWhile_cons_of_neg (by decide)
  have hsign : splitSign (.char '-' :: numeral ds) = (true, numeral ds) := rfl
  unfold read
  rw [hblank, hsign]
  dsimp only
  rw [takeWhile_numeral, dropWhile_numeral, readDigits?_numeral hsome]
  dsimp only
  rw [List.length_map, ofDigits_map_val]
  rfl

/-! ### Writing -/

theorem valueOf_concat (ds : List (Fin 10)) (d : Fin 10) :
    valueOf (ds ++ [d]) = 10 * valueOf ds + d := by
  unfold valueOf
  rw [List.reverse_append, List.reverse_singleton, List.singleton_append, List.map_cons,
    Nat.ofDigits_cons]
  exact Nat.add_comm _ _

/-- A first digit that is not zero makes the number positive. -/
theorem valueOf_pos {first : Fin 10} (hfirst : first ≠ 0) (rest : List (Fin 10)) :
    0 < valueOf (first :: rest) := by
  induction rest using List.reverseRecOn with
  | nil =>
      have hvalue : valueOf [first] = first.val := by simp [valueOf]
      rw [hvalue]
      exact Nat.pos_of_ne_zero fun heq => hfirst (Fin.ext heq)
  | append_singleton rest d ih =>
      rw [← List.cons_append, valueOf_concat]
      omega

/-- The number that digits stand for has these digits. -/
theorem toDigits_valueOf {first : Fin 10} (hfirst : first ≠ 0) (rest : List (Fin 10)) :
    Nat.toDigits 10 (valueOf (first :: rest)) =
      (first :: rest).map fun d => Nat.digitChar d.val := by
  have hdigit : ∀ d : Fin 10, Nat.toDigits 10 d.val = [Nat.digitChar d.val] := fun d =>
    Nat.toDigits_of_lt_base d.isLt
  induction rest using List.reverseRecOn with
  | nil =>
      have hvalue : valueOf [first] = first.val := by simp [valueOf]
      rw [hvalue, hdigit]
      rfl
  | append_singleton rest d ih =>
      have hpos := valueOf_pos hfirst rest
      rw [← List.cons_append, valueOf_concat,
        ← Nat.toDigits_append_toDigits (by omega) hpos d.isLt, ih, hdigit, List.map_append]
      rfl

theorem digitsOf_valueOf {first : Fin 10} (hfirst : first ≠ 0) (rest : List (Fin 10)) :
    digitsOf (valueOf (first :: rest)) = numeral (first :: rest) := by
  rw [digitsOf, toDigits_valueOf hfirst, List.map_map]
  rfl

/-- Every positive number has digits of which the first is not zero. -/
theorem exists_digits {n : Nat} (hn : 0 < n) :
    ∃ (first : Fin 10) (rest : List (Fin 10)), first ≠ 0 ∧ valueOf (first :: rest) = n := by
  induction n using Nat.strongRecOn with
  | ind n ih =>
      by_cases hsmall : n < 10
      · refine ⟨⟨n, hsmall⟩, [], fun heq => ?_, by simp [valueOf]⟩
        have hzero : n = 0 := congrArg Fin.val heq
        omega
      · obtain ⟨first, rest, hfirst, hvalue⟩ := ih (n / 10) (by omega) (by omega)
        refine ⟨first, rest ++ [⟨n % 10, by omega⟩], hfirst, ?_⟩
        rw [← List.cons_append, valueOf_concat, hvalue]
        exact Nat.div_add_mod n 10

theorem text_neg {n : Nat} (hn : 0 < n) : text (-(n : Int)) = .char '-' :: digitsOf n := by
  obtain ⟨m, rfl⟩ : ∃ m, n = m + 1 := ⟨n - 1, by omega⟩
  rfl

/-- A decimal is what its number is written as. -/
theorem Decimal.text_eq {t : Text} {n : Int} (hdecimal : Decimal t n) : text n = t := by
  cases hdecimal with
  | zero => rfl
  | positive hfirst hfew => exact digitsOf_valueOf hfirst _
  | negative hfirst hfew => rw [text_neg (valueOf_pos hfirst _), digitsOf_valueOf hfirst]

theorem Decimal.read_eq {t : Text} {n : Int} (hdecimal : Decimal t n) : read t = .ok n := by
  cases hdecimal with
  | zero => rfl
  | positive hfirst hfew => rw [read_numeral (List.cons_ne_nil _ _), if_neg (by omega)]
  | negative hfirst hfew => rw [read_minus_numeral (List.cons_ne_nil _ _), if_neg (by omega)]

/-- What a number is written as is a decimal, if it can be read. -/
theorem decimal_of_read {n : Int} (hread : read (text n) = .ok n) : Decimal (text n) n := by
  have hfew : ∀ {ds : List (Fin 10)} {value : Int},
      (if 4300 < ds.length then Except.error (Flaw.tooLong ds.length) else .ok value) = .ok n →
      ds.length ≤ 4300 := by
    intro ds value heq
    by_contra hmany
    rw [if_pos (by omega)] at heq
    cases heq
  rcases lt_trichotomy n 0 with hn | rfl | hn
  · obtain ⟨first, rest, hfirst, hvalue⟩ := exists_digits (n := n.natAbs) (by omega)
    obtain rfl : n = -(valueOf (first :: rest) : Int) := by omega
    have htext : text (-(valueOf (first :: rest) : Int)) =
        .char '-' :: numeral (first :: rest) := by
      rw [text_neg (valueOf_pos hfirst rest), digitsOf_valueOf hfirst]
    rw [htext] at hread ⊢
    rw [read_minus_numeral (List.cons_ne_nil _ _)] at hread
    exact .negative hfirst (hfew hread)
  · exact .zero
  · obtain ⟨first, rest, hfirst, hvalue⟩ := exists_digits (n := n.natAbs) (by omega)
    obtain rfl : n = (valueOf (first :: rest) : Int) := by omega
    have htext : text (valueOf (first :: rest) : Int) = numeral (first :: rest) :=
      digitsOf_valueOf hfirst rest
    rw [htext] at hread ⊢
    rw [read_numeral (List.cons_ne_nil _ _)] at hread
    exact .positive hfirst (hfew hread)

/-- **The texts that are read as a number and written again as they were are the decimals.** -/
theorem decimal_iff {t : Text} {n : Int} : Decimal t n ↔ read t = .ok n ∧ text n = t := by
  constructor
  · intro hdecimal
    exact ⟨hdecimal.read_eq, hdecimal.text_eq⟩
  · rintro ⟨hread, rfl⟩
    exact decimal_of_read hread

/-- Everything in a decimal is a digit, or the minus in front. -/
theorem Decimal.mem {t : Text} {n : Int} (hdecimal : Decimal t n) {s : Symbol} (hs : s ∈ t) :
    s = .char '-' ∨ ∃ d, s = digit d := by
  have hdigits : ∀ {ds}, s ∈ numeral ds → ∃ d, s = digit d := fun hmem => by
    obtain ⟨d, -, rfl⟩ := List.mem_map.mp hmem
    exact ⟨d, rfl⟩
  cases hdecimal with
  | zero =>
      rw [List.mem_singleton.mp hs]
      exact .inr ⟨0, rfl⟩
  | positive hfirst hfew => exact .inr (hdigits hs)
  | negative hfirst hfew =>
      rcases List.mem_cons.mp hs with rfl | hs
      · exact .inl rfl
      · exact .inr (hdigits hs)

end OtpRegistrar.Integer
