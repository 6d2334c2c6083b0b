/-
How binary64 numbers are written.

A finite number is written with a point or with an exponent, so that it is never taken for
a whole one, and it begins with a digit behind its sign.  That digit is a zero only in
front of the point: the digits of a number come from a whole number that is not zero, and
cutting zeros off their end leaves the first one in place.

`text_cases` says all of this at once.  Whatever is known of a text that a number can be
written as is read off it.
-/
import OtpRegistrar.Number.Double
import OtpRegistrar.Proofs.Number.Integer
import Mathlib.Data.List.DropRight

namespace OtpRegistrar.Double

/-- How a finite number is written, the sign left aside. -/
structure Body (body : List Char) : Prop where
  mem : ∀ c ∈ body, c.isDigit = true ∨ c ∈ ['.', 'e', '+', '-']
  first : ∃ c rest, body = c :: rest ∧ c.isDigit = true ∧ (c = '0' → rest.head? = some '.')
  broken : '.' ∈ body ∨ 'e' ∈ body

/-! ### Digits -/

/-- Digits of which the first is no zero. -/
structure Significant (ds : List Char) : Prop where
  digits : ∀ c ∈ ds, c.isDigit = true
  first : ∃ c rest, ds = c :: rest ∧ c ≠ '0'

theorem significant_toDigits {n : Nat} (hn : 0 < n) : Significant (Nat.toDigits 10 n) where
  digits := fun c hc => Nat.isDigit_of_mem_toDigits (by omega) (by omega) hc
  first := by
    obtain ⟨first, rest, hfirst, rfl⟩ := Integer.exists_digits hn
    rw [Integer.toDigits_valueOf hfirst]
    refine ⟨_, _, rfl, fun hzero => hfirst (Fin.ext ?_)⟩
    exact Nat.digitChar_eq_zero.mp hzero

/-- Cutting zeros off the end leaves the first digit. -/
theorem Significant.cut {ds : List Char} (hds : Significant ds) :
    Significant (ds.reverse.dropWhile (· == '0')).reverse := by
  show Significant (ds.rdropWhile (· == '0'))
  have hfront : ds.rdropWhile (· == '0') <+: ds := List.rdropWhile_prefix _ _
  refine ⟨fun c hc => hds.digits c (hfront.subset hc), ?_⟩
  obtain ⟨c, rest, rfl, hc⟩ := hds.first
  cases hcut : (c :: rest).rdropWhile (· == '0') with
  | nil =>
      have hzero := List.rdropWhile_eq_nil_iff.mp hcut c List.mem_cons_self
      exact absurd (by simpa using hzero) hc
  | cons c' rest' =>
      rw [hcut] at hfront
      obtain rfl : c' = c := (List.cons_prefix_cons.mp hfront).1
      exact ⟨c', rest', rfl, hc⟩

/-- The digits of a number that is not zero are significant, if any are found. -/
theorem shortest_cases (negative : Bool) {m : Nat} (hm : m ≠ 0) (e : Int) :
    shortest negative m e = ([], 0) ∨ Significant (shortest negative m e).1 := by
  unfold shortest
  dsimp only
  split
  · exact .inl rfl
  · rename_i d n hfound
    refine .inr (Significant.cut (significant_toDigits (Nat.pos_of_ne_zero ?_)))
    rintro rfl
    obtain ⟨i, -, hi⟩ := List.exists_of_findSome?_eq_some hfound
    obtain ⟨d', -, hd'⟩ := List.exists_of_findSome?_eq_some hi
    split at hd'
    · rename_i hback
      cases hd'
      -- no number but zero is written with the digits of zero
      have hzero : finite negative 0 minExponent = finite negative m e := by
        rw [← hback]
        rfl
      cases hzero
      exact hm rfl
    · cases hd'

/-! ### Digits with a point -/

theorem mem_exponentText {x : Int} {c : Char} (hc : c ∈ exponentText x) :
    c.isDigit = true ∨ c ∈ ['.', 'e', '+', '-'] := by
  have hdigits : ∀ c ∈ Nat.toDigits 10 x.natAbs, c.isDigit = true := fun c hc =>
    Nat.isDigit_of_mem_toDigits (by omega) (by omega) hc
  unfold exponentText at hc
  dsimp only at hc
  rcases List.mem_cons.mp hc with rfl | hc
  · simp
  rcases List.mem_cons.mp hc with rfl | hc
  · split <;> simp
  refine .inl ?_
  split at hc
  · rcases List.mem_cons.mp hc with rfl | hc
    · rfl
    · exact hdigits c hc
  · exact hdigits c hc

/-- Zeros are digits. -/
theorem isDigit_of_mem_zeros {n : Nat} {c : Char} (hc : c ∈ List.replicate n '0') :
    c.isDigit = true := by
  rw [List.eq_of_mem_replicate hc]
  rfl

/-- A number below one begins with a zero and the point. -/
theorem body_small {ds : List Char} (hds : ∀ c ∈ ds, c.isDigit = true) (n : Nat) :
    Body ('0' :: '.' :: List.replicate n '0' ++ ds) where
  mem := by
    intro c hc
    simp only [List.cons_append, List.mem_cons, List.mem_append] at hc
    rcases hc with rfl | rfl | hc | hc
    · exact .inl rfl
    · exact .inr (by simp)
    · exact .inl (isDigit_of_mem_zeros hc)
    · exact .inl (hds c hc)
  first := ⟨'0', _, rfl, rfl, fun _ => rfl⟩
  broken := .inl (by simp)

theorem body_layout {ds : List Char} (hds : Significant ds) (k : Int) : Body (layout ds k) := by
  obtain ⟨c, rest, rfl, hc⟩ := hds.first
  have hfirst : c.isDigit = true := hds.digits c List.mem_cons_self
  have hzero : ∀ {cs : List Char}, c = '0' → cs.head? = some '.' := fun heq => absurd heq hc
  unfold layout
  split
  · split
    · exact body_small hds.digits _
    · rename_i hpos
      dsimp only
      split
      · refine ⟨fun d hd => ?_, ⟨c, _, rfl, hfirst, hzero⟩, .inl (by simp)⟩
        rcases List.mem_append.mp hd with hd | hd
        · rcases List.mem_append.mp hd with hd | hd
          · exact .inl (hds.digits d hd)
          · exact .inl (isDigit_of_mem_zeros hd)
        · simp only [List.mem_cons, List.not_mem_nil, or_false] at hd
          rcases hd with rfl | rfl
          · exact .inr (by simp)
          · exact .inl rfl
      · obtain ⟨n, hn⟩ : ∃ n, k.toNat = n + 1 := ⟨k.toNat - 1, by omega⟩
        rw [hn, List.take_succ_cons, List.drop_succ_cons]
        refine ⟨fun d hd => ?_, ⟨c, _, rfl, hfirst, hzero⟩, .inl (by simp)⟩
        rcases List.mem_append.mp hd with hd | hd
        · refine .inl (hds.digits d ?_)
          rcases List.mem_cons.mp hd with rfl | hd
          · exact List.mem_cons_self
          · exact List.mem_cons_of_mem _ (List.mem_of_mem_take hd)
        · rcases List.mem_cons.mp hd with rfl | hd
          · exact .inr (by simp)
          · exact .inl (hds.digits d (List.mem_cons_of_mem _ (List.mem_of_mem_drop hd)))
  · refine ⟨fun d hd => ?_, ⟨c, _, rfl, hfirst, hzero⟩, .inr ?_⟩
    · rcases List.mem_append.mp hd with hd | hd
      · rcases List.mem_cons.mp hd with rfl | hd
        · exact .inl hfirst
        · split at hd
          · cases hd
          · rcases List.mem_cons.mp hd with rfl | hd
            · exact .inr (by simp)
            · exact .inl (hds.digits d (List.mem_cons_of_mem _ hd))
      · exact mem_exponentText hd
    · exact List.mem_append_right _ List.mem_cons_self

/-! ### Numbers -/

/-- **A number is written by a name, or as a sign and a body.** -/
theorem text_cases (x : Double) :
    x.text = "nan" ∨ x.text = "inf" ∨ x.text = "-inf" ∨
      ∃ body, Body body ∧ (x.text = body.map .char ∨ x.text = .char '-' :: body.map .char) := by
  cases x with
  | nan => exact .inl rfl
  | infinite negative =>
      cases negative with
      | false => exact .inr (.inl rfl)
      | true => exact .inr (.inr (.inl rfl))
  | finite negative m e =>
      refine .inr (.inr (.inr ?_))
      obtain ⟨body, hbody, htext⟩ : ∃ body, Body body ∧
          text (finite negative m e) = ((if negative then ['-'] else []) ++ body).map .char := by
        by_cases hm : m = 0
        · have hzero : ∀ c ∈ ['0'], c.isDigit = true := by simp
          refine ⟨['0', '.', '0'], body_small hzero 0, ?_⟩
          rw [text, if_pos hm]
        · refine ⟨layout (shortest negative m e).1 (shortest negative m e).2, ?_, ?_⟩
          · rcases shortest_cases negative hm e with hnone | hsome
            · rw [hnone]
              exact body_small (by simp) 0
            · exact body_layout hsome _
          · rw [text, if_neg hm]
      refine ⟨body, hbody, ?_⟩
      cases negative with
      | false => exact .inl htext
      | true => exact .inr htext

end OtpRegistrar.Double
