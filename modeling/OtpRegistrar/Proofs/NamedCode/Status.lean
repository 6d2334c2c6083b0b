/-
The status for a result code.

A result code is whatever a server or the directory client gives, so the map to a
status has to work for all numbers, and for what is no number besides.  A number is
looked at as a quotient with a positive denominator: whether it is zero, whether a
status can carry it, and whether it is the same as another number are told from the
quotient alone.

A code that is known may reach the map in another form, as a whole number where the
server has given a fraction or a truth value.  `IsStatusOf` compares numbers by
value, so it holds of both forms or of none.
-/
import OtpRegistrar.NamedCode.Table
import OtpRegistrar.Registration.Outcome

namespace OtpRegistrar

namespace Value

/-! ### Numbers as quotients -/

/-- The value is a number, and zero. -/
def IsZero (v : Value) : Prop := v.same (.int 0) = true

instance (v : Value) : Decidable v.IsZero := inferInstanceAs (Decidable (v.same (.int 0) = true))

/-- The value is a number within the bounds. -/
def Within (low high : Int) (v : Value) : Prop :=
  ∃ num den, v.ratio? = some (num, den) ∧ low * den ≤ num ∧ num ≤ high * den

theorem ratio?_pos {v : Value} {num : Int} {den : Nat} (hv : v.ratio? = some (num, den)) :
    0 < den := by
  cases v with
  | bool b =>
      cases hv
      exact Nat.one_pos
  | int n =>
      cases hv
      exact Nat.one_pos
  | float x =>
      cases x with
      | finite negative m e =>
          have hden : (Double.scale 2 m 1 (-e)).2 = den := by
            cases hv
            rfl
          rw [← hden]
          unfold Double.scale
          cases -e with
          | ofNat k => exact Nat.mul_pos Nat.one_pos (Nat.pow_pos Nat.two_pos)
          | negSucc k => exact Nat.one_pos
      | _ => cases hv
  | _ => cases hv

/-- A value is the same as a quotient if it is one of the same value. -/
theorem same_iff_of_ratio {a b : Value} {num : Int} {den : Nat} (hb : b.ratio? = some (num, den)) :
    a.same b = true ↔ ∃ num' den', a.ratio? = some (num', den') ∧ num' * den = num * den' := by
  have hsame : a.same b = sameNumber a b := by
    cases b with
    | bool | int | float => cases a <;> rfl
    | _ => cases hb
  rw [hsame]
  unfold sameNumber
  rw [hb]
  cases a.ratio? with
  | none => simp
  | some r =>
      obtain ⟨num', den'⟩ := r
      dsimp only
      rw [beq_iff_eq]
      constructor
      · exact fun heq => ⟨num', den', rfl, heq⟩
      · rintro ⟨num'', den'', hr, heq⟩
        cases hr
        exact heq

theorem isZero_iff {v : Value} : v.IsZero ↔ ∃ den, v.ratio? = some (0, den) := by
  unfold IsZero
  rw [same_iff_of_ratio (b := .int 0) rfl]
  constructor
  · rintro ⟨num, den, hv, hzero⟩
    obtain rfl : num = 0 := by omega
    exact ⟨den, hv⟩
  · rintro ⟨den, hv⟩
    exact ⟨0, den, hv, by omega⟩

theorem isZero_iff_of_ratio {v : Value} {num : Int} {den : Nat} (hv : v.ratio? = some (num, den)) :
    v.IsZero ↔ num = 0 := by
  rw [isZero_iff, hv]
  simp

theorem within_iff_of_ratio {v : Value} {num : Int} {den : Nat} (hv : v.ratio? = some (num, den))
    (low high : Int) : v.Within low high ↔ low * den ≤ num ∧ num ≤ high * den := by
  unfold Within
  rw [hv]
  constructor
  · rintro ⟨num', den', hsame, hbounds⟩
    cases hsame
    exact hbounds
  · exact fun hbounds => ⟨num, den, rfl, hbounds⟩

/-- A value that a whole number is the same as is a quotient. -/
theorem ratio?_of_same_int {n : Int} {v : Value} (hsame : same (.int n) v = true) :
    ∃ num den, v.ratio? = some (num, den) ∧ n * den = num := by
  have hnumber : same (.int n) v = sameNumber (.int n) v := by cases v <;> rfl
  have hsame' := hsame
  rw [hnumber] at hsame'
  unfold sameNumber at hsame'
  cases hv : v.ratio? with
  | none =>
      rw [hv] at hsame'
      cases hsame'
  | some r =>
      obtain ⟨num, den⟩ := r
      obtain ⟨num', den', hr, heq⟩ := (same_iff_of_ratio hv).mp hsame
      cases hr
      exact ⟨num, den, rfl, by rw [heq]; exact Int.mul_one _⟩

/-- The bounds of a number are those of all that it is the same as. -/
theorem Within.of_same {a b : Value} {low high : Int} (hwithin : b.Within low high)
    (hsame : a.same b = true) : a.Within low high := by
  obtain ⟨num, den, hb, hlow, hhigh⟩ := hwithin
  obtain ⟨num', den', ha, heq⟩ := (same_iff_of_ratio hb).mp hsame
  have hden : (0 : Int) < den := Int.natCast_pos.mpr (ratio?_pos hb)
  refine ⟨num', den', ha, ?_, ?_⟩
  · refine Int.le_of_mul_le_mul_right ?_ hden
    calc low * den' * den = low * den * den' := Int.mul_right_comm _ _ _
      _ ≤ num * den' := Int.mul_le_mul_of_nonneg_right hlow (Int.natCast_nonneg _)
      _ = num' * den := heq.symm
  · refine Int.le_of_mul_le_mul_right ?_ hden
    calc num' * den = num * den' := heq
      _ ≤ high * den * den' := Int.mul_le_mul_of_nonneg_right hhigh (Int.natCast_nonneg _)
      _ = high * den' * den := Int.mul_right_comm _ _ _

theorem not_isZero_of_truthy {v : Value} (hv : v.truthy = true) : ¬v.IsZero := by
  rw [isZero_iff]
  rintro ⟨den, hzero⟩
  cases v with
  | bool b =>
      cases b with
      | true => cases hzero
      | false => cases hv
  | int n =>
      cases hzero
      cases hv
  | float x =>
      cases x with
      | finite negative m e =>
          have hm : m ≠ 0 := by simpa [truthy] using hv
          have hnum : (Double.scale 2 m 1 (-e)).1 ≠ 0 := by
            unfold Double.scale
            cases -e with
            | ofNat k => exact hm
            | negSucc k => exact Nat.mul_ne_zero hm (Nat.ne_of_gt (Nat.pow_pos Nat.two_pos))
          have hratio : (if negative then -((Double.scale 2 m 1 (-e)).1 : Int)
              else ((Double.scale 2 m 1 (-e)).1 : Int)) = 0 := by
            exact congrArg (fun r => (r.getD (0, 1)).1) hzero
          cases negative <;> simp at hratio <;> exact hnum hratio
      | _ => cases hzero
  | _ => cases hzero

end Value

/-! ### The status -/

namespace ResultCode

/-- The status for a code: zero for zero, the code itself where a status can carry it, and 255 for
every other number.  What is no number is left as it is. -/
inductive IsStatusOf (code : Value) : Value → Prop
  | success (hzero : code.IsZero) : IsStatusOf code (.int 0)
  | carried {status : Value} (hwithin : code.Within 1 255) (hsame : status.same code = true) :
      IsStatusOf code status
  | beyond (hzero : ¬code.IsZero) (hbeyond : ¬code.Within 1 255) (hnumber : code ≠ .float .nan) :
      IsStatusOf code (.int 255)
  | nan (hnan : code = .float .nan) : IsStatusOf code code

theorem exitStatus?_of_ratio {code : Value} {num : Int} {den : Nat}
    (hcode : code.ratio? = some (num, den)) :
    exitStatus? code = some (if num = 0 then .int 0
      else if num < den ∨ 255 * (den : Int) < num then .int 255 else code) := by
  cases code with
  | int n =>
      cases hcode
      unfold exitStatus? exitStatus
      simp only [Int.natCast_one, Int.mul_one]
      split
      · rfl
      · split <;> rfl
  | bool b =>
      unfold exitStatus?
      dsimp only
      rw [hcode]
      dsimp only
      split
      · rfl
      · split <;> rfl
  | float x =>
      cases x with
      | finite negative m e =>
          unfold exitStatus?
          dsimp only
          rw [hcode]
          dsimp only
          split
          · rfl
          · split <;> rfl
      | _ => cases hcode
  | _ => cases hcode

/-- Only infinities and what is no number have a status without being a quotient. -/
theorem exitStatus?_of_no_ratio {code status : Value} (hcode : code.ratio? = none)
    (hstatus : exitStatus? code = some status) :
    (∃ negative, code = .float (.infinite negative)) ∧ status = .int 255 ∨
      code = .float .nan ∧ status = .float .nan := by
  cases code with
  | int n => cases hcode
  | bool b => cases hcode
  | float x =>
      cases x with
      | finite negative m e => cases hcode
      | infinite negative =>
          cases hstatus
          exact .inl ⟨⟨negative, rfl⟩, rfl⟩
      | nan =>
          cases hstatus
          exact .inr ⟨rfl, rfl⟩
  | _ => cases hstatus

/-- **The map gives every code its status.** -/
theorem isStatusOf_of_exitStatus? {code status : Value} (hstatus : exitStatus? code = some status) :
    IsStatusOf code status := by
  cases hcode : code.ratio? with
  | none =>
      rcases exitStatus?_of_no_ratio hcode hstatus with ⟨⟨negative, rfl⟩, rfl⟩ | ⟨rfl, rfl⟩
      · refine .beyond ?_ ?_ (fun hnan => nomatch hnan)
        · rw [Value.isZero_iff]
          rintro ⟨den, hzero⟩
          cases hzero
        · rintro ⟨num, den, hnumber, -⟩
          cases hnumber
      · exact .nan rfl
  | some r =>
      obtain ⟨num, den⟩ := r
      rw [exitStatus?_of_ratio hcode] at hstatus
      cases hstatus
      have hwithin := Value.within_iff_of_ratio hcode 1 255
      split
      · rename_i hzero
        exact .success ((Value.isZero_iff_of_ratio hcode).mpr hzero)
      · rename_i hzero
        rw [← Value.isZero_iff_of_ratio hcode] at hzero
        split
        · rename_i hbeyond
          refine .beyond hzero (fun hin => ?_) (fun hnan => ?_)
          · have := hwithin.mp hin
            omega
          · rw [hnan] at hcode
            cases hcode
        · exact .carried (hwithin.mpr (by omega)) ((Value.same_iff_of_ratio hcode).mpr
            ⟨num, den, hcode, rfl⟩)

namespace IsStatusOf

variable {code status : Value}

/-- A status for a whole number is one for all that the number is the same as. -/
theorem of_same_int {n : Int} (hsame : Value.same (.int n) code = true)
    (hstatus : IsStatusOf (.int n) status) : IsStatusOf code status := by
  obtain ⟨num, den, hcode, rfl⟩ := Value.ratio?_of_same_int hsame
  have hden : (0 : Int) < den := Int.natCast_pos.mpr (Value.ratio?_pos hcode)
  have hzero : code.IsZero ↔ (Value.int n).IsZero := by
    rw [Value.isZero_iff_of_ratio hcode, Value.isZero_iff_of_ratio (v := .int n) rfl]
    exact Int.mul_eq_zero.trans (or_iff_left (Int.ne_of_gt hden))
  have hwithin : code.Within 1 255 ↔ (Value.int n).Within 1 255 := by
    rw [Value.within_iff_of_ratio hcode, Value.within_iff_of_ratio (v := .int n) rfl]
    rw [Int.mul_le_mul_right hden, Int.mul_le_mul_right hden]
    simp
  cases hstatus with
  | success hn => exact .success (hzero.mpr hn)
  | carried hn hstatus =>
      obtain ⟨num', den', hratio, heq⟩ := (Value.same_iff_of_ratio (b := .int n) rfl).mp hstatus
      have hcarried := (Value.same_iff_of_ratio (a := status) hcode).mpr
      refine .carried (hwithin.mpr hn) (hcarried ⟨num', den', hratio, ?_⟩)
      rw [Int.natCast_one, Int.mul_one] at heq
      rw [heq]
      exact Int.mul_right_comm _ _ _
  | beyond hn hbeyond _ =>
      refine .beyond (fun hz => hn (hzero.mp hz)) (fun hw => hbeyond (hwithin.mp hw)) fun hnan => ?_
      rw [hnan] at hcode
      cases hcode
  | nan hnan => cases hnan

/-- A status lies within bounds, unless it stands for what is no number. -/
theorem within (hstatus : IsStatusOf code status) :
    status.Within 0 255 ∨ code = .float .nan ∧ status = .float .nan := by
  cases hstatus with
  | success hzero => exact .inl ⟨0, 1, rfl, by omega, by omega⟩
  | carried hwithin hsame =>
      obtain ⟨num, den, hratio, hlow, hhigh⟩ := hwithin.of_same hsame
      exact .inl ⟨num, den, hratio, by omega, hhigh⟩
  | beyond _ _ _ => exact .inl ⟨255, 1, rfl, by omega, by omega⟩
  | nan hnan => exact .inr ⟨hnan, hnan⟩

theorem isZero_iff (hstatus : IsStatusOf code status) : status.IsZero ↔ code.IsZero := by
  cases hstatus with
  | success hzero => exact iff_of_true rfl hzero
  | carried hwithin hsame =>
      have hpositive : ∀ {v : Value}, v.Within 1 255 → ¬v.IsZero := by
        rintro v ⟨num, den, hv, hlow, -⟩ hzero
        have hden := Value.ratio?_pos hv
        rw [Value.isZero_iff_of_ratio hv] at hzero
        omega
      exact iff_of_false (hpositive (hwithin.of_same hsame)) (hpositive hwithin)
  | beyond hzero _ _ => exact iff_of_false (by decide) hzero
  | nan hnan => exact Iff.rfl

end IsStatusOf

end ResultCode

namespace Registration.Outcome

/-- The status of an outcome is one for its code. -/
theorem isStatusOf_of_exitStatus {o : Outcome} {status : Value}
    (hstatus : o.exitStatus = .ok status) : ResultCode.IsStatusOf o.code status := by
  unfold exitStatus at hstatus
  cases hmapped : ResultCode.exitStatus? o.code with
  | none =>
      rw [hmapped] at hstatus
      cases hstatus
  | some v =>
      rw [hmapped] at hstatus
      cases hstatus
      exact ResultCode.isStatusOf_of_exitStatus? hmapped

/-- The status of the outcome for a code is one for the code, known or not. -/
theorem isStatusOf_of_ofCode {code status : Value}
    (hstatus : (ofCode code).exitStatus = .ok status) : ResultCode.IsStatusOf code status := by
  have hmapped := isStatusOf_of_exitStatus hstatus
  unfold ofCode at hmapped
  cases hfound : ResultCode.enumeration.byCode? code with
  | none =>
      rw [hfound] at hmapped
      exact hmapped
  | some m =>
      rw [hfound] at hmapped
      unfold Enumeration.byCode? at hfound
      have hsame := List.find?_some hfound
      exact hmapped.of_same_int hsame

end Registration.Outcome

end OtpRegistrar
