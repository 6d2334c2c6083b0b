/-
What a bare text stands for.

A bare text is tried as a whole number, as a binary64 number and as a constant, in this
order, and is itself if it is none of them.  The order does not matter, because no text is
two of them: a binary64 number is never written like a whole one, and the letters of a
constant are written in no number.  `Stands` therefore lists what a text can stand for
without an order, and the conversion finds it.

Nothing is lost by the conversion.  A number is only taken for one if it is written as it
would be printed, so printing it gives the text again.  What is written otherwise, with a
sign or a zero too many, with a gap, or with a digit of another script, stays a text.
-/
import OtpRegistrar.Value.Scalar
import OtpRegistrar.Proofs.Number.Double
import OtpRegistrar.Proofs.Text.Casing

namespace OtpRegistrar.Value

open Text (InSomeCase IsSafeWord)

/-- What a bare text stands for. -/
inductive Stands (t : Text) : Value → Prop
  | int {n : Int} (hdecimal : Integer.Decimal t n) : Stands t (.int n)
  /-- A binary64 number has to be written as it is printed. -/
  | float {x : Double} (hread : Double.ofText? t = some x) (hwritten : x.text = t) :
      Stands t (.float x)
  | yes (hcase : InSomeCase "true" t) : Stands t (.bool true)
  | no (hcase : InSomeCase "false" t) : Stands t (.bool false)
  | nothing (hcase : InSomeCase "none" t) : Stands t .null
  | itself (hint : ∀ n, ¬Integer.Decimal t n)
      (hfloat : ∀ x, Double.ofText? t = some x → x.text ≠ t)
      (hyes : ¬InSomeCase "true" t) (hno : ¬InSomeCase "false" t)
      (hnothing : ¬InSomeCase "none" t) : Stands t (.text t)

/-- The text spells a constant. -/
def SpellsConstant (t : Text) : Prop :=
  InSomeCase "true" t ∨ InSomeCase "false" t ∨ InSomeCase "none" t

instance : DecidablePred SpellsConstant := fun t =>
  inferInstanceAs (Decidable (InSomeCase "true" t ∨ InSomeCase "false" t ∨ InSomeCase "none" t))

/-- The text is written as no number and no constant is: a symbol in it is an underscore, white
space or none of ASCII, or it begins with a plus, or with a zero that no point follows. -/
inductive Irregular : Text → Prop
  | symbol {t : Text} {s : Symbol} (hs : s ∈ t)
      (hodd : s = .char '_' ∨ s.isBlank = true ∨ 128 ≤ s.code) : Irregular t
  | plus (t : Text) : Irregular (.char '+' :: t)
  | zero {t : Text} (hmore : t ≠ []) (hpoint : t.head? ≠ some (.char '.')) :
      Irregular (.char '0' :: t)
  | minusZero {t : Text} (hpoint : t.head? ≠ some (.char '.')) :
      Irregular (.char '-' :: .char '0' :: t)

/-! ### How numbers and constants are written -/

/-- Is the symbol a letter of ASCII? -/
def isLetter : Symbol → Bool
  | .char c => c.isAlpha
  | .stray _ => false

/-- Is the symbol a letter or digit of ASCII, the point or a sign? -/
def isPlain : Symbol → Bool
  | .char c => c.isAlphanum || c == '.' || c == '+' || c == '-'
  | .stray _ => false

/-- The text is written as a number or a constant may be. -/
structure Regular (t : Text) : Prop where
  plain : ∀ s ∈ t, isPlain s = true
  plus : t.head? ≠ some (.char '+')
  zero : ∀ rest, t = .char '0' :: rest → rest = [] ∨ rest.head? = some (.char '.')
  minusZero : ∀ rest, t = .char '-' :: .char '0' :: rest → rest.head? = some (.char '.')

theorem lt_of_isAlphanum {c : Char} (hc : c.isAlphanum = true) : c.toNat < 128 := by
  have hkinds : (c.isUpper = true ∨ c.isLower = true) ∨ c.isDigit = true := by
    rw [← Bool.or_eq_true, ← Bool.or_eq_true]
    exact hc
  show c.val.toNat < 128
  rcases hkinds with (hupper | hlower) | hdigit
  · have hlast : c.val.toNat ≤ 90 := (of_decide_eq_true hupper).2
    omega
  · have hlast : c.val.toNat ≤ 122 := of_decide_eq_true (Bool.and_eq_true_iff.mp hlower).2
    omega
  · have hlast : c.val.toNat ≤ 57 := of_decide_eq_true (Bool.and_eq_true_iff.mp hdigit).2
    omega

theorem plain_spec {s : Symbol} (hs : isPlain s = true) :
    s ≠ .char '_' ∧ s.isBlank = false ∧ s.code < 128 := by
  cases s with
  | stray low => cases hs
  | char c =>
      have hlt : c.toNat < 128 := by
        simp only [isPlain, Bool.or_eq_true, beq_iff_eq] at hs
        rcases hs with ((halphanum | rfl) | rfl) | rfl
        · exact lt_of_isAlphanum halphanum
        · decide
        · decide
        · decide
      have hlook : ∀ n : Fin 128, isPlain (.char (Char.ofNat n)) = true →
          Symbol.char (Char.ofNat n) ≠ .char '_' ∧
            (Symbol.char (Char.ofNat n)).isBlank = false := by decide
      obtain ⟨hscore, hblank⟩ := Text.ascii_induction
        (p := fun c => isPlain (.char c) = true →
          Symbol.char c ≠ .char '_' ∧ (Symbol.char c).isBlank = false) hlook hlt hs
      exact ⟨hscore, hblank, hlt⟩

theorem Irregular.not_regular {t : Text} (hirregular : Irregular t) : ¬Regular t := by
  intro hregular
  cases hirregular with
  | symbol hs hodd =>
      obtain ⟨hscore, hblank, hnear⟩ := plain_spec (hregular.plain _ hs)
      rcases hodd with heq | hgap | hfar
      · exact hscore heq
      · rw [hblank] at hgap
        cases hgap
      · omega
  | plus t => exact hregular.plus rfl
  | zero hmore hpoint => exact (hregular.zero _ rfl).elim hmore hpoint
  | minusZero hpoint => exact hpoint (hregular.minusZero _ rfl)

/-! ### Whole numbers -/

theorem digit_eq_zero_iff (d : Fin 10) : Integer.digit d = .char '0' ↔ d = 0 := by
  revert d
  decide

theorem plain_of_isDigit {c : Char} (hc : c.isDigit = true) : isPlain (.char c) = true := by
  simp [isPlain, Char.isAlphanum, hc]

theorem regular_of_decimal {t : Text} {n : Int} (hdecimal : Integer.Decimal t n) : Regular t where
  plain := by
    have hdigit : ∀ d : Fin 10, isPlain (Integer.digit d) = true := by decide
    intro s hs
    rcases hdecimal.mem hs with rfl | ⟨d, rfl⟩
    · rfl
    · exact hdigit d
  plus := by
    intro heq
    rcases hdecimal.mem (List.mem_of_head? heq) with hminus | ⟨d, hdigit⟩
    · exact absurd hminus (by decide)
    · exact Integer.digit_ne (by decide) d hdigit.symm
  zero := by
    intro rest heq
    cases hdecimal with
    | zero => exact .inl (List.cons.inj heq).2.symm
    | positive hfirst hfew =>
        exact absurd ((digit_eq_zero_iff _).mp (List.cons.inj heq).1) hfirst
    | negative hfirst hfew => exact absurd (List.cons.inj heq).1 (by decide)
  minusZero := by
    intro rest heq
    cases hdecimal with
    | zero => exact absurd (List.cons.inj heq).1 (by decide)
    | positive hfirst hfew => exact absurd (List.cons.inj heq).1 (Integer.digit_ne (by decide) _)
    | negative hfirst hfew =>
        have hsecond := (List.cons.inj (List.cons.inj heq).2).1
        exact absurd ((digit_eq_zero_iff _).mp hsecond) hfirst

/-- A whole number is not written with letters alone. -/
theorem exists_not_letter_of_decimal {t : Text} {n : Int} (hdecimal : Integer.Decimal t n) :
    ∃ s ∈ t, isLetter s = false := by
  have hdigit : ∀ d : Fin 10, isLetter (Integer.digit d) = false := by decide
  cases hdecimal with
  | zero => exact ⟨_, List.mem_cons_self, rfl⟩
  | positive hfirst hfew => exact ⟨_, List.mem_cons_self, hdigit _⟩
  | negative hfirst hfew => exact ⟨_, List.mem_cons_self, rfl⟩

/-! ### Constants -/

theorem regular_of_letters {t : Text} (hletters : ∀ s ∈ t, isLetter s = true) : Regular t where
  plain := by
    intro s hs
    have hletter := hletters s hs
    cases s with
    | stray low => cases hletter
    | char c =>
        have halpha : c.isAlpha = true := hletter
        simp [isPlain, Char.isAlphanum, halpha]
  plus := fun heq => absurd (hletters _ (List.mem_of_head? heq)) (by decide)
  zero := fun rest heq => absurd (hletters (.char '0') (heq ▸ List.mem_cons_self)) (by decide)
  minusZero := fun rest heq => absurd (hletters (.char '-') (heq ▸ List.mem_cons_self)) (by decide)

theorem letters_of_inSomeCase {word : String} (hword : IsSafeWord word) {t : Text}
    (hcase : InSomeCase word t) : ∀ s ∈ t, isLetter s = true := by
  intro s hs
  obtain ⟨c, hc, hspelled⟩ := hcase.mem hs
  have halpha : c.isLower = true → c.isAlpha = true ∧ c.toUpper.isAlpha = true :=
    Text.ascii_induction
      (p := fun c => c.isLower = true → c.isAlpha = true ∧ c.toUpper.isAlpha = true)
      (by decide) (hword c hc).lt
  obtain ⟨hsmall, hcapital⟩ := halpha (hword c hc).1
  rcases hspelled with rfl | rfl
  · exact hsmall
  · exact hcapital

theorem letters_of_spellsConstant {t : Text} (hconstant : SpellsConstant t) :
    ∀ s ∈ t, isLetter s = true := by
  rcases hconstant with hyes | hno | hnothing
  · exact letters_of_inSomeCase (by decide) hyes
  · exact letters_of_inSomeCase (by decide) hno
  · exact letters_of_inSomeCase (by decide) hnothing

/-! ### Binary64 numbers -/

theorem plain_of_body {body : List Char} (hbody : Double.Body body) :
    ∀ s ∈ body.map Symbol.char, isPlain s = true := by
  have hmarks : ∀ c ∈ ['.', 'e', '+', '-'], isPlain (.char c) = true := by simp [isPlain]
  intro s hs
  obtain ⟨c, hc, rfl⟩ := List.mem_map.mp hs
  rcases hbody.mem c hc with hdigit | hmark
  · exact plain_of_isDigit hdigit
  · exact hmarks c hmark

/-- The digits of a binary64 number begin with one, and behind a zero there is the point. -/
theorem begins_of_body {body : List Char} (hbody : Double.Body body) {d : Char} {rest : Text}
    (hbegins : body.map Symbol.char = .char d :: rest) :
    d.isDigit = true ∧ (d = '0' → rest.head? = some (.char '.')) := by
  obtain ⟨c, more, rfl, hdigit, hpoint⟩ := hbody.first
  obtain ⟨heq, rfl⟩ := List.cons.inj hbegins
  obtain rfl := Symbol.char.inj heq
  refine ⟨hdigit, fun hzero => ?_⟩
  rw [List.head?_map, hpoint hzero]
  rfl

theorem regular_of_body {body : List Char} (hbody : Double.Body body) :
    Regular (body.map Symbol.char) where
  plain := plain_of_body hbody
  plus := by
    intro heq
    obtain ⟨rest, hbegins⟩ := List.head?_eq_some_iff.mp heq
    exact absurd (begins_of_body hbody hbegins).1 (by decide)
  zero := fun rest heq => .inr ((begins_of_body hbody heq).2 rfl)
  minusZero := fun rest heq => absurd (begins_of_body hbody heq).1 (by decide)

theorem regular_of_minus_body {body : List Char} (hbody : Double.Body body) :
    Regular (.char '-' :: body.map Symbol.char) where
  plain := List.forall_mem_cons.mpr ⟨rfl, plain_of_body hbody⟩
  plus := by simp
  zero := fun rest heq => absurd (List.cons.inj heq).1 (by decide)
  minusZero := fun rest heq => (begins_of_body hbody (List.cons.inj heq).2).2 rfl

theorem regular_text (x : Double) : Regular x.text := by
  rcases x.text_cases with hnan | hinf | hminus | ⟨body, hbody, htext | htext⟩
  · rw [hnan]
    exact regular_of_letters (by decide)
  · rw [hinf]
    exact regular_of_letters (by decide)
  · rw [hminus]
    refine ⟨by decide, by decide, fun rest heq => ?_, fun rest heq => ?_⟩
    · exact absurd (List.cons.inj heq).1 (by decide)
    · exact absurd (List.cons.inj (List.cons.inj heq).2).1 (by decide)
  · rw [htext]
    exact regular_of_body hbody
  · rw [htext]
    exact regular_of_minus_body hbody

/-- A binary64 number is not written like a whole one. -/
theorem text_ne_of_decimal {t : Text} {n : Int} (hdecimal : Integer.Decimal t n) (x : Double) :
    x.text ≠ t := by
  rintro rfl
  have hnone : ∀ {s : Symbol}, s.decimalValue? = none → s ≠ .char '-' → s ∉ x.text := by
    intro s hs hminus hmem
    rcases hdecimal.mem hmem with heq | ⟨d, rfl⟩
    · exact hminus heq
    · exact Integer.digit_ne hs d rfl
  rcases x.text_cases with hnan | hinf | hminus | ⟨body, hbody, htext⟩
  · exact hnone (s := .char 'n') (by decide) (by decide) (by rw [hnan]; decide)
  · exact hnone (s := .char 'n') (by decide) (by decide) (by rw [hinf]; decide)
  · exact hnone (s := .char 'n') (by decide) (by decide) (by rw [hminus]; decide)
  · have hmem : ∀ {c : Char}, c ∈ body → Symbol.char c ∈ x.text := by
      intro c hc
      have hin := List.mem_map_of_mem (f := Symbol.char) hc
      rcases htext with htext | htext
      · rwa [htext]
      · rw [htext]
        exact List.mem_cons_of_mem _ hin
    rcases hbody.broken with hpoint | hexponent
    · exact hnone (by decide) (by decide) (hmem hpoint)
    · exact hnone (by decide) (by decide) (hmem hexponent)

/-- A binary64 number is not written like a constant. -/
theorem not_spellsConstant_text (x : Double) : ¬SpellsConstant x.text := by
  intro hconstant
  rcases x.text_cases with hnan | hinf | hminus | ⟨body, hbody, htext⟩
  · rw [hnan] at hconstant
    exact absurd hconstant (by decide)
  · rw [hinf] at hconstant
    exact absurd hconstant (by decide)
  · rw [hminus] at hconstant
    exact absurd hconstant (by decide)
  · have hletters := letters_of_spellsConstant hconstant
    obtain ⟨c, rest, rfl, hdigit, -⟩ := hbody.first
    rcases htext with htext | htext
    · rw [htext] at hletters
      have halpha : c.isAlpha = true := hletters _ List.mem_cons_self
      have hboth : ¬(c.isDigit = true ∧ c.isAlpha = true) :=
        Text.ascii_induction (p := fun c => ¬(c.isDigit = true ∧ c.isAlpha = true)) (by decide)
          (lt_of_isAlphanum (by simp [Char.isAlphanum, halpha]))
      exact hboth ⟨hdigit, halpha⟩
    · rw [htext] at hletters
      exact absurd (hletters _ List.mem_cons_self) (by decide)

/-! ### The conversion -/

theorem canonicalInt?_eq_some_iff {t : Text} {n : Int} :
    canonicalInt? t = some n ↔ Integer.Decimal t n := by
  rw [Integer.decimal_iff]
  unfold canonicalInt?
  split
  · rename_i m hread
    rw [hread]
    split
    · rename_i htext
      constructor
      · intro heq
        obtain rfl := Option.some.inj heq
        exact ⟨rfl, htext⟩
      · rintro ⟨heq, -⟩
        rw [Except.ok.inj heq]
    · rename_i hother
      constructor
      · intro heq
        cases heq
      · rintro ⟨heq, htext⟩
        rw [Except.ok.inj heq] at hother
        exact absurd htext hother
  · rename_i hread
    rw [hread]
    simp

theorem canonicalFloat?_eq_some_iff {t : Text} {x : Double} :
    canonicalFloat? t = some x ↔ Double.ofText? t = some x ∧ x.text = t := by
  unfold canonicalFloat?
  cases Double.ofText? t with
  | none => simp
  | some y =>
      dsimp only
      split
      · rename_i htext
        constructor
        · intro heq
          exact ⟨heq, by rw [← Option.some.inj heq]; exact htext⟩
        · rintro ⟨heq, -⟩
          exact heq
      · rename_i hother
        constructor
        · intro heq
          cases heq
        · rintro ⟨heq, htext⟩
          rw [Option.some.inj heq] at hother
          exact absurd htext hother

theorem constant?_eq (t : Text) :
    constant? t = if InSomeCase "true" t then some (bool true)
      else if InSomeCase "false" t then some (bool false)
      else if InSomeCase "none" t then some null
      else none := by
  have hyes : Text.lower t = Text.ofString "true" ↔ InSomeCase "true" t :=
    Text.lower_eq_iff (by decide) t
  have hno : Text.lower t = Text.ofString "false" ↔ InSomeCase "false" t :=
    Text.lower_eq_iff (by decide) t
  have hnothing : Text.lower t = Text.ofString "none" ↔ InSomeCase "none" t :=
    Text.lower_eq_iff (by decide) t
  unfold constant?
  simp only [hyes, hno, hnothing]

theorem canonicalInt?_eq_none {t : Text} (hint : ∀ n, ¬Integer.Decimal t n) :
    canonicalInt? t = none := by
  rw [Option.eq_none_iff_forall_ne_some]
  intro n hsome
  exact hint n (canonicalInt?_eq_some_iff.mp hsome)

theorem canonicalFloat?_eq_none {t : Text}
    (hfloat : ∀ x, Double.ofText? t = some x → x.text ≠ t) : canonicalFloat? t = none := by
  rw [Option.eq_none_iff_forall_ne_some]
  intro x hsome
  obtain ⟨hread, hwritten⟩ := canonicalFloat?_eq_some_iff.mp hsome
  exact hfloat x hread hwritten

theorem ofScalar_eq (t : Text) : ofScalar t =
    match canonicalInt? t, canonicalFloat? t with
    | some n, _ => int n
    | none, some x => float x
    | none, none => (constant? t).getD (text t) := by
  unfold ofScalar
  simp only [if_true]
  cases canonicalInt? t with
  | some n => rfl
  | none =>
      cases canonicalFloat? t with
      | some x => rfl
      | none => rfl

/-- A constant is no number. -/
theorem ofScalar_of_spellsConstant {t : Text} (hconstant : SpellsConstant t) :
    ofScalar t = (constant? t).getD (text t) := by
  have hint : canonicalInt? t = none := by
    refine canonicalInt?_eq_none fun n hdecimal => ?_
    obtain ⟨s, hs, hother⟩ := exists_not_letter_of_decimal hdecimal
    rw [letters_of_spellsConstant hconstant s hs] at hother
    cases hother
  have hfloat : canonicalFloat? t = none := by
    refine canonicalFloat?_eq_none fun x _ hwritten => ?_
    rw [← hwritten] at hconstant
    exact not_spellsConstant_text x hconstant
  rw [ofScalar_eq, hint, hfloat]

/-- The conversion finds something that the text stands for. -/
theorem stands_ofScalar (t : Text) : Stands t (ofScalar t) := by
  rw [ofScalar_eq]
  cases hint : canonicalInt? t with
  | some n => exact .int (canonicalInt?_eq_some_iff.mp hint)
  | none =>
  cases hfloat : canonicalFloat? t with
  | some x =>
      obtain ⟨hread, hwritten⟩ := canonicalFloat?_eq_some_iff.mp hfloat
      exact .float hread hwritten
  | none =>
      dsimp only
      rw [constant?_eq]
      by_cases hyes : InSomeCase "true" t
      · rw [if_pos hyes]
        exact .yes hyes
      rw [if_neg hyes]
      by_cases hno : InSomeCase "false" t
      · rw [if_pos hno]
        exact .no hno
      rw [if_neg hno]
      by_cases hnothing : InSomeCase "none" t
      · rw [if_pos hnothing]
        exact .nothing hnothing
      rw [if_neg hnothing]
      refine .itself (fun n hdecimal => ?_) (fun x hread hwritten => ?_) hyes hno hnothing
      · rw [canonicalInt?_eq_some_iff.mpr hdecimal] at hint
        cases hint
      · rw [canonicalFloat?_eq_some_iff.mpr ⟨hread, hwritten⟩] at hfloat
        cases hfloat

/-- What the text stands for is what the conversion finds. -/
theorem ofScalar_of_stands {t : Text} {v : Value} (hstands : Stands t v) : ofScalar t = v := by
  cases hstands with
  | int hdecimal => rw [ofScalar_eq, canonicalInt?_eq_some_iff.mpr hdecimal]
  | @float x hread hwritten =>
      have hint := canonicalInt?_eq_none fun n hdecimal =>
        text_ne_of_decimal hdecimal x hwritten
      rw [ofScalar_eq, hint, canonicalFloat?_eq_some_iff.mpr ⟨hread, hwritten⟩]
  | yes hcase =>
      rw [ofScalar_of_spellsConstant (.inl hcase), constant?_eq, if_pos hcase]
      rfl
  | no hcase =>
      have hyes : ¬InSomeCase "true" t := fun hother =>
        absurd (hcase.unique (by decide) (by decide) hother) (by decide)
      rw [ofScalar_of_spellsConstant (.inr (.inl hcase)), constant?_eq, if_neg hyes, if_pos hcase]
      rfl
  | nothing hcase =>
      have hyes : ¬InSomeCase "true" t := fun hother =>
        absurd (hcase.unique (by decide) (by decide) hother) (by decide)
      have hno : ¬InSomeCase "false" t := fun hother =>
        absurd (hcase.unique (by decide) (by decide) hother) (by decide)
      rw [ofScalar_of_spellsConstant (.inr (.inr hcase)), constant?_eq, if_neg hyes, if_neg hno,
        if_pos hcase]
      rfl
  | itself hint hfloat hyes hno hnothing =>
      rw [ofScalar_eq, canonicalInt?_eq_none hint, canonicalFloat?_eq_none hfloat]
      dsimp only
      rw [constant?_eq, if_neg hyes, if_neg hno, if_neg hnothing]
      rfl

/-- What is written irregularly stands for itself. -/
theorem stands_of_irregular {t : Text} (hirregular : Irregular t) : Stands t (text t) := by
  have hnot := hirregular.not_regular
  have hconstant : ¬SpellsConstant t := fun hspells =>
    hnot (regular_of_letters (letters_of_spellsConstant hspells))
  refine .itself (fun n hdecimal => hnot (regular_of_decimal hdecimal)) (fun x _ hwritten => ?_)
    (fun hyes => hconstant (.inl hyes)) (fun hno => hconstant (.inr (.inl hno)))
    (fun hnothing => hconstant (.inr (.inr hnothing)))
  exact hnot (hwritten ▸ regular_text x)

/-- What a text that is no constant stands for is printed as the text. -/
theorem shown_of_stands {t : Text} {v : Value} (hstands : Stands t v)
    (hconstant : ¬SpellsConstant t) : v.shown = t := by
  cases hstands with
  | int hdecimal => exact hdecimal.text_eq
  | float hread hwritten => exact hwritten
  | yes hcase => exact absurd (.inl hcase) hconstant
  | no hcase => exact absurd (.inr (.inl hcase)) hconstant
  | nothing hcase => exact absurd (.inr (.inr hcase)) hconstant
  | itself hint hfloat hyes hno hnothing => rfl

/-- **A text is converted to what it stands for, and to nothing else**; unless that is a constant,
it is printed as the text again.  What is written irregularly is not converted at all. -/
theorem ofScalar_iff_stands (t : Text) :
    (∀ v, ofScalar t = v ↔ Stands t v) ∧
    (¬SpellsConstant t → (ofScalar t).shown = t) ∧
    (Irregular t → ofScalar t = text t) := by
  refine ⟨fun v => ⟨?_, ofScalar_of_stands⟩, shown_of_stands (stands_ofScalar t),
    fun hirregular => ofScalar_of_stands (stands_of_irregular hirregular)⟩
  rintro rfl
  exact stands_ofScalar t

/-- A negative number is one, a number of another spelling is printed in it, and a zero in front
keeps a text a text. -/
theorem ofScalar_iff_stands_spellings :
    ofScalar (Text.ofString "-120") = int (-120) ∧
    (¬SpellsConstant (Text.ofString "1e+16") ∧
      (ofScalar (Text.ofString "1e+16")).shown = Text.ofString "1e+16") ∧
    (Irregular (Text.ofString "007") ∧
      ofScalar (Text.ofString "007") = text (Text.ofString "007")) := by
  have hdecimal : Integer.Decimal (Text.ofString "-120") (-120) :=
    @Integer.Decimal.negative 1 [2, 0] (by decide) (by decide)
  have hconstant : ¬SpellsConstant (Text.ofString "1e+16") := by decide
  have hzero : Irregular (Text.ofString "007") := .zero (by decide) (by decide)
  refine ⟨((ofScalar_iff_stands _).1 _).mpr (.int hdecimal), ⟨hconstant, ?_⟩, hzero, ?_⟩
  · exact (ofScalar_iff_stands _).2.1 hconstant
  · exact (ofScalar_iff_stands _).2.2 hzero

end OtpRegistrar.Value
