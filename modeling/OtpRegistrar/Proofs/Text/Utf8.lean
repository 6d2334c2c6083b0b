/-
What is written as UTF-8 can be read back.

A character is written as a lead byte and the tails that it asks for, each with six
bits of its number.  The reading machine takes them in turn: the lead byte says how
many tails are owed and between which bounds the first of them lies, and every tail
adds its bits.  That a character fits these bounds is where surrogates, overlong
sequences and numbers that are too large are ruled out.

A text without stray bytes is therefore read back from its bytes.  In the other
direction nothing that is read holds a stray byte, however it was read: as a whole,
or line by line with its line ends unified.
-/
import OtpRegistrar.Text.Lines

namespace OtpRegistrar.Text

/-! ### Reading what was written -/

theorem toNat_ofNat {n : Nat} (hn : n < 256) : (UInt8.ofNat n).toNat = n :=
  UInt8.toNat_ofNat_of_lt' hn

/-- A tail within its bounds adds six bits. -/
theorem Sequence.next_tail (s : Sequence) {n : Nat} (hlow : s.low ≤ n % 64 + 128)
    (hhigh : n % 64 + 128 ≤ s.high) :
    s.next (UInt8.ofNat (n % 64 + 128)) =
      if s.owed ≤ 1 then .complete (Char.ofNat (s.bits * 64 + n % 64))
      else .pending ⟨s.bits * 64 + n % 64, s.owed - 1, 0x80, 0xBF,
        UInt8.ofNat (n % 64 + 128) :: s.taken⟩ := by
  have hbits : (n % 64 + 128) % 64 = n % 64 := by omega
  unfold next
  rw [toNat_ofNat (by omega), if_pos ⟨hlow, hhigh⟩, hbits]

/-- The lead byte of two asks for one tail. -/
theorem firstByte_two {v : Nat} (hv : 0x7F < v ∧ v ≤ 0x7FF) :
    firstByte (UInt8.ofNat (v / 64 % 32 + 192)) =
      .pending ⟨v / 64, 1, 0x80, 0xBF, [UInt8.ofNat (v / 64 % 32 + 192)]⟩ := by
  unfold firstByte
  rw [toNat_ofNat (by omega), if_neg (by omega)]
  unfold lead?
  rw [if_pos (by omega), show v / 64 % 32 + 192 - 0xC0 = v / 64 by omega]

/-- The lead byte of three asks for two tails, the first of them within its bounds. -/
theorem firstByte_three {v : Nat} (hv : 0x7FF < v ∧ v ≤ 0xFFFF) (hvalid : v < 0xD800 ∨ 0xDFFF < v) :
    ∃ low high, firstByte (UInt8.ofNat (v / 4096 % 16 + 224)) =
        .pending ⟨v / 4096, 2, low, high, [UInt8.ofNat (v / 4096 % 16 + 224)]⟩ ∧
      low ≤ v / 64 % 64 + 128 ∧ v / 64 % 64 + 128 ≤ high := by
  unfold firstByte
  rw [toNat_ofNat (by omega), if_neg (by omega)]
  unfold lead?
  rw [if_neg (by omega)]
  by_cases hfirst : v / 4096 = 0
  · rw [if_pos (by omega), hfirst]
    exact ⟨_, _, rfl, by omega, by omega⟩
  · rw [if_neg (by omega)]
    by_cases hsurrogate : v / 4096 = 0xD
    · rw [if_pos (by omega), hsurrogate]
      exact ⟨_, _, rfl, by omega, by omega⟩
    · rw [if_neg (by omega), if_pos (by omega),
        show v / 4096 % 16 + 224 - 0xE0 = v / 4096 by omega]
      exact ⟨_, _, rfl, by omega, by omega⟩

/-- The lead byte of four asks for three tails, the first of them within its bounds. -/
theorem firstByte_four {v : Nat} (hv : 0xFFFF < v ∧ v < 0x110000) :
    ∃ low high, firstByte (UInt8.ofNat (v / 262144 % 8 + 240)) =
        .pending ⟨v / 262144, 3, low, high, [UInt8.ofNat (v / 262144 % 8 + 240)]⟩ ∧
      low ≤ v / 4096 % 64 + 128 ∧ v / 4096 % 64 + 128 ≤ high := by
  unfold firstByte
  rw [toNat_ofNat (by omega), if_neg (by omega)]
  unfold lead?
  rw [if_neg (by omega), if_neg (by omega), if_neg (by omega), if_neg (by omega)]
  by_cases hfirst : v / 262144 = 0
  · rw [if_pos (by omega), hfirst]
    exact ⟨_, _, rfl, by omega, by omega⟩
  · rw [if_neg (by omega)]
    by_cases hlast : v / 262144 = 4
    · rw [if_neg (by omega), if_pos (by omega), hlast]
      exact ⟨_, _, rfl, by omega, by omega⟩
    · rw [if_pos (by omega), show v / 262144 % 8 + 240 - 0xF0 = v / 262144 by omega]
      exact ⟨_, _, rfl, by omega, by omega⟩

/-- The last tail ends the character that the bits so far and its own six make up. -/
theorem decodePart_last {position : Nat} {s : Sequence} {n : Nat} {c : Char} {bs : List UInt8}
    (howed : s.owed ≤ 1) (hlow : s.low ≤ n % 64 + 128) (hhigh : n % 64 + 128 ≤ s.high)
    (hchar : Char.ofNat (s.bits * 64 + n % 64) = c) :
    decodePart position (some s) (UInt8.ofNat (n % 64 + 128) :: bs) =
      (decodePart (position + 1) none bs).map fun (t, rest) => (.char c :: t, rest) := by
  rw [decodePart, Sequence.next_tail s hlow hhigh, if_pos howed, hchar]

/-- A tail that is not the last one leaves one less owed. -/
theorem decodePart_tail {position : Nat} {s : Sequence} {n : Nat} {bs : List UInt8}
    (howed : ¬s.owed ≤ 1) (hlow : s.low ≤ n % 64 + 128) (hhigh : n % 64 + 128 ≤ s.high) :
    decodePart position (some s) (UInt8.ofNat (n % 64 + 128) :: bs) =
      decodePart (position + 1) (some ⟨s.bits * 64 + n % 64, s.owed - 1, 0x80, 0xBF,
        UInt8.ofNat (n % 64 + 128) :: s.taken⟩) bs := by
  rw [decodePart, Sequence.next_tail s hlow hhigh, if_neg howed]

/-- A character is read back from its bytes, whatever follows. -/
theorem decodePart_char (c : Char) (position : Nat) (bs : List UInt8) :
    decodePart position none (String.utf8EncodeChar c ++ bs) =
      (decodePart (position + (String.utf8EncodeChar c).length) none bs).map
        fun (t, rest) => (.char c :: t, rest) := by
  have hvalid : c.toNat < 0xD800 ∨ 0xDFFF < c.toNat ∧ c.toNat < 0x110000 := c.valid
  have hchar : Char.ofNat c.toNat = c := Char.ofNat_toNat c
  have hval : c.val.toNat = c.toNat := rfl
  unfold String.utf8EncodeChar
  rw [hval]
  dsimp only
  generalize c.toNat = v at hvalid hchar
  by_cases hone : v ≤ 127
  · have hfirst : firstByte (UInt8.ofNat v) = .complete c := by
      unfold firstByte
      rw [toNat_ofNat (by omega), if_pos (by omega), hchar]
    rw [if_pos hone, List.singleton_append, decodePart, hfirst]
    rfl
  rw [if_neg hone]
  by_cases htwo : v ≤ 2047
  · rw [if_pos htwo, List.cons_append, List.singleton_append, decodePart,
      firstByte_two ⟨by omega, htwo⟩]
    refine decodePart_last (Nat.le_refl 1) (by dsimp only; omega) (by dsimp only; omega) ?_
    dsimp only
    rw [show v / 64 * 64 + v % 64 = v by omega, hchar]
  rw [if_neg htwo]
  by_cases hthree : v ≤ 65535
  · obtain ⟨low, high, hlead, hlow, hhigh⟩ := firstByte_three (v := v) ⟨by omega, hthree⟩ (by omega)
    rw [if_pos hthree, List.cons_append, List.cons_append, List.singleton_append, decodePart, hlead]
    dsimp only
    rw [decodePart_tail (by dsimp only; omega) hlow hhigh]
    refine decodePart_last (Nat.le_refl 1) (by dsimp only; omega) (by dsimp only; omega) ?_
    dsimp only
    rw [show (v / 4096 * 64 + v / 64 % 64) * 64 + v % 64 = v by omega, hchar]
  · obtain ⟨low, high, hlead, hlow, hhigh⟩ := firstByte_four (v := v) ⟨by omega, by omega⟩
    rw [if_neg hthree, List.cons_append, List.cons_append, List.cons_append, List.singleton_append,
      decodePart, hlead]
    dsimp only
    rw [decodePart_tail (by dsimp only; omega) hlow hhigh, decodePart_tail (by dsimp only; omega)
      (by dsimp only; omega) (by dsimp only; omega)]
    refine decodePart_last (Nat.le_refl 1) (by dsimp only; omega) (by dsimp only; omega) ?_
    dsimp only
    rw [show ((v / 262144 * 64 + v / 4096 % 64) * 64 + v / 64 % 64) * 64 + v % 64 = v by omega,
      hchar]

theorem exists_char_of_isUtf8 {s : Symbol} {t : Text} (ht : isUtf8 (s :: t) = true) :
    ∃ c, s = .char c ∧ isUtf8 t = true := by
  obtain ⟨hs, htail⟩ := Bool.and_eq_true_iff.mp ht
  cases s with
  | stray low => cases hs
  | char c => exact ⟨c, rfl, htail⟩

theorem toBytes_cons (c : Char) (t : Text) :
    toBytes (.char c :: t) = String.utf8EncodeChar c ++ toBytes t := rfl

theorem toBytes_append (t t' : Text) : toBytes (t ++ t') = toBytes t ++ toBytes t' :=
  List.flatMap_append

/-- A text without stray bytes is read back from its bytes, whatever follows. -/
theorem decodePart_append {t : Text} (ht : isUtf8 t = true) (position : Nat) (bs : List UInt8) :
    decodePart position none (toBytes t ++ bs) =
      (decodePart (position + (toBytes t).length) none bs).map
        fun (t', rest) => (t ++ t', rest) := by
  induction t generalizing position with
  | nil =>
      show decodePart position none bs = (decodePart position none bs).map _
      cases decodePart position none bs <;> rfl
  | cons s t ih =>
      obtain ⟨c, rfl, htail⟩ := exists_char_of_isUtf8 ht
      rw [toBytes_cons, List.append_assoc, decodePart_char, ih htail, List.length_append,
        Nat.add_assoc]
      cases decodePart _ none bs <;> rfl

theorem decodePart_toBytes {t : Text} (ht : isUtf8 t = true) (position : Nat) :
    decodePart position none (toBytes t) = .ok (t, []) := by
  have hread := decodePart_append ht position []
  rw [List.append_nil, decodePart] at hread
  rw [hread]
  show Except.ok (t ++ [], []) = .ok (t, [])
  rw [List.append_nil]

/-- **What is written can be read back**, unless it holds stray bytes. -/
theorem decode_toBytes {t : Text} (ht : isUtf8 t = true) : decode (toBytes t) = .ok t := by
  unfold decode
  rw [decodePart_toBytes ht]

/-! ### What is read holds no stray byte -/

theorem isUtf8_of_decodePart {position : Nat} {s? : Option Sequence} {bs rest : List UInt8}
    {t : Text} : decodePart position s? bs = .ok (t, rest) → isUtf8 t = true := by
  have hcons : ∀ {c : Char} {position : Nat} {bs rest : List UInt8} {t : Text},
      (∀ {t rest}, decodePart position none bs = .ok (t, rest) → isUtf8 t = true) →
      (decodePart position none bs).map (fun (t, rest) => (Symbol.char c :: t, rest)) =
        .ok (t, rest) → isUtf8 t = true := by
    intro c position bs rest t ih hread
    cases hpart : decodePart position none bs with
    | error e =>
        rw [hpart] at hread
        cases hread
    | ok outcome =>
        obtain ⟨part, left⟩ := outcome
        have hpart' : isUtf8 part = true := ih hpart
        rw [hpart] at hread
        cases hread
        exact hpart'
  fun_induction decodePart position s? bs generalizing t rest with
  | case1 | case2 =>
      intro hread
      cases hread
      rfl
  | case3 _ _ _ _ _ ih => exact hcons ih
  | case4 _ _ _ _ _ ih => exact ih
  | case6 _ _ _ _ _ _ ih => exact hcons ih
  | case7 _ _ _ _ _ _ ih => exact ih
  | _ =>
      intro hread
      cases hread

theorem isUtf8_of_decode {bs : List UInt8} {t : Text} (hread : decode bs = .ok t) :
    isUtf8 t = true := by
  unfold decode at hread
  split at hread
  · cases hread
  · rename_i hpart
    cases hread
    exact isUtf8_of_decodePart hpart
  · cases hread

theorem isUtf8_unifyLineEnds {t : Text} (ht : isUtf8 t = true) :
    isUtf8 (unifyLineEnds t) = true := by
  fun_induction unifyLineEnds t <;> simp_all [isUtf8, isStray]

theorem isUtf8_of_subset {t t' : Text} (ht : isUtf8 t = true) (hsubset : t' ⊆ t) :
    isUtf8 t' = true :=
  List.all_eq_true.mpr fun s hs => List.all_eq_true.mp ht s (hsubset hs)

theorem isUtf8_append {t t' : Text} (ht : isUtf8 t = true) (ht' : isUtf8 t' = true) :
    isUtf8 (t ++ t') = true := by
  unfold isUtf8
  rw [List.all_append]
  exact Bool.and_eq_true_iff.mpr ⟨ht, ht'⟩

theorem isUtf8_of_decodeSoFar {bs rest : List UInt8} {t : Text}
    (hread : decodeSoFar bs = .ok (t, rest)) : isUtf8 t = true := by
  unfold decodeSoFar at hread
  split at hread
  · rename_i hpart
    cases hread
    exact isUtf8_of_decodePart hpart
  · split at hread
    · rename_i e _ _
      cases hpart : decodePart 0 none (bs.take e.position) with
      | error e' =>
          rw [hpart] at hread
          cases hread
      | ok outcome =>
          rw [hpart] at hread
          cases hread
          exact isUtf8_of_decodePart hpart
    · cases hread

theorem isUtf8_of_decodeBlock {carry carry' : Carry} {block : List UInt8} {t : Text}
    (hread : decodeBlock carry block = .ok (t, carry')) : isUtf8 t = true := by
  unfold decodeBlock at hread
  cases hpart : decodeSoFar (carry.bytes ++ block) with
  | error e =>
      rw [hpart] at hread
      cases hread
  | ok outcome =>
      obtain ⟨part, rest⟩ := outcome
      rw [hpart] at hread
      have hutf8 := isUtf8_of_decodeSoFar hpart
      have hheld : isUtf8 (if carry.held then .char '\r' :: part else part) = true := by
        split
        · exact hutf8
        · exact hutf8
      dsimp only [Except.map] at hread
      generalize (if carry.held then Symbol.char '\r' :: part else part) = line at hread hheld
      split at hread
      · cases hread
        rfl
      · split at hread
        · cases hread
          exact isUtf8_unifyLineEnds (isUtf8_of_subset hheld (List.dropLast_subset _))
        · cases hread
          exact isUtf8_unifyLineEnds hheld

theorem isUtf8_of_lineOfBlocks {carry : Carry} {blocks : List (List UInt8)} {t : Text} :
    lineOfBlocks carry blocks = .ok t → isUtf8 t = true := by
  induction blocks generalizing carry t with
  | nil => exact isUtf8_of_decode
  | cons block rest ih =>
      intro hread
      unfold lineOfBlocks at hread
      split at hread
      · cases hread
      · rename_i part carry' hblock
        have hutf8 := isUtf8_of_decodeBlock hblock
        have hline := isUtf8_of_subset hutf8 (List.takeWhile_subset (· != .char '\n'))
        dsimp only at hread
        split at hread
        · cases hread
          exact hline
        · cases hmore : lineOfBlocks carry' rest with
          | error e =>
              rw [hmore] at hread
              cases hread
          | ok more =>
              rw [hmore] at hread
              cases hread
              exact isUtf8_append hline (ih hmore)

/-- **The first line of a file holds no stray byte.** -/
theorem isUtf8_of_firstLine {bs : List UInt8} {t : Text} (hread : firstLine bs = .ok t) :
    isUtf8 t = true := isUtf8_of_lineOfBlocks hread

end OtpRegistrar.Text
