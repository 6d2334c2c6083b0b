/-
What bytes spell.

The reading machine accepts nothing but what a text is written as.  That needs an
invariant of a sequence that has begun: whatever number it can still become is that
of a character, and the bytes of this character begin with those taken (`Begun`).
One byte keeps this or ends the character, so no case of the table of lead bytes
has to be looked at but where a sequence begins.

Bytes that more may follow are read as far as they go.  They spell a text and leave
over what could still become a character (`Spells`), and this can be told from the
bytes alone: they have one such reading at most, whatever stands in front of them has
one too, and reading on is reading what was left over together with what follows.
-/
import OtpRegistrar.Proofs.Text.Utf8
import Mathlib.Tactic.NormNum

namespace OtpRegistrar.Text

/-! ### A sequence that has begun -/

/-- The last bytes of the number of a character, six bits each. -/
def tails (v : Nat) : Nat → List UInt8
  | 0 => []
  | k + 1 => UInt8.ofNat (v / 64 ^ k % 64 + 128) :: tails v k

/-- The number fits what the sequence has taken and the bounds of its next byte. -/
def Sequence.Fits (s : Sequence) (v : Nat) : Prop :=
  v / 64 ^ s.owed = s.bits ∧ s.low ≤ v / 64 ^ (s.owed - 1) % 64 + 128 ∧
    v / 64 ^ (s.owed - 1) % 64 + 128 ≤ s.high

/-- Every number that fits a sequence is that of a character, whose bytes begin with those taken.
-/
structure Sequence.Begun (s : Sequence) : Prop where
  owes : 1 ≤ s.owed
  bounded : 0x80 ≤ s.low ∧ s.low ≤ s.high ∧ s.high ≤ 0xBF
  becomes : ∀ v, s.Fits v →
    String.utf8EncodeChar (Char.ofNat v) = s.taken.reverse ++ tails v s.owed

theorem utf8EncodeChar_ofNat {v : Nat} (hv : v < 0xD800 ∨ 0xDFFF < v ∧ v < 0x110000) :
    String.utf8EncodeChar (Char.ofNat v) =
      if v ≤ 0x7F then [UInt8.ofNat v]
      else if v ≤ 0x7FF then UInt8.ofNat (v / 64 % 32 + 192) :: tails v 1
      else if v ≤ 0xFFFF then UInt8.ofNat (v / 4096 % 16 + 224) :: tails v 2
      else UInt8.ofNat (v / 262144 % 8 + 240) :: tails v 3 := by
  have hval : (Char.ofNat v).val.toNat = v := by
    rw [Char.ofNat, dif_pos hv]
    rfl
  unfold String.utf8EncodeChar
  rw [hval]
  simp [tails]

theorem ofNat_eq {n : Nat} {b : UInt8} (hn : n = b.toNat) : UInt8.ofNat n = b := by
  rw [hn, UInt8.ofNat_toNat]

theorem begun_two {b : UInt8} (hb : 0xC2 ≤ b.toNat ∧ b.toNat ≤ 0xDF) :
    Sequence.Begun ⟨b.toNat - 0xC0, 1, 0x80, 0xBF, [b]⟩ := by
  refine ⟨by simp, by simp, fun v hv => ?_⟩
  unfold Sequence.Fits at hv
  norm_num at hv
  rw [utf8EncodeChar_ofNat (by omega), if_neg (by omega), if_pos (by omega),
    ofNat_eq (b := b) (by omega)]
  rfl

/-- The bounds of the first tail rule out overlong sequences and surrogates. -/
theorem begun_three {b : UInt8} {bits low high : Nat} (hbits : bits = b.toNat - 0xE0)
    (hb : 0xE0 ≤ b.toNat ∧ b.toNat ≤ 0xEF)
    (hbounds : 0x80 ≤ low ∧ low ≤ high ∧ high ≤ 0xBF) (hoverlong : b.toNat = 0xE0 → 0xA0 ≤ low)
    (hsurrogate : b.toNat = 0xED → high ≤ 0x9F) :
    Sequence.Begun ⟨bits, 2, low, high, [b]⟩ := by
  refine ⟨by simp, hbounds, fun v hv => ?_⟩
  unfold Sequence.Fits at hv
  norm_num at hv
  rw [utf8EncodeChar_ofNat (by omega), if_neg (by omega), if_neg (by omega), if_pos (by omega),
    ofNat_eq (b := b) (by omega)]
  rfl

/-- The bounds of the first tail rule out overlong sequences and numbers that are too large. -/
theorem begun_four {b : UInt8} {bits low high : Nat} (hbits : bits = b.toNat - 0xF0)
    (hb : 0xF0 ≤ b.toNat ∧ b.toNat ≤ 0xF4)
    (hbounds : 0x80 ≤ low ∧ low ≤ high ∧ high ≤ 0xBF) (hoverlong : b.toNat = 0xF0 → 0x90 ≤ low)
    (hlarge : b.toNat = 0xF4 → high ≤ 0x8F) :
    Sequence.Begun ⟨bits, 3, low, high, [b]⟩ := by
  refine ⟨by simp, hbounds, fun v hv => ?_⟩
  unfold Sequence.Fits at hv
  norm_num at hv
  rw [utf8EncodeChar_ofNat (by omega), if_neg (by omega), if_neg (by omega), if_neg (by omega),
    ofNat_eq (b := b) (by omega)]
  rfl

/-- A lead byte begins a sequence, and a byte of ASCII is a character. -/
theorem firstByte_spec {b : UInt8} :
    (∀ s, firstByte b = .pending s → s.Begun ∧ s.taken = [b]) ∧
    ∀ c, firstByte b = .complete c → String.utf8EncodeChar c = [b] := by
  have hlead : ∀ bits owed low high, lead? b.toNat = some (bits, owed, low, high) →
      Sequence.Begun ⟨bits, owed, low, high, [b]⟩ := by
    intro bits owed low high hlead
    unfold lead? at hlead
    split_ifs at hlead
    all_goals
      simp only [Option.some.injEq, Prod.mk.injEq] at hlead
      obtain ⟨rfl, rfl, rfl, rfl⟩ := hlead
    · exact begun_two ‹_›
    · exact begun_three (by omega) (by omega) (by omega) (by omega) (by omega)
    · exact begun_three (by omega) (by omega) (by omega) (by omega) (by omega)
    · exact begun_three rfl (by omega) (by omega) (by omega) (by omega)
    · exact begun_four (by omega) (by omega) (by omega) (by omega) (by omega)
    · exact begun_four rfl (by omega) (by omega) (by omega) (by omega)
    · exact begun_four (by omega) (by omega) (by omega) (by omega) (by omega)
  unfold firstByte
  by_cases hascii : b.toNat < 0x80
  · rw [if_pos hascii]
    refine ⟨by simp, fun c hc => ?_⟩
    cases hc
    rw [utf8EncodeChar_ofNat (by omega), if_pos (by omega), UInt8.ofNat_toNat]
  · rw [if_neg hascii]
    cases hfound : lead? b.toNat with
    | none => simp
    | some found =>
        obtain ⟨bits, owed, low, high⟩ := found
        refine ⟨fun s hs => ?_, by simp⟩
        cases hs
        exact ⟨hlead _ _ _ _ hfound, rfl⟩

/-- A byte inside of a sequence goes on with it or ends it. -/
theorem Sequence.Begun.next_spec {s : Sequence} (hs : s.Begun) {b : UInt8} :
    (∀ s', s.next b = .pending s' → s'.Begun ∧ s'.taken = b :: s.taken) ∧
    ∀ c, s.next b = .complete c → String.utf8EncodeChar c = s.taken.reverse ++ [b] := by
  obtain ⟨bits, owed, low, high, taken⟩ := s
  obtain ⟨howes, hbounded, hbecomes⟩ := hs
  unfold Fits at hbecomes
  dsimp only at howes hbounded hbecomes
  unfold next
  dsimp only
  by_cases hbyte : low ≤ b.toNat ∧ b.toNat ≤ high
  · rw [if_pos hbyte]
    obtain ⟨k, rfl⟩ := Nat.exists_eq_add_of_le' howes
    rw [Nat.add_sub_cancel] at hbecomes ⊢
    -- what the byte adds to the number stands where the first of the tails owed is looked for
    have hfits : ∀ v, v / 64 ^ k = bits * 64 + b.toNat % 64 →
        String.utf8EncodeChar (Char.ofNat v) = taken.reverse ++ b :: tails v k := by
      intro v hv
      have hbits : v / 64 ^ (k + 1) = bits := by
        rw [Nat.pow_succ, ← Nat.div_div_eq_div_mul, hv]
        omega
      have hbecome := hbecomes v ⟨hbits, by omega, by omega⟩
      rw [hbecome, tails, ofNat_eq (b := b) (by omega)]
    by_cases hlast : k + 1 ≤ 1
    · rw [if_pos hlast]
      refine ⟨by simp, fun c hc => ?_⟩
      cases hc
      obtain rfl : k = 0 := by omega
      exact hfits _ (Nat.div_one _)
    · rw [if_neg hlast]
      refine ⟨fun s' hs' => ?_, by simp⟩
      cases hs'
      refine ⟨⟨by dsimp only; omega, by simp, fun v hv => ?_⟩, rfl⟩
      rw [hfits v hv.1, List.reverse_cons, List.append_assoc]
      rfl
  · rw [if_neg hbyte]
    exact ⟨by simp, by simp⟩

/-! ### What is read is what stands there -/

/-- The bytes of a sequence that has begun. -/
def takenOf : Option Sequence → List UInt8
  | none => []
  | some s => s.taken.reverse

/-- More bytes could make a character of these. -/
def Partial (bs : List UInt8) : Prop :=
  ∃ c more, more ≠ [] ∧ String.utf8EncodeChar c = bs ++ more

/-- What a sequence has taken could become a character. -/
theorem Sequence.Begun.isPartial {s : Sequence} (hs : s.Begun) : Partial s.taken.reverse := by
  obtain ⟨k, hk⟩ := Nat.exists_eq_add_of_le' hs.owes
  have hbounded := hs.bounded
  have hbits : (s.bits * 64 + (s.low - 0x80)) * 64 ^ k / 64 ^ (k + 1) = s.bits := by
    rw [Nat.pow_succ, Nat.mul_comm (64 ^ k), Nat.mul_div_mul_right _ _ (by positivity)]
    omega
  have hlow : (s.bits * 64 + (s.low - 0x80)) * 64 ^ k / 64 ^ k % 64 + 128 = s.low := by
    rw [Nat.mul_div_cancel _ (by positivity)]
    omega
  have hbecome := hs.becomes ((s.bits * 64 + (s.low - 0x80)) * 64 ^ k) (by
    unfold Fits
    rw [hk, Nat.add_sub_cancel, hbits, hlow]
    exact ⟨rfl, Nat.le_refl _, hbounded.2.1⟩)
  rw [hk] at hbecome
  exact ⟨_, _, List.cons_ne_nil _ _, hbecome⟩

/-- What an outcome says about the bytes that stand from a place on: they are a text with what
could become a character behind it, or behind a text stands the flaw. -/
def Faithful (start : Nat) (bs : List UInt8) : Except DecodeFlaw (Text × List UInt8) → Prop
  | .ok (t, rest) => isUtf8 t = true ∧ bs = toBytes t ++ rest ∧ Partial rest
  | .error e => ∃ t more, isUtf8 t = true ∧ bs = toBytes t ++ more ∧
      e.position = start + (toBytes t).length

theorem Faithful.cons {c : Char} {start : Nat} {bs : List UInt8}
    {outcome : Except DecodeFlaw (Text × List UInt8)}
    (h : Faithful (start + (String.utf8EncodeChar c).length) bs outcome) :
    Faithful start (String.utf8EncodeChar c ++ bs)
      (outcome.map fun (t, rest) => (.char c :: t, rest)) := by
  cases outcome with
  | ok read =>
      obtain ⟨hutf8, rfl, hrest⟩ := h
      exact ⟨hutf8, (List.append_assoc _ _ _).symm, hrest⟩
  | error e =>
      obtain ⟨t, more, hutf8, rfl, hposition⟩ := h
      refine ⟨.char c :: t, more, hutf8, (List.append_assoc _ _ _).symm, ?_⟩
      show e.position = start + (String.utf8EncodeChar c ++ toBytes t).length
      rw [hposition, List.length_append, Nat.add_assoc]

theorem partial_nil : Partial [] := ⟨'a', _, by decide, rfl⟩

/-- The bytes of a sequence belong to what is read behind them. -/
theorem decodePart_faithful {position start : Nat} {s? : Option Sequence} {bs : List UInt8}
    (hbegun : ∀ s ∈ s?, s.Begun) (hposition : position = start + (takenOf s?).length) :
    Faithful start (takenOf s? ++ bs) (decodePart position s? bs) := by
  fun_induction decodePart position s? bs generalizing start with
  | case1 position => exact ⟨rfl, rfl, partial_nil⟩
  | case2 position s =>
      rw [List.append_nil]
      exact ⟨rfl, rfl, (hbegun s rfl).isPartial⟩
  | case3 position b bs c hfeed ih =>
      have hchar := firstByte_spec.2 c hfeed
      have hread : Faithful (start + (String.utf8EncodeChar c).length) (takenOf none ++ bs) _ :=
        ih (by simp) (by simp [hchar, hposition, takenOf])
      have hrest := hread.cons
      rwa [hchar] at hrest
  | case4 position b bs s hfeed ih =>
      obtain ⟨hs, htaken⟩ := firstByte_spec.1 s hfeed
      have hrest : Faithful start (takenOf (some s) ++ bs) _ :=
        ih (by simpa using hs) (by simp [takenOf, htaken, hposition])
      rwa [takenOf, htaken] at hrest
  | case5 position b bs hfeed => exact ⟨[], b :: bs, rfl, rfl, hposition⟩
  | case6 position s b bs c hfeed ih =>
      have hchar := (hbegun s rfl).next_spec.2 c hfeed
      have hread : Faithful (start + (String.utf8EncodeChar c).length) (takenOf none ++ bs) _ :=
        ih (by simp) (by simp [hchar, hposition, takenOf, Nat.add_assoc])
      have hrest := hread.cons
      rwa [hchar, takenOf, List.nil_append, List.append_assoc] at hrest
  | case7 position s b bs s' hfeed ih =>
      obtain ⟨hs', htaken⟩ := (hbegun s rfl).next_spec.1 s' hfeed
      have hrest : Faithful start (takenOf (some s') ++ bs) _ :=
        ih (by simpa using hs') (by simp [takenOf, htaken, hposition, Nat.add_assoc])
      rwa [takenOf, htaken, List.reverse_cons, List.append_assoc] at hrest
  | case8 position s b bs hfeed =>
      refine ⟨[], s.taken.reverse ++ b :: bs, rfl, rfl, ?_⟩
      show position - s.taken.length = start
      rw [hposition, takenOf, List.length_reverse, Nat.add_sub_cancel]

theorem faithful_of_decodePart {position : Nat} {bs : List UInt8}
    {outcome : Except DecodeFlaw (Text × List UInt8)}
    (hread : decodePart position none bs = outcome) : Faithful position bs outcome := by
  rw [← hread]
  exact decodePart_faithful (by simp) rfl

theorem error_of_map {α β : Type} {f : α → β} {outcome : Except DecodeFlaw α} {e : DecodeFlaw}
    (hmap : outcome.map f = .error e) : outcome = .error e := by
  cases outcome with
  | ok read => cases hmap
  | error e' =>
      cases hmap
      rfl

/-- A flaw shows whatever follows. -/
theorem decodePart_error_append {position : Nat} {s? : Option Sequence} {bs : List UInt8}
    {e : DecodeFlaw} (hread : decodePart position s? bs = .error e) (more : List UInt8) :
    decodePart position s? (bs ++ more) = .error e := by
  fun_induction decodePart position s? bs with
  | case1 | case2 => cases hread
  | case3 position b bs c hfeed ih =>
      rw [List.cons_append, decodePart, hfeed]
      dsimp only
      rw [ih (error_of_map hread)]
      rfl
  | case4 position b bs s hfeed ih =>
      rw [List.cons_append, decodePart, hfeed]
      exact ih hread
  | case5 position b bs hfeed =>
      rw [List.cons_append, decodePart, hfeed]
      exact hread
  | case6 position s b bs c hfeed ih =>
      rw [List.cons_append, decodePart, hfeed]
      dsimp only
      rw [ih (error_of_map hread)]
      rfl
  | case7 position s b bs s' hfeed ih =>
      rw [List.cons_append, decodePart, hfeed]
      exact ih hread
  | case8 position s b bs hfeed =>
      rw [List.cons_append, decodePart, hfeed]
      exact hread

/-- **Bytes are read as a text if and only if it is written as them.** -/
theorem decode_eq_ok_iff {bs : List UInt8} {t : Text} :
    decode bs = .ok t ↔ isUtf8 t = true ∧ toBytes t = bs := by
  constructor
  · intro hread
    unfold decode at hread
    split at hread
    · cases hread
    · rename_i hpart
      cases hread
      obtain ⟨hutf8, hbytes, -⟩ := faithful_of_decodePart hpart
      rw [List.append_nil] at hbytes
      exact ⟨hutf8, hbytes.symm⟩
    · cases hread
  · rintro ⟨hutf8, rfl⟩
    exact decode_toBytes hutf8

/-! ### Bytes that more may follow -/

/-- The bytes of a character do not begin with those of another. -/
theorem eq_of_utf8EncodeChar {c c' : Char} {more : List UInt8}
    (hmore : String.utf8EncodeChar c' = String.utf8EncodeChar c ++ more) :
    c = c' ∧ more = [] := by
  have hread : decodePart 0 none (String.utf8EncodeChar c ++ more) = .ok ([.char c'], []) := by
    rw [← hmore]
    have htext := decodePart_toBytes (t := [.char c']) rfl 0
    rwa [show toBytes [.char c'] = String.utf8EncodeChar c' from List.append_nil _] at htext
  rw [decodePart_char] at hread
  cases hrest : decodePart (0 + (String.utf8EncodeChar c).length) none more with
  | error e =>
      rw [hrest] at hread
      cases hread
  | ok read =>
      obtain ⟨t, rest⟩ := read
      rw [hrest] at hread
      cases hread
      exact ⟨rfl, List.self_eq_append_right.mp hmore⟩

theorem utf8EncodeChar_cancel {c c' : Char} {bs bs' : List UInt8}
    (hbytes : String.utf8EncodeChar c ++ bs = String.utf8EncodeChar c' ++ bs') :
    c = c' ∧ bs = bs' := by
  rcases List.append_eq_append_iff.mp hbytes with ⟨more, hmore, hbs⟩ | ⟨more, hmore, hbs⟩
  · obtain ⟨rfl, rfl⟩ := eq_of_utf8EncodeChar hmore
    exact ⟨rfl, hbs⟩
  · obtain ⟨rfl, rfl⟩ := eq_of_utf8EncodeChar hmore
    exact ⟨rfl, hbs.symm⟩

/-- What is left over when bytes are read that more may follow: what could still become a character,
or the first two of three bytes that spell a surrogate. -/
def Unfinished (bs : List UInt8) : Prop := Partial bs ∨ beginsSurrogate bs = true

/-- The bytes spell the text, and leave over the rest. -/
structure Spells (bs : List UInt8) (t : Text) (rest : List UInt8) : Prop where
  utf8 : isUtf8 t = true
  bytes : bs = toBytes t ++ rest
  unfinished : Unfinished rest

/-- The lead byte of a surrogate asks for a next byte that is less. -/
theorem eq_of_beginsSurrogate {bs : List UInt8} (hbs : beginsSurrogate bs = true) :
    ∃ next : UInt8, bs = [0xED, next] ∧ 0xA0 ≤ next.toNat := by
  unfold beginsSurrogate at hbs
  split at hbs
  · rename_i lead next
    simp only [Bool.and_eq_true, beq_iff_eq, decide_eq_true_eq] at hbs
    obtain ⟨⟨rfl, hnext⟩, -⟩ := hbs
    exact ⟨next, rfl, hnext⟩
  · cases hbs

theorem decodePart_surrogate {next : UInt8} (hnext : 0xA0 ≤ next.toNat) (position : Nat)
    (more : List UInt8) : decodePart position none (0xED :: next :: more) =
      .error ⟨position, [0xED], .continuationByte⟩ := by
  have hlead : firstByte 0xED = .pending ⟨0xD, 2, 0x80, 0x9F, [0xED]⟩ := rfl
  have hrefused : Sequence.next ⟨0xD, 2, 0x80, 0x9F, [0xED]⟩ next = .refused := by
    unfold Sequence.next
    dsimp only
    rw [if_neg (by omega)]
  rw [decodePart, hlead]
  dsimp only
  rw [decodePart, hrefused]
  rfl

/-- What is unfinished does not begin with a character. -/
theorem Unfinished.not_char {c : Char} {bs : List UInt8}
    (hbs : Unfinished (String.utf8EncodeChar c ++ bs)) : False := by
  rcases hbs with ⟨c', more, hmore, hchar⟩ | hsurrogate
  · rw [List.append_assoc] at hchar
    obtain ⟨-, hrest⟩ := eq_of_utf8EncodeChar hchar
    exact hmore (List.append_eq_nil_iff.mp hrest).2
  · obtain ⟨next, hnext, hlow⟩ := eq_of_beginsSurrogate hsurrogate
    have hread := decodePart_char c 0 bs
    rw [hnext, decodePart_surrogate hlow] at hread
    -- the flaw would stand behind the character, and it stands at its first byte
    obtain ⟨t, more, -, -, hposition⟩ := faithful_of_decodePart (error_of_map hread.symm)
    have hsome : 0 < (String.utf8EncodeChar c).length := by
      rw [String.length_utf8EncodeChar]
      exact c.utf8Size_pos
    dsimp only at hposition
    omega

theorem Unfinished.eq_nil {t : Text} (ht : isUtf8 t = true) {bs : List UInt8}
    (hbs : Unfinished (toBytes t ++ bs)) : t = [] := by
  cases t with
  | nil => rfl
  | cons s t =>
      obtain ⟨c, rfl, -⟩ := exists_char_of_isUtf8 ht
      rw [toBytes_cons, List.append_assoc] at hbs
      exact absurd hbs.not_char id

/-- What could become a character is read as no text, and left over. -/
theorem Partial.decodePart {bs : List UInt8} (hbs : Partial bs) (position : Nat) :
    decodePart position none bs = .ok ([], bs) := by
  cases hread : Text.decodePart position none bs with
  | ok read =>
      obtain ⟨t, rest⟩ := read
      obtain ⟨hutf8, rfl, -⟩ := faithful_of_decodePart hread
      obtain rfl : t = [] := Unfinished.eq_nil hutf8 (Or.inl hbs)
      rfl
  | error e =>
      obtain ⟨c, more, -, hchar⟩ := hbs
      have hbroken := decodePart_error_append hread more
      rw [← hchar, ← List.append_nil (String.utf8EncodeChar c), decodePart_char] at hbroken
      cases hbroken

/-- **Reading as far as bytes go tells what they spell.** -/
theorem decodeSoFar_eq_ok_iff {bs rest : List UInt8} {t : Text} :
    decodeSoFar bs = .ok (t, rest) ↔ Spells bs t rest := by
  constructor
  · intro hread
    unfold decodeSoFar at hread
    cases hpart : decodePart 0 none bs with
    | ok read =>
        rw [hpart] at hread
        cases hread
        obtain ⟨hutf8, hbytes, hrest⟩ := faithful_of_decodePart hpart
        exact ⟨hutf8, hbytes, .inl hrest⟩
    | error e =>
        rw [hpart] at hread
        obtain ⟨t', more, hutf8, rfl, hposition⟩ := faithful_of_decodePart hpart
        rw [Nat.zero_add] at hposition
        dsimp only at hread
        rw [hposition, List.drop_left, List.take_left, decodePart_toBytes hutf8] at hread
        by_cases hsurrogate : beginsSurrogate more = true
        · rw [if_pos hsurrogate] at hread
          cases hread
          exact ⟨hutf8, rfl, .inr hsurrogate⟩
        · rw [if_neg hsurrogate] at hread
          cases hread
  · rintro ⟨hutf8, rfl, hpartial | hsurrogate⟩
    · unfold decodeSoFar
      rw [decodePart_append hutf8, hpartial.decodePart]
      show Except.ok (t ++ [], rest) = .ok (t, rest)
      rw [List.append_nil]
    · obtain ⟨next, rfl, hnext⟩ := eq_of_beginsSurrogate hsurrogate
      unfold decodeSoFar
      rw [decodePart_append hutf8, decodePart_surrogate hnext]
      dsimp only [Except.map]
      rw [Nat.zero_add, List.drop_left, List.take_left, if_pos hsurrogate,
        decodePart_toBytes hutf8]

/-! ### What bytes spell, and what follows them -/

theorem spells_toBytes {t : Text} (ht : isUtf8 t = true) : Spells (toBytes t) t [] :=
  ⟨ht, (List.append_nil _).symm, .inl partial_nil⟩

/-- Bytes have one reading at most. -/
theorem Spells.unique {bs rest rest' : List UInt8} {t t' : Text} (h : Spells bs t rest)
    (h' : Spells bs t' rest') : t = t' ∧ rest = rest' := by
  have hread := decodeSoFar_eq_ok_iff.mpr h
  rw [decodeSoFar_eq_ok_iff.mpr h'] at hread
  cases hread
  exact ⟨rfl, rfl⟩

/-- What is left over is read together with what follows. -/
theorem Spells.append {bs rest rest' more : List UInt8} {t t' : Text} (h : Spells bs t rest)
    (h' : Spells (rest ++ more) t' rest') : Spells (bs ++ more) (t ++ t') rest' := by
  refine ⟨isUtf8_append h.utf8 h'.utf8, ?_, h'.unfinished⟩
  rw [h.bytes, List.append_assoc, h'.bytes, toBytes_append, List.append_assoc]

theorem Spells.of_toBytes_append {bs rest : List UInt8} {t t' : Text} (ht : isUtf8 t = true)
    (h : Spells (toBytes t ++ bs) t' rest) : ∃ t'', t' = t ++ t'' ∧ Spells bs t'' rest := by
  induction t generalizing t' with
  | nil => exact ⟨t', rfl, h⟩
  | cons s t ih =>
      obtain ⟨c, rfl, htail⟩ := exists_char_of_isUtf8 ht
      obtain ⟨hutf8, hbytes, hrest⟩ := h
      rw [toBytes_cons, List.append_assoc] at hbytes
      cases t' with
      | nil =>
          rw [show toBytes [] ++ rest = rest from rfl] at hbytes
          rw [← hbytes] at hrest
          exact absurd hrest.not_char id
      | cons s' t' =>
          obtain ⟨c', rfl, htail'⟩ := exists_char_of_isUtf8 hutf8
          rw [toBytes_cons, List.append_assoc] at hbytes
          obtain ⟨rfl, hbytes'⟩ := utf8EncodeChar_cancel hbytes
          obtain ⟨t'', rfl, h⟩ := ih htail ⟨htail', hbytes', hrest⟩
          exact ⟨t'', rfl, h⟩

theorem Spells.of_append {bs rest rest' more : List UInt8} {t t' : Text} (h : Spells bs t rest)
    (h' : Spells (bs ++ more) t' rest') :
    ∃ t'', t' = t ++ t'' ∧ Spells (rest ++ more) t'' rest' := by
  rw [h.bytes, List.append_assoc] at h'
  exact h'.of_toBytes_append h.utf8

theorem Unfinished.of_append {bs more : List UInt8} (h : Unfinished (bs ++ more)) :
    Unfinished bs := by
  rcases h with ⟨c, more', hmore', hchar⟩ | hsurrogate
  · refine .inl ⟨c, more ++ more', ?_, by rw [hchar, List.append_assoc]⟩
    simp [hmore']
  · by_cases hmore : more = []
    · rw [hmore, List.append_nil] at hsurrogate
      exact .inr hsurrogate
    · -- the lead byte of a surrogate is that of characters too
      obtain ⟨next, hbytes, -⟩ := eq_of_beginsSurrogate hsurrogate
      match bs with
      | [] => exact .inl partial_nil
      | [lead] =>
          obtain ⟨hlead, -⟩ := List.cons.inj hbytes
          rw [hlead]
          exact .inl ⟨'\ud000', [0x80, 0x80], by decide, by decide⟩
      | lead :: next' :: bs =>
          have hlength := congrArg List.length hbytes
          simp [hmore] at hlength

/-- Whatever stands in front of bytes that spell a text spells one too. -/
theorem Spells.of_front {bs rest more : List UInt8} {t : Text} (h : Spells (bs ++ more) t rest) :
    ∃ t' rest', Spells bs t' rest' := by
  induction t generalizing bs with
  | nil =>
      obtain ⟨-, hbytes, hrest⟩ := h
      have hrest' : Unfinished (bs ++ more) := by rwa [hbytes]
      exact ⟨[], bs, rfl, rfl, hrest'.of_append⟩
  | cons s t ih =>
      obtain ⟨hutf8, hbytes, hrest⟩ := h
      obtain ⟨c, rfl, htail⟩ := exists_char_of_isUtf8 hutf8
      rw [toBytes_cons, List.append_assoc] at hbytes
      rcases List.append_eq_append_iff.mp hbytes with ⟨more', hchar, -⟩ | ⟨bs', rfl, hbytes'⟩
      · -- the bytes end inside of the character, or where it does
        by_cases hmore' : more' = []
        · rw [hmore', List.append_nil] at hchar
          rw [← hchar, ← List.append_nil (String.utf8EncodeChar c)]
          exact ⟨[.char c], [], spells_toBytes (t := [.char c]) rfl⟩
        · exact ⟨[], bs, rfl, rfl, .inl ⟨c, more', hmore', hchar⟩⟩
      · obtain ⟨t', rest', h'⟩ := ih ⟨htail, hbytes'.symm, hrest⟩
        refine ⟨.char c :: t', rest', h'.utf8, ?_, h'.unfinished⟩
        rw [h'.bytes, toBytes_cons, List.append_assoc]

end OtpRegistrar.Text
