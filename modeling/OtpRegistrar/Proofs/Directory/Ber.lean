/-
Reading back elements that have been written.

Every element that is written is read back, whatever stands behind it: that is what
lets elements be put one behind the other, and inside each other, without looking at
their bytes again.

The one bound comes from the form itself.  The byte in front of a long length says
how many bytes the length takes, and it counts up to 126; contents of which the
length takes more bytes than that have no form.
The bound stands with the reader of a length and is carried along from there.
-/
import OtpRegistrar.Directory.Ber
import Mathlib.Data.List.Induction
import Mathlib.Algebra.Group.Nat.Defs

namespace OtpRegistrar.Ber

/-! ### Numbers -/

theorem numberOf_append (bytes : List UInt8) (b : UInt8) :
    numberOf (bytes ++ [b]) = 256 * numberOf bytes + b.toNat := by
  unfold numberOf
  rw [List.foldl_append, List.foldl_cons, List.foldl_nil]

/-- The bytes of a number spell it. -/
theorem numberOf_numberBytes (n : Nat) : numberOf (numberBytes n) = n := by
  induction n using numberBytes.induct with
  | case1 =>
      rw [numberBytes, dif_pos rfl]
      rfl
  | case2 n hn ih =>
      rw [numberBytes, dif_neg hn, numberOf_append, ih, UInt8.toNat_ofNat']
      omega

/-- A number below a power of 256 takes no more bytes than its exponent. -/
theorem length_numberBytes_le (k : Nat) : ∀ n, n < 256 ^ k → (numberBytes n).length ≤ k := by
  induction k with
  | zero =>
      intro n hn
      have hzero : n = 0 := by omega
      rw [numberBytes, dif_pos hzero]
      exact Nat.zero_le _
  | succ k ih =>
      intro n hn
      rw [numberBytes]
      by_cases hzero : n = 0
      · rw [dif_pos hzero]
        exact Nat.zero_le _
      · rw [dif_neg hzero, List.length_append, List.length_singleton]
        have hquotient : n / 256 < 256 ^ k := by
          rw [Nat.div_lt_iff_lt_mul (by decide)]
          rwa [Nat.pow_succ] at hn
        have := ih (n / 256) hquotient
        omega

theorem numberBytes_ne_nil {n : Nat} (hn : n ≠ 0) : numberBytes n ≠ [] := by
  rw [numberBytes, dif_neg hn]
  exact List.append_ne_nil_of_right_ne_nil _ (List.cons_ne_nil _ _)

/-- No number is spelled with a zero in front. -/
theorem head?_numberBytes_ne_zero (n : Nat) : (numberBytes n).head? ≠ some 0 := by
  induction n using numberBytes.induct with
  | case1 =>
      rw [numberBytes, dif_pos rfl]
      exact fun hnone => nomatch hnone
  | case2 n hn ih =>
      rw [numberBytes, dif_neg hn]
      by_cases hquotient : n / 256 = 0
      · have hbyte : (UInt8.ofNat (n % 256)).toNat = n := by
          rw [UInt8.toNat_ofNat']
          omega
        rw [hquotient, numberBytes, dif_pos rfl]
        intro hzero
        rw [Option.some.inj hzero] at hbyte
        exact hn hbyte.symm
      · obtain ⟨b, rest, hbytes⟩ := List.exists_cons_of_ne_nil (numberBytes_ne_nil hquotient)
        rw [hbytes] at ih ⊢
        exact ih

/-! ### Elements -/

/-- What is too long to be told: the bytes of a length have to be counted below 127. -/
def limit : Nat := 256 ^ 126

/-- A length is read back, whatever stands behind it. -/
theorem readLength_lengthBytes {n : Nat} (hn : n < limit) (rest : List UInt8) :
    readLength (lengthBytes n ++ rest) = some (n, rest) := by
  unfold lengthBytes
  by_cases hshort : n < 128
  · rw [if_pos hshort, List.singleton_append, readLength]
    have hbyte : (UInt8.ofNat n).toNat = n := by
      rw [UInt8.toNat_ofNat']
      omega
    rw [hbyte, if_pos hshort]
  · rw [if_neg hshort]
    dsimp only
    rw [List.cons_append, readLength]
    have hcount : (numberBytes n).length ≤ 126 := length_numberBytes_le 126 n hn
    have hsome : 0 < (numberBytes n).length :=
      List.length_pos_iff.mpr (numberBytes_ne_nil (by omega))
    have hbyte : (UInt8.ofNat (128 + (numberBytes n).length)).toNat =
        128 + (numberBytes n).length := by
      rw [UInt8.toNat_ofNat']
      omega
    rw [hbyte, if_neg (by omega)]
    dsimp only
    rw [Nat.add_sub_cancel_left, if_neg, List.take_left, List.drop_left, numberOf_numberBytes]
    rw [List.length_append]
    omega

/-- **An element is read back**, whatever stands behind it. -/
theorem readElement_element (tag : UInt8) {content : List UInt8} (hcontent : content.length < limit)
    (rest : List UInt8) :
    readElement (element tag content ++ rest) = some ((tag, content), rest) := by
  unfold element
  rw [List.cons_append, List.append_assoc, readElement, readLength_lengthBytes hcontent]
  dsimp only
  rw [if_neg, List.take_left, List.drop_left]
  rw [List.length_append]
  omega

/-- The bytes of elements, one behind the other. -/
def elementsBytes (es : List (UInt8 × List UInt8)) : List UInt8 :=
  es.flatMap fun (tag, content) => element tag content

@[simp] theorem elementsBytes_cons (tag : UInt8) (content : List UInt8)
    (es : List (UInt8 × List UInt8)) :
    elementsBytes ((tag, content) :: es) = element tag content ++ elementsBytes es :=
  List.flatMap_cons

theorem elementsBytes_append (es es' : List (UInt8 × List UInt8)) :
    elementsBytes (es ++ es') = elementsBytes es ++ elementsBytes es' := List.flatMap_append

theorem length_le_elementsBytes (es : List (UInt8 × List UInt8)) :
    es.length ≤ (elementsBytes es).length := by
  induction es with
  | nil => exact Nat.le_refl _
  | cons e es ih =>
      obtain ⟨tag, content⟩ := e
      rw [elementsBytes_cons, List.length_append, List.length_cons, element, List.length_cons]
      omega

/-- A content is no longer than the elements it stands in. -/
theorem length_le_of_mem {es : List (UInt8 × List UInt8)} {e : UInt8 × List UInt8} (he : e ∈ es) :
    e.2.length ≤ (elementsBytes es).length := by
  induction es with
  | nil => cases he
  | cons e' es ih =>
      obtain ⟨tag, content⟩ := e'
      rw [elementsBytes_cons, List.length_append]
      rcases List.mem_cons.mp he with rfl | he
      · show content.length ≤ _
        rw [element, List.length_cons, List.length_append]
        omega
      · have := ih he
        omega

theorem readElementsFrom_elementsBytes {es : List (UInt8 × List UInt8)}
    (hes : ∀ e ∈ es, e.2.length < limit) :
    ∀ fuel, es.length ≤ fuel → readElementsFrom fuel (elementsBytes es) = some es := by
  induction es with
  | nil =>
      intro fuel _
      cases fuel <;> rfl
  | cons e es ih =>
      obtain ⟨tag, content⟩ := e
      obtain ⟨hcontent, hes⟩ := List.forall_mem_cons.mp hes
      intro fuel hfuel
      -- an element takes a byte at least, so the fuel cannot run out before the bytes do
      cases fuel with
      | zero => simp at hfuel
      | succ fuel =>
          have hread := readElement_element tag hcontent (elementsBytes es)
          rw [List.length_cons] at hfuel
          rw [elementsBytes_cons]
          rw [element, List.cons_append] at hread ⊢
          rw [readElementsFrom, hread]
          · dsimp only
            rw [ih hes fuel (by omega)]
            rfl
          · exact fun hnil => nomatch hnil

/-- **A sequence is read back**: its elements are those that were written, and nothing is left
over. -/
theorem readSequence_element {es : List (UInt8 × List UInt8)}
    (hes : (elementsBytes es).length < limit) :
    readSequence (element sequenceTag (elementsBytes es)) = some es := by
  have hread := readElement_element sequenceTag hes []
  rw [List.append_nil] at hread
  unfold readSequence
  rw [hread]
  dsimp only
  rw [if_pos rfl, readElements]
  refine readElementsFrom_elementsBytes (fun e he => ?_) _ (length_le_elementsBytes es)
  exact Nat.lt_of_le_of_lt (length_le_of_mem he) hes

/-! ### The form

What the bytes of an element are is said here once more, without a writer: the rules
give a short and a long form of a length, and let the long one be used only where the
short one does not do.
-/

/-- The bytes tell the length in the definite form: one byte for a length below 128, else a byte
that counts the bytes that spell it, of which the first is not zero. -/
inductive TellsLength (n : Nat) : List UInt8 → Prop
  | short {b : UInt8} (hshort : n < 128) (hbyte : b.toNat = n) : TellsLength n [b]
  | long {b : UInt8} {digits : List UInt8} (hlong : 128 ≤ n)
      (hcount : b.toNat = 128 + digits.length) (hroom : digits.length < 127)
      (hspells : numberOf digits = n) (hminimal : digits.head? ≠ some 0) :
      TellsLength n (b :: digits)

/-- The bytes are one element: a tag, a length and the content of this length. -/
def IsElement (tag : UInt8) (content bytes : List UInt8) : Prop :=
  ∃ length, TellsLength content.length length ∧ bytes = tag :: (length ++ content)

/-- The bytes are the elements one behind the other, and nothing else. -/
inductive AreElements : List (UInt8 × List UInt8) → List UInt8 → Prop
  | nil : AreElements [] []
  | cons {tag : UInt8} {content bytes rest : List UInt8} {es : List (UInt8 × List UInt8)}
      (hfirst : IsElement tag content bytes) (hrest : AreElements es rest) :
      AreElements ((tag, content) :: es) (bytes ++ rest)

theorem tellsLength_lengthBytes {n : Nat} (hn : n < limit) : TellsLength n (lengthBytes n) := by
  unfold lengthBytes
  by_cases hshort : n < 128
  · rw [if_pos hshort]
    refine .short hshort ?_
    rw [UInt8.toNat_ofNat']
    omega
  · rw [if_neg hshort]
    have hcount : (numberBytes n).length ≤ 126 := length_numberBytes_le 126 n hn
    refine .long (by omega) ?_ (by omega) (numberOf_numberBytes n) (head?_numberBytes_ne_zero n)
    rw [UInt8.toNat_ofNat']
    omega

theorem isElement_element (tag : UInt8) {content : List UInt8} (hcontent : content.length < limit) :
    IsElement tag content (element tag content) :=
  ⟨_, tellsLength_lengthBytes hcontent, rfl⟩

theorem areElements_elementsBytes {es : List (UInt8 × List UInt8)}
    (hes : ∀ e ∈ es, e.2.length < limit) : AreElements es (elementsBytes es) := by
  induction es with
  | nil => exact .nil
  | cons e es ih =>
      obtain ⟨tag, content⟩ := e
      obtain ⟨hcontent, hes⟩ := List.forall_mem_cons.mp hes
      rw [elementsBytes_cons]
      exact .cons (isElement_element tag hcontent) (ih hes)

end OtpRegistrar.Ber
