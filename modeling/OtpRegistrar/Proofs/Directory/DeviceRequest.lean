/-
What a request says once it is on the way.

A request is made of what was given, and becomes a value only if every text in it is
UTF-8 and a registration has its one-time password.  Both are checked before a run
contacts the server, so making the request cannot fail any more when it is made; the
theorem `value_of_make` is about such requests.  What the server reads in the value
are the three contents, and nothing else.
-/
import OtpRegistrar.Directory.DeviceRequest
import OtpRegistrar.Proofs.Directory.Ber
import OtpRegistrar.Proofs.Text.Utf8
import Mathlib.Data.List.TakeWhile

namespace OtpRegistrar

/-- A text without stray symbols is written as it is. -/
theorem Text.encode_of_isUtf8 {t : Text} (ht : Text.isUtf8 t = true) :
    Text.encode t = .ok (Text.toBytes t) := by
  have hnone : t.dropWhile (!Text.isStray ·) = [] :=
    List.dropWhile_eq_nil_iff.mpr (List.all_eq_true.mp ht)
  unfold Text.encode
  rw [hnone]

namespace DeviceRequest

open OtpRegistrar.Ber

/-! ### Reading a value -/

/-- The element for something that may not be given, if it is. -/
def optionalField (n : Nat) (content : Option (List UInt8)) : List (UInt8 × List UInt8) :=
  (content.map (contextTag n, ·)).toList

theorem optionalElement_eq (n : Nat) (content : Option (List UInt8)) :
    optionalElement n content = elementsBytes (optionalField n content) := by
  cases content with
  | none => rfl
  | some content =>
      show element (contextTag n) content = element (contextTag n) content ++ []
      rw [List.append_nil]

theorem sequenceOf_eq (authId staticPassword otp : Option (List UInt8)) :
    sequenceOf authId staticPassword otp = element sequenceTag
      (elementsBytes (optionalField 0 authId ++ optionalField 1 staticPassword ++
        optionalField 2 otp)) := by
  rw [elementsBytes_append, elementsBytes_append, ← optionalElement_eq, ← optionalElement_eq,
    ← optionalElement_eq]
  rfl

theorem fieldsOf_element {authId staticPassword otp : Option (List UInt8)}
    (hshort : (elementsBytes (optionalField 0 authId ++ optionalField 1 staticPassword ++
      optionalField 2 otp)).length < limit) :
    fieldsOf (element sequenceTag (elementsBytes (optionalField 0 authId ++
      optionalField 1 staticPassword ++ optionalField 2 otp))) =
        some (authId, staticPassword, otp) := by
  unfold fieldsOf
  rw [readSequence_element hshort]
  cases authId <;> cases staticPassword <;> cases otp <;> rfl

/-- **The three contents of a request are read back from its value.** What was not given is told
apart from what was given and is empty. -/
theorem fieldsOf_sequenceOf {authId staticPassword otp : Option (List UInt8)}
    (hvalue : (sequenceOf authId staticPassword otp).length < limit) :
    fieldsOf (sequenceOf authId staticPassword otp) = some (authId, staticPassword, otp) := by
  rw [sequenceOf_eq] at hvalue ⊢
  refine fieldsOf_element ?_
  rw [element, List.length_cons, List.length_append] at hvalue
  omega

/-! ### Making a request -/

theorem encodeText_of_isUtf8 {t : Option Text} (ht : ∀ t', t = some t' → Text.isUtf8 t' = true) :
    encodeText t = .ok (t.map Text.toBytes) := by
  cases t with
  | none => rfl
  | some t =>
      unfold encodeText
      dsimp only
      rw [Text.encode_of_isUtf8 (ht t rfl)]
      rfl

/-- The operation depends on what was asked for, and only a registration has the identifier of
one. -/
theorem oid_of_make {authId otp : Option Text} {password : Option (List UInt8)} {deregister : Bool}
    {r : DeviceRequest} (hmake : make authId password otp deregister = .ok r) :
    r.oid = if deregister then deregisterOid else registerOid := by
  unfold make at hmake
  unfold oid
  cases deregister with
  | true =>
      cases hmake
      rw [if_pos rfl, if_neg]
      cases otp <;> simp
  | false =>
      cases otp with
      | none => cases hmake
      | some t =>
          cases hmake
          rw [if_pos rfl, if_neg Bool.false_ne_true]

/-- **A request whose texts are UTF-8 can be made and written**, if it is one to deregister or has a
one-time password. -/
theorem value_of_make {authId otp : Option Text} (password : Option (List UInt8))
    {deregister : Bool} (hauthId : ∀ t, authId = some t → Text.isUtf8 t = true)
    (hotp : ∀ t, otp = some t → Text.isUtf8 t = true)
    (hsubject : deregister = true ∨ otp.isSome = true) :
    ∃ r, make authId password otp deregister = .ok r ∧
      r.value = .ok (sequenceOf (authId.map Text.toBytes) password (otp.map Text.toBytes)) := by
  have hwritten : ∀ operation, ¬(operation = .register ∧ otp = none) →
      (DeviceRequest.mk operation authId password otp).value =
        .ok (sequenceOf (authId.map Text.toBytes) password (otp.map Text.toBytes)) := by
    intro operation hcomplete
    unfold value
    dsimp only
    rw [encodeText_of_isUtf8 hauthId, encodeText_of_isUtf8 hotp]
    dsimp only
    rw [if_neg]
    simpa using hcomplete
  unfold make
  cases deregister with
  | true =>
      refine ⟨_, rfl, hwritten _ ?_⟩
      cases otp with
      | none => simp
      | some t => simp
  | false =>
      cases otp with
      | none => simp at hsubject
      | some t => exact ⟨_, rfl, hwritten _ (by simp)⟩

/-! ### Writing a request -/

/-- The elements of a request: what was given, in order. -/
def fields (r : DeviceRequest) : List (UInt8 × List UInt8) :=
  optionalField 0 (r.authId.map Text.toBytes) ++ optionalField 1 r.staticPassword ++
    optionalField 2 (r.otp.map Text.toBytes)

/-- What a request has to be to become a value: its texts are UTF-8, a registration has its one-time
password, and there is a form for its length. -/
structure Writable (r : DeviceRequest) : Prop where
  authIdUtf8 : ∀ t, r.authId = some t → Text.isUtf8 t = true
  otpUtf8 : ∀ t, r.otp = some t → Text.isUtf8 t = true
  complete : r.operation = .register → r.otp.isSome = true
  short : (elementsBytes r.fields).length < limit

theorem Writable.value_eq {r : DeviceRequest} (hr : r.Writable) :
    r.value = .ok (element sequenceTag (elementsBytes r.fields)) := by
  have hcomplete : ¬(r.operation = .register ∧ r.otp.map Text.toBytes = none) := by
    rintro ⟨hregister, hnone⟩
    have hotp := hr.complete hregister
    rw [Option.map_eq_none_iff.mp hnone] at hotp
    exact Bool.false_ne_true hotp
  unfold value
  rw [encodeText_of_isUtf8 hr.authIdUtf8, encodeText_of_isUtf8 hr.otpUtf8]
  dsimp only
  rw [if_neg hcomplete, sequenceOf_eq]
  rfl

/-- Texts that are UTF-8 and have the same bytes are the same. -/
theorem toBytes_inj {t t' : Option Text} (ht : ∀ s, t = some s → Text.isUtf8 s = true)
    (ht' : ∀ s, t' = some s → Text.isUtf8 s = true)
    (hsame : t.map Text.toBytes = t'.map Text.toBytes) : t = t' := by
  cases t with
  | none =>
      cases t' with
      | none => rfl
      | some s' => cases hsame
  | some s =>
      cases t' with
      | none => cases hsame
      | some s' =>
          have hread := Text.decode_toBytes (ht s rfl)
          rw [Option.some.inj hsame, Text.decode_toBytes (ht' s' rfl)] at hread
          rw [Except.ok.inj hread]

/-- **The value of a request is one sequence of what was given**, in the definite form and with
nothing else in it; what it holds can be told from it, and so no other request has the same
value. -/
theorem value_is_sequence {r : DeviceRequest} (hr : r.Writable) :
    ∃ value content, r.value = .ok value ∧
      IsElement sequenceTag content value ∧ AreElements r.fields content ∧
      fieldsOf value = some (r.authId.map Text.toBytes, r.staticPassword, r.otp.map Text.toBytes) ∧
      ∀ r' : DeviceRequest, r'.Writable → r'.value = .ok value →
        r'.authId = r.authId ∧ r'.staticPassword = r.staticPassword ∧ r'.otp = r.otp := by
  have hvalue := hr.value_eq
  have hfields := fieldsOf_element hr.short
  have hes : ∀ e ∈ r.fields, e.2.length < limit :=
    fun e he => Nat.lt_of_le_of_lt (length_le_of_mem he) hr.short
  refine ⟨_, elementsBytes r.fields, hvalue, isElement_element _ hr.short,
    areElements_elementsBytes hes, hfields, fun r' hr' hsame => ?_⟩
  have hfields' := fieldsOf_element hr'.short
  rw [hr'.value_eq] at hsame
  rw [show elementsBytes (optionalField 0 _ ++ optionalField 1 _ ++ optionalField 2 _) =
    elementsBytes r'.fields from rfl, Except.ok.inj hsame] at hfields'
  have hread := hfields'.symm.trans hfields
  simp only [Option.some.injEq, Prod.mk.injEq] at hread
  obtain ⟨hauthId, hpassword, hotp⟩ := hread
  exact ⟨toBytes_inj hr'.authIdUtf8 hr.authIdUtf8 hauthId, hpassword,
    toBytes_inj hr'.otpUtf8 hr.otpUtf8 hotp⟩

/-- A request to register, with a password that takes the long form of a length and a user that is
given and empty. -/
def longRequest : DeviceRequest :=
  ⟨.register, some [], some (List.replicate 300 0x70), some "cccc"⟩

/-- The value of this request. -/
def longValue : List UInt8 :=
  [0x30, 0x82, 0x01, 0x38, 0x80, 0x00, 0x81, 0x82, 0x01, 0x2c] ++ List.replicate 300 0x70 ++
    [0x82, 0x04, 0x63, 0x63, 0x63, 0x63]

theorem value_is_sequence_long :
    longRequest.Writable ∧ longRequest.value = .ok longValue ∧
      fieldsOf longValue =
        some (some [], some (List.replicate 300 0x70), some [0x63, 0x63, 0x63, 0x63]) ∧
      ∀ r' : DeviceRequest, r'.Writable → r'.value = .ok longValue →
        r'.authId = some [] ∧ r'.staticPassword = some (List.replicate 300 0x70) ∧
          r'.otp = some "cccc" := by
  have hwritable : longRequest.Writable := by
    refine ⟨fun t ht => ?_, fun t ht => ?_, fun _ => rfl, ?_⟩
    · cases ht
      rfl
    · cases ht
      rfl
    · decide +kernel
  have hlong : longRequest.value.toOption = some longValue := by decide +kernel
  obtain ⟨value, content, hvalue, -, -, hfields, honly⟩ := value_is_sequence hwritable
  rw [hvalue] at hlong
  cases hlong
  exact ⟨hwritable, hvalue, hfields, honly⟩

end DeviceRequest

end OtpRegistrar
