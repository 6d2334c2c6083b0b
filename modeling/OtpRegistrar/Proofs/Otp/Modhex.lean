/-
Two alphabets of sixteen letters.

Modhex and lower-case hexadecimal are written with sixteen letters each, one for every
value, so a text of the one alphabet says the same as one of the other, letter by letter.
Two such symbols have the `SameValue`, and both conversions are told by it: `toHex` from left
to right, and `ofHex?` back.  Since no value has two letters, either text determines the
other, which is all there is to being one-to-one.

A text that is no modhex is refused for its first symbol that is no letter.
-/
import OtpRegistrar.Proofs.Otp
import Mathlib.Data.List.Forall2

namespace OtpRegistrar.Otp

/-- The hexadecimal digits, by value. -/
def hexDigits : List Char :=
  ['0', '1', '2', '3', '4', '5', '6', '7', '8', '9', 'a', 'b', 'c', 'd', 'e', 'f']

/-- The value of a hexadecimal digit. -/
def hexValue? : Symbol → Option Nat
  | .char c => hexDigits.idxOf? c
  | .stray _ => none

/-- The modhex letter for a hexadecimal digit. -/
def letterOf? (d : Symbol) : Option Symbol :=
  (hexValue? d).bind fun n => modhexLetters[n]?.map .char

/-- The modhex text for a text of hexadecimal digits. -/
def ofHex? (h : Text) : Option Text := h.mapM letterOf?

/-- A modhex letter and a hexadecimal digit of one value. -/
inductive SameValue : Symbol → Symbol → Prop
  | at {c d : Char} (n : Nat) (hletter : modhexLetters[n]? = some c)
      (hdigit : hexDigits[n]? = some d) : SameValue (.char c) (.char d)

variable {s d : Symbol} {t u g h : Text} {n : Nat}

/-! ### Letters -/

/-- In an alphabet without repetitions a letter and its value determine each other. -/
theorem idxOf?_eq_some_iff {letters : List Char} (hletters : letters.Nodup) {c : Char} :
    letters.idxOf? c = some n ↔ letters[n]? = some c := by
  rw [List.idxOf?_eq_some_iff, List.getElem?_eq_some_iff]
  constructor
  · rintro ⟨hn, hc, -⟩
    exact ⟨hn, hc⟩
  · rintro ⟨hn, rfl⟩
    refine ⟨hn, rfl, fun j hj heq => ?_⟩
    have hsame : j = n := (List.getElem_inj hletters).mp heq
    omega

theorem modhexValue?_eq_some_iff :
    modhexValue? s = some n ↔ ∃ c, modhexLetters[n]? = some c ∧ s = .char c := by
  cases s with
  | char c =>
      have hnodup : modhexLetters.Nodup := by decide
      simp [modhexValue?, idxOf?_eq_some_iff hnodup]
  | stray low => simp [modhexValue?]

theorem hexValue?_eq_some_iff :
    hexValue? d = some n ↔ ∃ c, hexDigits[n]? = some c ∧ d = .char c := by
  cases d with
  | char c =>
      have hnodup : hexDigits.Nodup := by decide
      simp [hexValue?, idxOf?_eq_some_iff hnodup]
  | stray low => simp [hexValue?]

/-- Each of the sixteen values has its digit. -/
theorem hexDigits_getElem? (hn : n < 16) : hexDigits[n]? = some (Nat.digitChar n) := by
  have hall : ∀ n : Fin 16, hexDigits[n.val]? = some (Nat.digitChar n) := by decide
  exact hall ⟨n, hn⟩

theorem sameValue_iff :
    SameValue s d ↔ ∃ n, modhexValue? s = some n ∧ d = .char (Nat.digitChar n) := by
  constructor
  · rintro ⟨n, hletter, hdigit⟩
    have hn : n < 16 := (List.getElem?_eq_some_iff.mp hdigit).1
    rw [hexDigits_getElem? hn] at hdigit
    cases hdigit
    exact ⟨n, modhexValue?_eq_some_iff.mpr ⟨_, hletter, rfl⟩, rfl⟩
  · rintro ⟨n, hvalue, rfl⟩
    obtain ⟨c, hletter, rfl⟩ := modhexValue?_eq_some_iff.mp hvalue
    exact .at n hletter (hexDigits_getElem? (List.getElem?_eq_some_iff.mp hletter).1)

theorem letterOf?_eq_some_iff : letterOf? d = some s ↔ SameValue s d := by
  unfold letterOf?
  rw [Option.bind_eq_some_iff]
  constructor
  · rintro ⟨n, hvalue, hmap⟩
    obtain ⟨e, hdigit, rfl⟩ := hexValue?_eq_some_iff.mp hvalue
    obtain ⟨c, hletter, rfl⟩ := Option.map_eq_some_iff.mp hmap
    exact .at n hletter hdigit
  · rintro ⟨n, hletter, hdigit⟩
    exact ⟨n, hexValue?_eq_some_iff.mpr ⟨_, hdigit, rfl⟩, by rw [hletter]; rfl⟩

/-- The letters that have a digit are those of the alphabet. -/
theorem exists_sameValue_iff : (∃ d, SameValue s d) ↔ ∃ c ∈ modhexLetters, s = .char c := by
  rw [← isModhex_iff, isModhex, Option.isSome_iff_exists]
  constructor
  · rintro ⟨d, hsame⟩
    obtain ⟨n, hvalue, -⟩ := sameValue_iff.mp hsame
    exact ⟨n, hvalue⟩
  · rintro ⟨n, hvalue⟩
    exact ⟨_, sameValue_iff.mpr ⟨n, hvalue, rfl⟩⟩

/-- The digits that have a letter are the hexadecimal ones. -/
theorem exists_sameValue_iff' : (∃ s, SameValue s d) ↔ ∃ c ∈ hexDigits, d = .char c := by
  constructor
  · rintro ⟨_, n, -, hdigit⟩
    exact ⟨_, List.mem_of_getElem? hdigit, rfl⟩
  · rintro ⟨c, hc, rfl⟩
    obtain ⟨n, hn, hdigit⟩ := List.getElem_of_mem hc
    exact ⟨_, .at n (List.getElem?_eq_getElem (show n < modhexLetters.length from hn))
      (by rw [List.getElem?_eq_getElem hn, hdigit])⟩

/-! ### Texts -/

theorem toHex_cons (s : Symbol) (t : Text) :
    toHex (s :: t) = match modhexValue? s with
      | none => .error (.notModhex s)
      | some n => (toHex t).map (.char (Nat.digitChar n) :: ·) := rfl

/-- What is said of every letter of a text is said of the text. -/
theorem exists_forall₂_iff {R : Symbol → Symbol → Prop} :
    (∃ h, List.Forall₂ R t h) ↔ ∀ s ∈ t, ∃ d, R s d := by
  induction t with
  | nil => simp
  | cons s t ih =>
      rw [List.forall_mem_cons, ← ih]
      constructor
      · rintro ⟨_, hsaid⟩
        obtain ⟨d, h, hfirst, hrest, rfl⟩ := List.forall₂_cons_left_iff.mp hsaid
        exact ⟨⟨d, hfirst⟩, ⟨h, hrest⟩⟩
      · rintro ⟨⟨d, hfirst⟩, ⟨h, hrest⟩⟩
        exact ⟨d :: h, .cons hfirst hrest⟩

/-- **A conversion says the same**, digit for letter. -/
theorem toHex_eq_ok_iff : toHex t = .ok h ↔ List.Forall₂ SameValue t h := by
  induction t generalizing h with
  | nil =>
      rw [List.forall₂_nil_left_iff, toHex, Except.ok.injEq, eq_comm]
  | cons s t ih =>
      rw [toHex_cons, List.forall₂_cons_left_iff]
      cases hvalue : modhexValue? s with
      | none =>
          refine iff_of_false (by simp) ?_
          rintro ⟨d, _, hsame, -⟩
          obtain ⟨n, hn, -⟩ := sameValue_iff.mp hsame
          rw [hvalue] at hn
          cases hn
      | some n =>
          have hsame : ∀ d, SameValue s d ↔ d = .char (Nat.digitChar n) := by
            intro d
            rw [sameValue_iff, hvalue]
            simp
          cases hrest : toHex t with
          | error f =>
              refine iff_of_false (by simp [Except.map]) ?_
              rintro ⟨d, rest, -, hsaid, -⟩
              rw [← ih, hrest] at hsaid
              cases hsaid
          | ok rest =>
              simp only [Except.map, Except.ok.injEq, hsame, ← ih, hrest]
              constructor
              · rintro rfl
                exact ⟨_, rest, rfl, rfl, rfl⟩
              · rintro ⟨_, _, rfl, rfl, rfl⟩
                rfl

/-- **And so does the way back.** -/
theorem ofHex?_eq_some_iff : ofHex? h = some t ↔ List.Forall₂ SameValue t h := by
  unfold ofHex?
  induction h generalizing t with
  | nil => simp [eq_comm]
  | cons d h ih =>
      rw [List.mapM_cons, List.forall₂_cons_right_iff]
      simp only [Option.bind_eq_bind, Option.bind_eq_some_iff, letterOf?_eq_some_iff, ih]
      constructor
      · rintro ⟨s, hsame, rest, hsaid, hcons⟩
        cases hcons
        exact ⟨s, rest, hsame, hsaid, rfl⟩
      · rintro ⟨s, rest, hsame, hsaid, rfl⟩
        exact ⟨s, hsame, rest, hsaid, rfl⟩

/-- The way back undoes a conversion, and a conversion the way back. -/
theorem toHex_eq_ok_iff_ofHex? : toHex t = .ok h ↔ ofHex? h = some t :=
  toHex_eq_ok_iff.trans ofHex?_eq_some_iff.symm

theorem exists_toHex_iff :
    (∃ h, toHex t = .ok h) ↔ ∀ s ∈ t, ∃ c ∈ modhexLetters, s = .char c := by
  simp only [toHex_eq_ok_iff, exists_forall₂_iff, exists_sameValue_iff]

/-- Every text of hexadecimal digits is what some modhex text is converted to. -/
theorem exists_toHex_iff' :
    (∃ t, toHex t = .ok h) ↔ ∀ d ∈ h, ∃ c ∈ hexDigits, d = .char c := by
  have hback : ∀ t, toHex t = .ok h ↔ List.Forall₂ (fun d s => SameValue s d) h t := fun t =>
    toHex_eq_ok_iff.trans ⟨List.Forall₂.flip, List.Forall₂.flip⟩
  simp only [hback, exists_forall₂_iff, exists_sameValue_iff']

theorem length_toHex (hhex : toHex t = .ok h) : h.length = t.length :=
  (toHex_eq_ok_iff.mp hhex).length_eq.symm

/-- Texts are converted part by part; what is wrong with the first part is said first. -/
theorem toHex_append (t u : Text) :
    toHex (t ++ u) = toHex t >>= fun g => (toHex u).map (g ++ ·) := by
  induction t with
  | nil =>
      show toHex u = (toHex u).map ([] ++ ·)
      cases toHex u <;> rfl
  | cons s t ih =>
      rw [List.cons_append, toHex_cons, toHex_cons, ih]
      cases modhexValue? s with
      | none => rfl
      | some n =>
          cases toHex t with
          | error f => rfl
          | ok g => cases toHex u <;> rfl

/-! ### Public identities -/

/-- **A public identity is modhex**, also that of a text that should not have been taken: what is
taken for the letters has been looked at symbol by symbol. -/
theorem exists_toHex_of_publicId {otp identity : Text} (hidentity : publicId otp = .ok identity) :
    ∃ h, toHex identity = .ok h := by
  obtain ⟨-, -, ⟨changing, hsplit, -⟩, hmodhex⟩ := publicId_eq_ok_iff.mp hidentity
  refine exists_toHex_iff.mpr fun s hs => hmodhex s ?_
  rw [hsplit]
  exact List.mem_append_left _ hs

end OtpRegistrar.Otp
