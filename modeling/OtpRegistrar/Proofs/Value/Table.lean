/-
Dictionaries from texts.

Two values can be one key although they are not the same value: a number and a truth value,
say.  A text is the same key as itself only, so where the keys are texts a dictionary is the
table that one expects: what is stored under a text is found there, nothing changes under
the others, and a text keeps its place.
-/
import OtpRegistrar.Value.Basic

namespace OtpRegistrar.Value

variable {a : Text} {k value : Value} {entries : List (Value × Value)}

theorem eq_text_of_text? {v : Value} {t : Text} (ht : v.text? = some t) : v = .text t := by
  cases v with
  | text t' => exact congrArg Value.text (Option.some.inj ht)
  | _ => cases ht

/-- No value of another type is the same key as a text. -/
theorem same_text_iff : same k (.text a) = true ↔ k = .text a := by
  cases k with
  | float x => cases hx : x.ratio? <;> simp [same, sameNumber, ratio?, hx]
  | _ => simp [same, sameNumber, ratio?]

theorem lookup_cons_self (a : Text) (value : Value) (entries : List (Value × Value)) :
    lookup (.text a) ((.text a, value) :: entries) = some value := by
  simp [lookup, same_text_iff]

theorem lookup_cons_of_ne (hk : k ≠ .text a) (value : Value) (entries : List (Value × Value)) :
    lookup (.text a) ((k, value) :: entries) = lookup (.text a) entries := by
  simp [lookup, same_text_iff, hk]

theorem insert_cons_self (a : Text) (value old : Value) (entries : List (Value × Value)) :
    insert (.text a) value ((.text a, old) :: entries) = (.text a, value) :: entries := by
  rw [insert, if_pos (same_text_iff.mpr rfl)]

theorem insert_cons_of_ne (hk : k ≠ .text a) (value old : Value)
    (entries : List (Value × Value)) :
    insert (.text a) value ((k, old) :: entries) = (k, old) :: insert (.text a) value entries := by
  rw [insert, if_neg (mt same_text_iff.mp hk)]

/-- What is stored under a text is found under it. -/
theorem lookup_insert_self (a : Text) (value : Value) (entries : List (Value × Value)) :
    lookup (.text a) (insert (.text a) value entries) = some value := by
  induction entries with
  | nil => exact lookup_cons_self a value []
  | cons first entries ih =>
      obtain ⟨k, old⟩ := first
      by_cases hk : k = .text a
      · rw [hk, insert_cons_self, lookup_cons_self]
      · rw [insert_cons_of_ne hk, lookup_cons_of_ne hk, ih]

/-- Nothing changes under the other texts. -/
theorem lookup_insert_of_ne {b : Text} (hne : a ≠ b) (value : Value)
    (entries : List (Value × Value)) :
    lookup (.text b) (insert (.text a) value entries) = lookup (.text b) entries := by
  have hkey : Value.text a ≠ .text b := fun heq => hne (Value.text.inj heq)
  induction entries with
  | nil => exact lookup_cons_of_ne hkey value []
  | cons first entries ih =>
      obtain ⟨k, old⟩ := first
      by_cases hk : k = .text a
      · rw [hk, insert_cons_self, lookup_cons_of_ne hkey, lookup_cons_of_ne hkey]
      · rw [insert_cons_of_ne hk]
        by_cases hb : k = .text b
        · rw [hb, lookup_cons_self, lookup_cons_self]
        · rw [lookup_cons_of_ne hb, lookup_cons_of_ne hb, ih]

/-- A text that is there keeps its place, and one that is not comes behind. -/
theorem keys_insert_text (a : Text) (value : Value) (entries : List (Value × Value)) :
    (.text a ∈ entries.map (·.1) ∧
      (insert (.text a) value entries).map (·.1) = entries.map (·.1)) ∨
    (.text a ∉ entries.map (·.1) ∧
      (insert (.text a) value entries).map (·.1) = entries.map (·.1) ++ [.text a]) := by
  induction entries with
  | nil => exact .inr ⟨List.not_mem_nil, rfl⟩
  | cons first entries ih =>
      obtain ⟨k, old⟩ := first
      by_cases hk : k = .text a
      · rw [hk, insert_cons_self]
        exact .inl ⟨List.mem_cons_self, rfl⟩
      · rw [insert_cons_of_ne hk, List.map_cons, List.map_cons, List.mem_cons,
          or_iff_right (Ne.symm hk)]
        exact ih.imp (And.imp_right (congrArg (k :: ·))) (And.imp_right (congrArg (k :: ·)))

end OtpRegistrar.Value
