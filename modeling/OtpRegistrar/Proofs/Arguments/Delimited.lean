/-
Delimiters that run into each other.

A text is taken out of its delimiters by looking for the opening one at its front and
for the closing one at its end, each as if the other were not there.  Where there is
room for both, what is left is what stood between them.  But a text can begin with the
one and end with the other and still be too short for both: the end of the opening
delimiter is then the beginning of the closing one, and what they share stands in the
text once and is counted twice (`Crossed`).  Such a text is taken as well, and nothing
is left of it.

There is no third way to be taken (`enclosed_or_crossed`), so taking delimiters off
undoes putting them on for exactly those delimiters that share nothing.  A mark that
stands in front alone is of that kind.
-/
import OtpRegistrar.Arguments.Delimited
import OtpRegistrar.Proofs.Text.Lines

namespace OtpRegistrar.Delimited

variable {start finish t m : Text}

/-- The text is both delimiters in one: what the opening one ends in and the closing one begins
with stands in it once. -/
def Crossed (start finish t : Text) : Prop :=
  ∃ before shared behind, shared ≠ [] ∧ start = before ++ shared ∧ finish = shared ++ behind ∧
    t = before ++ shared ++ behind

/-! ### Room for both -/

theorem Crossed.length_lt (hcrossed : Crossed start finish t) :
    t.length < start.length + finish.length := by
  obtain ⟨before, shared, behind, hshared, rfl, rfl, rfl⟩ := hcrossed
  have hpos : 0 < shared.length := List.length_pos_iff.mpr hshared
  simp only [List.length_append]
  omega

theorem Crossed.length_le (hcrossed : Crossed start finish t) : start.length ≤ t.length := by
  obtain ⟨before, shared, behind, -, rfl, -, rfl⟩ := hcrossed
  simp

/-- There is nothing in the text but its delimiters. -/
theorem Crossed.mem (hcrossed : Crossed start finish t) {s : Symbol} (hs : s ∈ t) :
    s ∈ start ∨ s ∈ finish := by
  obtain ⟨before, shared, behind, -, rfl, rfl, rfl⟩ := hcrossed
  rcases List.mem_append.mp hs with hs | hs
  · exact .inl hs
  · exact .inr (List.mem_append_right _ hs)

theorem Crossed.not_enclosed (hcrossed : Crossed start finish t) (m : Text) :
    t ≠ start ++ m ++ finish := by
  rintro rfl
  have hshort := hcrossed.length_lt
  simp only [List.length_append] at hshort
  omega

/-- **A text that begins with the one delimiter and ends with the other** holds them side by side
or crossed. -/
theorem enclosed_or_crossed (hstart : start <+: t) (hfinish : finish <:+ t) :
    (∃ m, t = start ++ m ++ finish) ∨ Crossed start finish t := by
  obtain ⟨behind, rfl⟩ := hstart
  obtain ⟨before, hsame⟩ := hfinish
  rcases List.append_eq_append_iff.mp hsame with ⟨shared, rfl, rfl⟩ | ⟨m, rfl, rfl⟩
  · by_cases hshared : shared = []
    · subst hshared
      exact .inl ⟨[], by simp⟩
    · exact .inr ⟨before, shared, behind, hshared, rfl, rfl, rfl⟩
  · exact .inl ⟨m, by simp⟩

/-- Only delimiters that share something can cross. -/
theorem exists_crossed_iff :
    (∃ t, Crossed start finish t) ↔
      ∃ shared, shared ≠ [] ∧ shared <:+ start ∧ shared <+: finish := by
  constructor
  · rintro ⟨t, before, shared, behind, hshared, rfl, rfl, -⟩
    exact ⟨shared, hshared, List.suffix_append before shared, List.prefix_append shared behind⟩
  · rintro ⟨shared, hshared, ⟨before, rfl⟩, ⟨behind, rfl⟩⟩
    exact ⟨_, before, shared, behind, hshared, rfl, rfl, rfl⟩

theorem not_crossed_nil : ¬Crossed start [] t := by
  rintro ⟨before, shared, behind, hshared, -, hnone, -⟩
  exact hshared (List.append_eq_nil_iff.mp hnone.symm).1

/-! ### Taking delimiters off -/

/-- Both delimiters have been looked for, each by itself. -/
theorem strip_of_both (hstart : start <+: t) (hfinish : finish <:+ t) : strip start finish t =
    .ok ((t.drop start.length).take (t.length - finish.length - start.length)) := by
  unfold strip
  rw [Text.startsWith_iff.mpr hstart, Text.endsWith_iff.mpr hfinish, Bool.not_true,
    if_neg Bool.false_ne_true, if_neg Bool.false_ne_true]

theorem both_of_strip (hstrip : strip start finish t = .ok m) : start <+: t ∧ finish <:+ t := by
  unfold strip at hstrip
  split at hstrip
  · cases hstrip
  · next hstart =>
    split at hstrip
    · cases hstrip
    · next hfinish =>
      exact ⟨Text.startsWith_iff.mp (by simpa using hstart),
        Text.endsWith_iff.mp (by simpa using hfinish)⟩

theorem strip_enclosed (start finish m : Text) :
    strip start finish (start ++ m ++ finish) = .ok m := by
  have hstart : start <+: start ++ m ++ finish := by
    rw [List.append_assoc]
    exact List.prefix_append start _
  have hlength : (start ++ m ++ finish).length - finish.length - start.length = m.length := by
    simp only [List.length_append]
    omega
  rw [strip_of_both hstart (List.suffix_append _ finish), hlength, List.append_assoc,
    List.drop_left, List.take_left]

theorem Crossed.strip_eq (hcrossed : Crossed start finish t) : strip start finish t = .ok [] := by
  have hshort := hcrossed.length_lt
  have hnothing : t.length - finish.length - start.length = 0 := by omega
  obtain ⟨before, shared, behind, -, rfl, rfl, rfl⟩ := hcrossed
  have hfinish : shared ++ behind <:+ before ++ shared ++ behind := by
    rw [List.append_assoc]
    exact List.suffix_append before _
  rw [strip_of_both (List.prefix_append _ behind) hfinish, hnothing, List.take_zero]

/-- **What is taken, and what is left of it.** -/
theorem strip_eq_ok_iff : strip start finish t = .ok m ↔
    t = start ++ m ++ finish ∨ m = [] ∧ Crossed start finish t := by
  constructor
  · intro hstrip
    obtain ⟨hstart, hfinish⟩ := both_of_strip hstrip
    rcases enclosed_or_crossed hstart hfinish with ⟨m', rfl⟩ | hcrossed
    · rw [strip_enclosed] at hstrip
      cases hstrip
      exact .inl rfl
    · rw [hcrossed.strip_eq] at hstrip
      cases hstrip
      exact .inr ⟨rfl, hcrossed⟩
  · rintro (rfl | ⟨rfl, hcrossed⟩)
    · exact strip_enclosed start finish m
    · exact hcrossed.strip_eq

theorem exists_strip_error_iff : (∃ flaw, strip start finish t = .error flaw) ↔
    (∀ m, t ≠ start ++ m ++ finish) ∧ ¬Crossed start finish t := by
  have hrefused : (∃ flaw, strip start finish t = .error flaw) ↔
      ∀ m, strip start finish t ≠ .ok m := by
    cases strip start finish t <;> simp
  rw [hrefused]
  constructor
  · intro hnone
    exact ⟨fun m hm => hnone m (strip_eq_ok_iff.mpr (.inl hm)),
      fun hcrossed => hnone [] hcrossed.strip_eq⟩
  · rintro ⟨henclosed, hcrossed⟩ m hstrip
    rcases strip_eq_ok_iff.mp hstrip with hm | ⟨-, hboth⟩
    · exact henclosed m hm
    · exact hcrossed hboth

/-- Taking delimiters off a text undoes putting them on unless they are crossed in it. -/
theorem strip_exact_iff :
    (∀ m, strip start finish t = .ok m ↔ t = start ++ m ++ finish) ↔ ¬Crossed start finish t := by
  constructor
  · intro hexact hcrossed
    exact hcrossed.not_enclosed [] ((hexact []).mp hcrossed.strip_eq)
  · intro hcrossed m
    rw [strip_eq_ok_iff, or_iff_left fun hboth => hcrossed hboth.2]

theorem strip?_eq_some_iff : strip? start finish t = some m ↔
    t = start ++ m ++ finish ∨ m = [] ∧ Crossed start finish t := by
  rw [← strip_eq_ok_iff]
  unfold strip?
  cases strip start finish t <;> simp [Except.toOption]

theorem strip?_eq_none_iff : strip? start finish t = none ↔
    (∀ m, t ≠ start ++ m ++ finish) ∧ ¬Crossed start finish t := by
  rw [← exists_strip_error_iff]
  unfold strip?
  cases strip start finish t <;> simp [Except.toOption]

/-! ### Taking a mark off -/

/-- A mark has nothing to cross with: it is there and comes off, or is not. -/
theorem takeMark_eq_iff {mark rest : Text} {present : Bool} : takeMark mark t = (present, rest) ↔
    t = (if present then mark else []) ++ rest ∧ (present = false → ¬mark <+: rest) := by
  unfold takeMark
  cases hstrip : strip? mark [] t with
  | some found =>
      have ht : t = mark ++ found := by
        rcases strip?_eq_some_iff.mp hstrip with ht | ⟨-, hcrossed⟩
        · simpa using ht
        · exact absurd hcrossed not_crossed_nil
      cases present with
      | true => simp [ht, eq_comm]
      | false =>
          refine iff_of_false (by simp) ?_
          rintro ⟨hrest, habsent⟩
          rw [if_neg Bool.false_ne_true, List.nil_append] at hrest
          exact habsent rfl ⟨found, by rw [← hrest, ht]⟩
  | none =>
      obtain ⟨habsent, -⟩ := strip?_eq_none_iff.mp hstrip
      cases present with
      | true =>
          refine iff_of_false (by simp) ?_
          rintro ⟨ht, -⟩
          exact habsent rest (by simpa using ht)
      | false =>
          have hprefix : ¬mark <+: t := by
            rintro ⟨rest, ht⟩
            exact habsent rest (by simpa using ht.symm)
          constructor
          · intro heq
            cases heq
            exact ⟨rfl, fun _ => hprefix⟩
          · rintro ⟨ht, -⟩
            rw [if_neg Bool.false_ne_true, List.nil_append] at ht
            rw [ht]

end OtpRegistrar.Delimited
