/-
Lines and words of a text, what stands in front of a separator, and the white space at the ends.

A text is its parts with separators between them, and no part holds one; so the lines
of a text and the text itself are two ways to write down the same thing.  Words are less
than that, since any white space parts them; but words that are written with one blank
between them are found again.  What is cut off at the end of a line is told by its last
symbol alone.
-/
import OtpRegistrar.Text.Blank
import Mathlib.Data.List.DropRight

namespace OtpRegistrar.Text

/-! ### Beginnings and ends -/

theorem startsWith_iff {t start : Text} : t.startsWith start = true ↔ start <+: t :=
  List.isPrefixOf_iff_prefix

theorem endsWith_iff {t finish : Text} : t.endsWith finish = true ↔ finish <:+ t :=
  List.isSuffixOf_iff_suffix

/-! ### Parts of a text -/

theorem splitOn_eq (sep : Symbol) (t : Text) : splitOn sep t = List.splitOn sep t := by
  induction t with
  | nil => rfl
  | cons s t ih =>
      rw [splitOn, List.splitOn_cons_eq_if_modifyHead, ih]
      by_cases hs : s = sep
      · simp [hs]
      · obtain ⟨part, parts, hparts⟩ :=
          List.exists_cons_of_ne_nil (List.splitOn_ne_nil sep t)
        simp [hs, hparts]

theorem join_eq (sep : Text) (parts : List Text) : join sep parts = sep.intercalate parts := by
  induction parts with
  | nil => rfl
  | cons part parts ih =>
      cases parts with
      | nil => simp [join, List.intercalate]
      | cons part' parts => rw [List.intercalate_cons_cons, ← ih, join]; simp

/-- What stands in joined parts stands in one of them or between them. -/
theorem mem_join {s : Symbol} {sep : Text} {parts : List Text} (hs : s ∈ join sep parts) :
    s ∈ sep ∨ ∃ part ∈ parts, s ∈ part := by
  fun_induction join sep parts with
  | case1 => cases hs
  | case2 part => exact .inr ⟨part, List.mem_singleton_self part, hs⟩
  | case3 part parts _ ih =>
      rcases List.mem_append.mp hs with hs | hs
      · rcases List.mem_append.mp hs with hs | hs
        · exact .inr ⟨part, List.mem_cons_self, hs⟩
        · exact .inl hs
      · rcases ih hs with hs | ⟨part', hpart', hs⟩
        · exact .inl hs
        · exact .inr ⟨part', List.mem_cons_of_mem _ hpart', hs⟩

theorem splitOn_ne_nil (sep : Symbol) (t : Text) : splitOn sep t ≠ [] := by
  rw [splitOn_eq]
  exact List.splitOn_ne_nil sep t

theorem splitOn_of_not_mem {sep : Symbol} {t : Text} (hsep : sep ∉ t) : splitOn sep t = [t] := by
  rw [splitOn_eq, List.splitOn_eq_singleton hsep]

/-- What stands on both sides of a separator is split by itself. -/
theorem splitOn_append_cons (sep : Symbol) (s t : Text) :
    splitOn sep (s ++ sep :: t) = splitOn sep s ++ splitOn sep t := by
  simp only [splitOn_eq, List.splitOn]
  exact List.splitOnP_append_cons s t (by simp)

/-- The parts of a text make the text. -/
theorem join_splitOn (sep : Symbol) (t : Text) : join [sep] (splitOn sep t) = t := by
  rw [join_eq, splitOn_eq, List.intercalate_splitOn]

/-- Parts without a separator are found again. -/
theorem splitOn_join {sep : Symbol} {parts : List Text} (hparts : ∀ part ∈ parts, sep ∉ part)
    (hsome : parts ≠ []) : splitOn sep (join [sep] parts) = parts := by
  rw [splitOn_eq, join_eq, List.splitOn_intercalate sep hparts hsome]

theorem not_mem_of_mem_splitOn {sep : Symbol} {part : Text} {t : Text}
    (hpart : part ∈ splitOn sep t) : sep ∉ part := by
  induction t generalizing part with
  | nil => simp_all [splitOn]
  | cons s t ih =>
      rw [splitOn] at hpart
      by_cases hs : s = sep
      · rw [if_pos hs] at hpart
        rcases List.mem_cons.mp hpart with rfl | hpart
        · exact List.not_mem_nil
        · exact ih hpart
      · obtain ⟨first, more, hparts⟩ := List.exists_cons_of_ne_nil (splitOn_ne_nil sep t)
        rw [if_neg hs, hparts] at hpart
        rcases List.mem_cons.mp hpart with rfl | hpart
        · have hfirst : sep ∉ first := ih (by simp [hparts])
          simp [Ne.symm hs, hfirst]
        · exact ih (by simp [hparts, hpart])

/-! ### Words -/

/-- The text could stand as a word: it is not empty, and no white space is in it. -/
def IsWord (w : Text) : Prop := w ≠ [] ∧ ∀ s ∈ w, s.isBlank = false

instance : DecidablePred IsWord := fun w =>
  inferInstanceAs (Decidable (w ≠ [] ∧ ∀ s ∈ w, s.isBlank = false))

theorem wordsFrom_append {w : Text} (hw : ∀ s ∈ w, s.isBlank = false) (word t : Text) :
    wordsFrom word (w ++ t) = wordsFrom (w.reverse ++ word) t := by
  induction w generalizing word with
  | nil => rfl
  | cons s w ih =>
      obtain ⟨hs, hrest⟩ := List.forall_mem_cons.mp hw
      rw [List.cons_append, wordsFrom, if_neg (by simp [hs]), ih hrest, List.reverse_cons,
        List.append_assoc, List.singleton_append]

theorem words_word {w : Text} (hw : IsWord w) : words w = [w] := by
  have hread := wordsFrom_append hw.2 [] []
  rw [List.append_nil, List.append_nil] at hread
  rw [words, hread, wordsFrom, if_neg (by simpa using hw.1), List.reverse_reverse]

/-- White space ends a word. -/
theorem words_append_cons {w : Text} (hw : IsWord w) {s : Symbol} (hs : s.isBlank = true)
    (t : Text) : words (w ++ s :: t) = w :: words t := by
  rw [words, wordsFrom_append hw.2, List.append_nil, wordsFrom, if_pos hs,
    if_neg (by simpa using hw.1), List.reverse_reverse]
  rfl

/-- Words with blanks between them are found again. -/
theorem words_join {ws : List Text} (hws : ∀ w ∈ ws, IsWord w) : words (join " " ws) = ws := by
  induction ws with
  | nil => rfl
  | cons w ws ih =>
      obtain ⟨hw, hrest⟩ := List.forall_mem_cons.mp hws
      cases ws with
      | nil => exact words_word hw
      | cons w' ws =>
          have hjoin : join " " (w :: w' :: ws) = w ++ .char ' ' :: join " " (w' :: ws) :=
            List.append_assoc _ _ _
          rw [hjoin, words_append_cons hw (by decide), ih hrest]

/-! ### In front of a separator -/

/-- A symbol that a text is split at stands between the parts, and not in the first. -/
theorem splitFirst?_eq_some {sep : Symbol} {t before behind : Text}
    (hsplit : splitFirst? sep t = some (before, behind)) :
    t = before ++ sep :: behind ∧ sep ∉ before := by
  induction t generalizing before with
  | nil => cases hsplit
  | cons s t ih =>
      rw [splitFirst?] at hsplit
      by_cases hs : s = sep
      · rw [if_pos hs] at hsplit
        cases hsplit
        exact ⟨by rw [hs]; rfl, List.not_mem_nil⟩
      · rw [if_neg hs] at hsplit
        obtain ⟨⟨before', behind'⟩, hrest, hparts⟩ := Option.map_eq_some_iff.mp hsplit
        cases hparts
        obtain ⟨ht, hsep⟩ := ih hrest
        refine ⟨by rw [ht]; rfl, fun hmem => ?_⟩
        rcases List.mem_cons.mp hmem with heq | hmem
        · exact hs heq.symm
        · exact hsep hmem

theorem splitFirst?_append {sep : Symbol} {before : Text} (hsep : sep ∉ before)
    (behind : Text) : splitFirst? sep (before ++ sep :: behind) = some (before, behind) := by
  induction before with
  | nil =>
      rw [List.nil_append, splitFirst?, if_pos rfl]
  | cons s before ih =>
      have hs : ¬s = sep := fun heq => hsep (by rw [heq]; exact List.mem_cons_self)
      rw [List.cons_append, splitFirst?, if_neg hs, ih fun hmem => hsep (.tail _ hmem)]
      rfl

theorem splitFirst?_of_not_mem {sep : Symbol} {t : Text} (hsep : sep ∉ t) :
    splitFirst? sep t = none := by
  cases hsplit : splitFirst? sep t with
  | none => rfl
  | some parts =>
      obtain ⟨before, behind⟩ := parts
      obtain ⟨rfl, -⟩ := splitFirst?_eq_some hsplit
      exact absurd (List.mem_append_right _ List.mem_cons_self) hsep

theorem splitFirst?_eq_none {sep : Symbol} {t : Text}
    (hsplit : splitFirst? sep t = none) : sep ∉ t := by
  induction t with
  | nil => exact List.not_mem_nil
  | cons s t ih =>
      rw [splitFirst?] at hsplit
      by_cases hs : s = sep
      · rw [if_pos hs] at hsplit
        cases hsplit
      · rw [if_neg hs] at hsplit
        have hrest := ih (Option.map_eq_none_iff.mp hsplit)
        intro hmem
        rcases List.mem_cons.mp hmem with heq | hmem
        · exact hs heq.symm
        · exact hrest hmem

/-! ### White space at the ends -/

/-- Nothing is cut off a text if and only if no white space stands at its end. -/
theorem stripRight_eq_self_iff {t : Text} :
    stripRight t = t ↔ ∀ s, t.getLast? = some s → s.isBlank = false := by
  show List.rdropWhile Symbol.isBlank t = t ↔ _
  rw [List.rdropWhile_eq_self_iff]
  constructor
  · intro hlast s hs
    obtain ⟨hne, rfl⟩ := List.mem_getLast?_eq_getLast hs
    simpa using hlast hne
  · intro hlast hne
    simpa using hlast _ (List.getLast?_eq_some_getLast hne)

theorem stripRight_stripRight (t : Text) : stripRight (stripRight t) = stripRight t :=
  List.rdropWhile_idempotent Symbol.isBlank t

theorem stripRight_strip (t : Text) : stripRight (strip t) = strip t := stripRight_stripRight _

/-- What has no white space at its end has none there without its first symbol. -/
theorem stripRight_of_cons {s : Symbol} {t : Text} (hkept : stripRight (s :: t) = s :: t) :
    stripRight t = t := by
  rw [stripRight_eq_self_iff] at hkept ⊢
  intro last hlast
  exact hkept last (by simp [List.getLast?_cons, hlast])

theorem mem_of_mem_strip {s : Symbol} {t : Text} (hs : s ∈ strip t) : s ∈ t := by
  have hright : s ∈ stripLeft t := (List.rdropWhile_prefix Symbol.isBlank (stripLeft t)).subset hs
  exact (List.dropWhile_sublist Symbol.isBlank).subset hright

/-- White space behind a symbol that is none is cut off, and no more. -/
theorem stripRight_cons {s : Symbol} (hs : s.isBlank = false) (t : Text) :
    stripRight (s :: t) = s :: stripRight t := by
  show List.rdropWhile Symbol.isBlank (s :: t) = s :: List.rdropWhile Symbol.isBlank t
  induction t using List.reverseRecOn with
  | nil => simp [List.rdropWhile, hs]
  | append_singleton t last ih =>
      by_cases hlast : last.isBlank = true
      · rw [← List.cons_append, List.rdropWhile_concat_pos _ _ _ hlast,
          List.rdropWhile_concat_pos _ _ _ hlast, ih]
      · rw [← List.cons_append, List.rdropWhile_concat_neg _ _ _ hlast,
          List.rdropWhile_concat_neg _ _ _ hlast]
        rfl

/-- What begins with a symbol that is no white space is cut off at its end only. -/
theorem strip_cons {s : Symbol} (hs : s.isBlank = false) (t : Text) :
    strip (s :: t) = s :: stripRight t := by
  rw [strip, stripLeft, List.dropWhile_cons_of_neg (by simp [hs]), stripRight_cons hs]

/-- Nothing is cut off a text that neither begins nor ends with white space. -/
theorem strip_eq_self {t : Text} (hfirst : ∀ s ∈ t.head?, s.isBlank = false)
    (hlast : ∀ s ∈ t.getLast?, s.isBlank = false) : strip t = t := by
  cases t with
  | nil => rfl
  | cons s t =>
      have hs := hfirst s rfl
      rw [strip_cons hs, ← stripRight_cons hs, stripRight_eq_self_iff]
      exact hlast

theorem not_mem_stripRightOf {s r : Symbol} {t : Text} (ht : s ∉ t) : s ∉ stripRightOf r t :=
  fun hmem => ht ((List.rdropWhile_prefix (· == r) t).subset hmem)

/-- Nothing is cut off a text whose last symbol is another. -/
theorem stripRightOf_eq_self_iff {s : Symbol} {t : Text} :
    stripRightOf s t = t ↔ t.getLast? ≠ some s := by
  show List.rdropWhile (· == s) t = t ↔ _
  rw [List.rdropWhile_eq_self_iff]
  constructor
  · intro hlast hs
    obtain ⟨hne, rfl⟩ := List.mem_getLast?_eq_getLast hs
    simpa using hlast hne
  · intro hlast hne
    simpa [List.getLast?_eq_some_getLast hne] using hlast

/-- White space at the end of a text is cut off it in any case. -/
theorem strip_concat {s : Symbol} (hs : s.isBlank = true) (t : Text) :
    strip (t ++ [s]) = strip t := by
  have hright : ∀ t : Text, stripRight (t ++ [s]) = stripRight t :=
    fun t => List.rdropWhile_concat_pos _ _ _ hs
  unfold strip stripLeft
  rw [List.dropWhile_append]
  by_cases hblank : (List.dropWhile Symbol.isBlank t).isEmpty = true
  · rw [if_pos hblank, List.dropWhile_cons_of_pos hs, List.isEmpty_iff.mp hblank]
    rfl
  · rw [if_neg hblank, hright]

/-- It makes no difference if some of it has been cut off before. -/
theorem strip_stripRightOf {s : Symbol} (hs : s.isBlank = true) (t : Text) :
    strip (stripRightOf s t) = strip t := by
  show strip (List.rdropWhile (· == s) t) = strip t
  induction t using List.reverseRecOn with
  | nil => rfl
  | append_singleton t last ih =>
      by_cases hlast : last = s
      · rw [List.rdropWhile_concat_pos _ _ _ (by simp [hlast]), ih, hlast, strip_concat hs]
      · rw [List.rdropWhile_concat_neg _ _ _ (by simp [hlast])]

/-! ### Symbols taken out -/

theorem without_append (old : Symbol) (s t : Text) :
    without old (s ++ t) = without old s ++ without old t := List.filter_append s t

theorem without_cons {old s : Symbol} (hs : s ≠ old) (t : Text) :
    without old (s :: t) = s :: without old t := List.filter_cons_of_pos (by simpa using hs)

theorem without_blanks (n : Nat) : without (.char ' ') (blanks n) = [] := by
  simp [without, blanks]

/-- Nothing is taken out of a text that does not have the symbol. -/
theorem without_eq_self_iff {old : Symbol} {t : Text} : without old t = t ↔ old ∉ t := by
  unfold without
  rw [List.filter_eq_self]
  constructor
  · intro hall hmem
    simpa using hall old hmem
  · rintro hnone s hs
    have hne : s ≠ old := by
      rintro rfl
      exact hnone hs
    simpa using hne

/-! ### A line feed at the end -/

/-- A text does not end in a line feed, or it is another text with one behind it. -/
theorem newline_cases (t : Text) :
    t.getLast? ≠ some (.char '\n') ∨ ∃ t', t = t' ++ newline := by
  by_cases ht : t.getLast? = some (.char '\n')
  · obtain ⟨t', rfl⟩ := List.getLast?_eq_some_iff.mp ht
    exact .inr ⟨t', rfl⟩
  · exact .inl ht

theorem getLast?_append_newline (t : Text) : (t ++ newline).getLast? = some (.char '\n') :=
  List.getLast?_concat

theorem dropLast_append_newline (t : Text) : (t ++ newline).dropLast = t := List.dropLast_concat

end OtpRegistrar.Text
