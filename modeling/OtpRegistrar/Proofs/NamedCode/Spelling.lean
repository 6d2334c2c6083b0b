/-
Which names share a spelling.

A spelling comes from a name in two steps, one for the separators and one for the letters, and a
`Style` says what each of them does.  In ASCII both steps go symbol by symbol.  They leave each
other alone, and two styles one after the other are a single style again (`apply_andThen`), so a
spelling of a spelling is nothing new.

The style that takes the separators out and makes the letters small undoes every other one.  What
it leaves of a name, the `folded` name, is thus the same for all its spellings, and two names with
a spelling in common are two names that fold to the same text.
-/
import OtpRegistrar.NamedCode.Spelling
import OtpRegistrar.Proofs.Text.Casing

namespace OtpRegistrar

/-! ### Casing in ASCII -/

/-- All symbols of the text are characters of ASCII. -/
def Text.IsAscii (t : Text) : Prop := ∀ s ∈ t, s.code < 128

instance : DecidablePred Text.IsAscii :=
  fun t => List.decidableBAll (fun s : Symbol => s.code < 128) t

/-- What holds of all symbols of ASCII can be looked up. -/
theorem Symbol.ascii_induction {p : Symbol → Prop} (hall : ∀ n : Fin 128, p (.char (Char.ofNat n)))
    {s : Symbol} (hs : s.code < 128) : p s := by
  cases s with
  | char c => exact Text.ascii_induction (p := fun c => p (.char c)) hall hs
  | stray low =>
      simp only [Symbol.code] at hs
      omega

namespace NamedCode

/-- What is done to the letters of a name. -/
inductive LetterCase where
  | kept
  | upper
  | lower
  deriving DecidableEq

namespace LetterCase

/-- The letters of a text as the case wants them. -/
def apply : LetterCase → Text → Text
  | kept, t => t
  | upper, t => t.upper
  | lower, t => t.lower

/-- One character of ASCII as the case wants it. -/
def ofSymbol : LetterCase → Symbol → Symbol
  | upper, .char c => .char c.toUpper
  | lower, .char c => .char c.toLower
  | _, s => s

/-- One case after another: the later one, unless it keeps the letters as they are. -/
def andThen (k : LetterCase) : LetterCase → LetterCase
  | kept => k
  | k' => k'

variable {s : Symbol} {t : Text} (k k' : LetterCase)

theorem ofSymbol_ascii (hs : s.code < 128) : (k.ofSymbol s).code < 128 :=
  Symbol.ascii_induction (p := fun s => (k.ofSymbol s).code < 128) (by cases k <;> decide) hs

/-- The later case wins, the letter before and behind it being the same one. -/
theorem ofSymbol_andThen (hs : s.code < 128) :
    (k.andThen k').ofSymbol s = k'.ofSymbol (k.ofSymbol s) :=
  Symbol.ascii_induction (p := fun s => (k.andThen k').ofSymbol s = k'.ofSymbol (k.ofSymbol s))
    (by cases k <;> cases k' <;> decide) hs

/-- In ASCII every letter has its other case by itself. -/
theorem apply_eq_map (ht : t.IsAscii) : k.apply t = t.map k.ofSymbol := by
  have hletter : ∀ s ∈ t, ∃ c, s = .char c ∧ c.toNat < 128 := by
    intro s hs
    exact Symbol.ascii_induction (p := fun s => ∃ c, s = .char c ∧ c.toNat < 128)
      (fun n => ⟨Char.ofNat n, rfl, by revert n; decide⟩) (ht s hs)
  cases k with
  | kept =>
      show t = t.map fun s => ofSymbol kept s
      have hid : (fun s => ofSymbol kept s) = id := by
        funext s
        cases s <;> rfl
      rw [hid, List.map_id]
  | upper =>
      show t.flatMap Symbol.upper = _
      rw [List.map_eq_flatMap]
      refine List.flatMap_congr fun s hs => ?_
      obtain ⟨c, rfl, hc⟩ := hletter s hs
      unfold Symbol.upper
      dsimp only
      rw [if_pos hc]
      rfl
  | lower =>
      have hsigma : Symbol.char 'Σ' ∉ t := fun hmem => absurd (ht _ hmem) (by decide)
      show t.lower = _
      rw [Text.lower_eq_flatMap hsigma, List.map_eq_flatMap]
      refine List.flatMap_congr fun s hs => ?_
      obtain ⟨c, rfl, hc⟩ := hletter s hs
      exact Text.lower_ascii hc

end LetterCase

/-! ### Separators -/

/-- What is done to the separators of a name. -/
inductive Separators where
  | kept
  | dashes
  | underscores
  | none
  deriving DecidableEq

namespace Separators

/-- The text with its separators as they are wanted. -/
def apply : Separators → Text → Text
  | kept, t => t
  | dashes, t => t.exchange (.char '_') (.char '-')
  | underscores, t => t.exchange (.char '-') (.char '_')
  | none, t => Text.without (.char '-') (Text.without (.char '_') t)

/-- What stands for one symbol. -/
def ofSymbol (p : Separators) (s : Symbol) : Option Symbol :=
  if s = .char '-' ∨ s = .char '_' then
    match p with
    | kept => s
    | dashes => Symbol.char '-'
    | underscores => Symbol.char '_'
    | none => Option.none
  else s

/-- One way after another: separators that are gone stay away, others become what the later way
makes of them. -/
def andThen : Separators → Separators → Separators
  | none, _ => none
  | p, kept => p
  | _, p' => p'

variable {s : Symbol} (p p' : Separators)

theorem apply_eq_filterMap (t : Text) : p.apply t = t.filterMap p.ofSymbol := by
  induction t with
  | nil => cases p <;> rfl
  | cons s t ih =>
      have hcons : p.apply (s :: t) = (p.ofSymbol s).toList ++ p.apply t := by
        by_cases hdash : s = .char '-'
        · subst hdash
          cases p <;> rfl
        by_cases hunder : s = .char '_'
        · subst hunder
          cases p <;> rfl
        have hother : p.ofSymbol s = some s := if_neg (not_or.mpr ⟨hdash, hunder⟩)
        rw [hother]
        cases p <;> simp [apply, Text.exchange, Text.without, hdash, hunder]
      rw [hcons, ih]
      cases hs : p.ofSymbol s <;> simp [hs]

theorem ofSymbol_andThen (s : Symbol) :
    (p.andThen p').ofSymbol s = (p.ofSymbol s).bind p'.ofSymbol := by
  by_cases hdash : s = .char '-'
  · subst hdash
    cases p <;> cases p' <;> rfl
  by_cases hunder : s = .char '_'
  · subst hunder
    cases p <;> cases p' <;> rfl
  -- what is no separator stays, whatever is done to those
  have hother : ∀ q : Separators, q.ofSymbol s = some s :=
    fun q => if_neg (not_or.mpr ⟨hdash, hunder⟩)
  rw [hother, hother, Option.bind_some, hother]

theorem ofSymbol_ascii (hs : s.code < 128) : ∀ s' ∈ p.ofSymbol s, s'.code < 128 :=
  Symbol.ascii_induction (p := fun s => ∀ s' ∈ p.ofSymbol s, s'.code < 128)
    (by cases p <;> decide) hs

/-- A letter is no separator in any case, and a separator is the same in all of them. -/
theorem ofSymbol_letterCase (k : LetterCase) (hs : s.code < 128) :
    p.ofSymbol (k.ofSymbol s) = (p.ofSymbol s).map k.ofSymbol :=
  Symbol.ascii_induction
    (p := fun s => p.ofSymbol (k.ofSymbol s) = (p.ofSymbol s).map k.ofSymbol)
    (by cases p <;> cases k <;> decide) hs

end Separators

/-! ### Styles -/

/-- A way to spell a name: what is done to its separators, and then to its letters. -/
structure Style where
  separators : Separators
  letters : LetterCase

namespace Style

/-- The name spelled in the style. -/
def apply (y : Style) (name : Text) : Text := y.letters.apply (y.separators.apply name)

/-- One style after another. -/
def andThen (y y' : Style) : Style :=
  ⟨y.separators.andThen y'.separators, y.letters.andThen y'.letters⟩

end Style

/-- The accepted spellings are those of the styles. -/
theorem mem_spellings {name t : Text} : t ∈ spellings name ↔ ∃ y : Style, y.apply name = t := by
  unfold spellings separatorVariants
  constructor
  · intro ht
    obtain ⟨u, hu, ht⟩ := List.mem_flatMap.mp ht
    obtain ⟨p, rfl⟩ : ∃ p : Separators, p.apply name = u := by
      simp only [List.mem_cons, List.not_mem_nil, or_false] at hu
      rcases hu with rfl | rfl | rfl | rfl
      · exact ⟨.kept, rfl⟩
      · exact ⟨.dashes, rfl⟩
      · exact ⟨.underscores, rfl⟩
      · exact ⟨.none, rfl⟩
    simp only [List.mem_cons, List.not_mem_nil, or_false] at ht
    rcases ht with rfl | rfl | rfl
    · exact ⟨⟨p, .kept⟩, rfl⟩
    · exact ⟨⟨p, .upper⟩, rfl⟩
    · exact ⟨⟨p, .lower⟩, rfl⟩
  · rintro ⟨⟨p, k⟩, rfl⟩
    refine List.mem_flatMap.mpr ⟨p.apply name, ?_, ?_⟩
    · cases p <;> simp [Separators.apply]
    · cases k <;> simp [Style.apply, LetterCase.apply]

variable {a b t : Text}

/-- Every name is a spelling of itself. -/
theorem self_mem_spellings (name : Text) : name ∈ spellings name :=
  mem_spellings.mpr ⟨⟨.kept, .kept⟩, rfl⟩

namespace Style

/-- In ASCII a style goes through the name once, symbol by symbol. -/
theorem apply_eq_filterMap (y : Style) (ht : t.IsAscii) :
    y.apply t = t.filterMap fun s => (y.separators.ofSymbol s).map y.letters.ofSymbol := by
  have hseparated : (y.separators.apply t).IsAscii := by
    intro s' hs'
    rw [Separators.apply_eq_filterMap] at hs'
    obtain ⟨s, hs, hmem⟩ := List.mem_filterMap.mp hs'
    exact Separators.ofSymbol_ascii _ (ht s hs) s' hmem
  unfold apply
  rw [LetterCase.apply_eq_map _ hseparated, Separators.apply_eq_filterMap, List.map_filterMap]

theorem apply_ascii (y : Style) (ht : t.IsAscii) : (y.apply t).IsAscii := by
  intro s' hs'
  rw [y.apply_eq_filterMap ht] at hs'
  obtain ⟨s, hs, hmem⟩ := List.mem_filterMap.mp hs'
  obtain ⟨u, hu, rfl⟩ := Option.map_eq_some_iff.mp hmem
  exact LetterCase.ofSymbol_ascii _ (Separators.ofSymbol_ascii _ (ht s hs) u hu)

/-- **Two styles one after the other are a single style.** -/
theorem apply_andThen (y y' : Style) (ht : t.IsAscii) :
    (y.andThen y').apply t = y'.apply (y.apply t) := by
  rw [apply_eq_filterMap _ ht, apply_eq_filterMap _ (y.apply_ascii ht), apply_eq_filterMap _ ht,
    List.filterMap_filterMap]
  refine List.filterMap_congr fun s hs => ?_
  show ((y.separators.andThen y'.separators).ofSymbol s).map
    (y.letters.andThen y'.letters).ofSymbol = _
  rw [Separators.ofSymbol_andThen]
  cases hu : y.separators.ofSymbol s with
  | none => rfl
  | some u =>
      have huascii := Separators.ofSymbol_ascii _ (ht s hs) u hu
      rw [Option.bind_some, Option.map_some, Option.bind_some,
        Separators.ofSymbol_letterCase _ _ huascii, Option.map_map]
      refine Option.map_congr fun v hv => ?_
      exact LetterCase.ofSymbol_andThen _ _ (Separators.ofSymbol_ascii _ huascii v hv)

end Style

/-! ### Folded names -/

/-- A name in lower case and without separators. -/
def folded (name : Text) : Text :=
  Text.without (.char '_') (Text.without (.char '-') name.lower)

/-- The style in which the folded name is a spelling. -/
def Style.folding : Style := ⟨.none, .lower⟩

theorem folded_eq (ha : a.IsAscii) : folded a = Style.folding.apply a := by
  -- the letters first and the separators after them, where a style has it the other way round
  have horder : folded a = (Style.mk .kept .lower |>.andThen ⟨.none, .kept⟩).apply a := by
    rw [Style.apply_andThen _ _ ha]
    show Text.without (.char '_') (Text.without (.char '-') a.lower)
      = Text.without (.char '-') (Text.without (.char '_') a.lower)
    exact List.filter_comm _ _ _
  exact horder

/-- Folding undoes every style. -/
theorem folded_apply (y : Style) (ha : a.IsAscii) : folded (y.apply a) = folded a := by
  rw [folded_eq (y.apply_ascii ha), ← Style.apply_andThen _ _ ha, folded_eq ha]
  have hsame : y.andThen Style.folding = Style.folding := by
    obtain ⟨p, k⟩ := y
    cases p <;> rfl
  rw [hsame]

/-- All spellings of a name fold to one text. -/
theorem folded_of_mem_spellings (ha : a.IsAscii) (ht : t ∈ spellings a) : folded t = folded a := by
  obtain ⟨y, rfl⟩ := mem_spellings.mp ht
  exact folded_apply y ha

theorem folded_mem_spellings (ha : a.IsAscii) : folded a ∈ spellings a :=
  mem_spellings.mpr ⟨.folding, (folded_eq ha).symm⟩

/-- A spelling of a spelling is a spelling of the name. -/
theorem spellings_subset (ha : a.IsAscii) (ht : t ∈ spellings a) : spellings t ⊆ spellings a := by
  obtain ⟨y, rfl⟩ := mem_spellings.mp ht
  intro u hu
  obtain ⟨y', rfl⟩ := mem_spellings.mp hu
  exact mem_spellings.mpr ⟨y.andThen y', Style.apply_andThen y y' ha⟩

/-- **Two names have a spelling in common if and only if they fold to the same text, and the
spellings of a spelling are spellings of the name already.** -/
theorem spellings_meet_iff (ha : a.IsAscii) (hb : b.IsAscii) :
    ((∃ t, t ∈ spellings a ∧ t ∈ spellings b) ↔ folded a = folded b) ∧
      ∀ t ∈ spellings a, spellings t ⊆ spellings a := by
  refine ⟨⟨?_, ?_⟩, fun t ht => spellings_subset ha ht⟩
  · rintro ⟨t, hta, htb⟩
    rw [← folded_of_mem_spellings ha hta, folded_of_mem_spellings hb htb]
  · intro hfolded
    exact ⟨folded a, folded_mem_spellings ha, hfolded ▸ folded_mem_spellings hb⟩

/-- Two names that differ in case and in separators have a spelling in common. -/
theorem spellings_meet_mixed :
    Text.IsAscii "Do_not-ACQUIRE" ∧ Text.IsAscii "DO-NOTacquire" ∧
      (∃ t, t ∈ spellings "Do_not-ACQUIRE" ∧ t ∈ spellings "DO-NOTacquire") ∧
      spellings "do-not-acquire" ⊆ spellings "Do_not-ACQUIRE" := by
  have ha : Text.IsAscii "Do_not-ACQUIRE" := by decide
  have hb : Text.IsAscii "DO-NOTacquire" := by decide
  obtain ⟨hmeet, hclosed⟩ := spellings_meet_iff ha hb
  exact ⟨ha, hb, hmeet.mpr (by decide +kernel), hclosed _ (by decide +kernel)⟩

end NamedCode

end OtpRegistrar
