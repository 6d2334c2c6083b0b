/-
The verbosity that a line of options asks for.

A verbosity token sets the verbosity to the number of its letters, and a debug letter `d`
sets it to ten; nothing adds to what is there.  So the last option that sets it decides, and
only two questions are left.  When is that the number of all letters?  If there is at most
one token to count them in.  And when does one more token lower it?  If it is the last and
has fewer letters than there were before.

Both come down to lists of levels: `levels` is what the options set one after the other, and
without debug letters these are the letters of the tokens.
-/
import OtpRegistrar.Proofs.GlobalOptions.Effects

namespace OtpRegistrar.GlobalOptions

variable {s : State} {item : Item} {items before after : List Item} {slots : List Slot} {more : Nat}

/-! ### Levels -/

/-- The verbosity after a line of options; it is nothing where no option sets it. -/
def verbosity (line : List Text) : Int :=
  match (read line).1.options.get? "verbose_level" with
  | some (.int level) => level
  | _ => 0

/-- The level that an option sets. -/
def Item.level? : Item → Option Nat
  | debug slots => if .base ∈ raisedBy slots then some 10 else none
  | verbosity more ended => some (more + 1 + ended.toNat)
  | _ => none

/-- The levels that options set, one after the other. -/
def levels (items : List Item) : List Nat := items.filterMap Item.level?

/-- The level that was set last. -/
def lastLevel (items : List Item) : Nat := (levels items).getLast?.getD 0

theorem get?_verbose_foldl (s : State) (slots : List Slot) :
    (slots.foldl State.debug s).options.get? "verbose_level" =
      if .base ∈ slots then some (.int 10) else s.options.get? "verbose_level" := by
  induction slots generalizing s with
  | nil => rfl
  | cons slot slots ih =>
      rw [List.foldl_cons, ih]
      by_cases hslots : Slot.base ∈ slots
      · rw [if_pos hslots, if_pos (List.mem_cons_of_mem slot hslots)]
      rw [if_neg hslots]
      cases slot with
      | base =>
          rw [if_pos List.mem_cons_self]
          exact (get?_set_of_ne (by decide) _).trans ((get?_set _ _ _ _).trans (if_pos rfl))
      | raiseExceptions =>
          rw [if_neg (by simpa using hslots)]
          exact (get?_set_of_ne (by decide) _).trans (get?_set_of_ne (by decide) _)
      | moduleLoading | netTraffic | timestamps =>
          rw [if_neg (by simpa using hslots)]
          exact get?_set_of_ne (by decide) _

/-- What one option does to the verbosity. -/
theorem get?_verbose (s : State) (item : Item) :
    (item.apply s).options.get? "verbose_level" =
      (item.level?.map fun level : Nat => Value.int level).or
        (s.options.get? "verbose_level") := by
  cases item with
  | debug slots =>
      refine (get?_verbose_foldl s _).trans ?_
      rw [Item.level?]
      split <;> rfl
  | verbosity more ended => exact (get?_set _ _ _ _).trans (if_pos rfl)
  | logfile path => exact (get?_set_of_ne (by decide) _).trans (get?_set_of_ne (by decide) _)
  | colors | version | help _ | configFile _ => exact get?_set_of_ne (by decide) _

theorem read_tokens (items : List Item) :
    read (tokens items) = (applyAll ⟨[], false⟩ items, [], .ok ()) := by
  have hread := read_of_stops (show Stops [] from fun _ => rfl) items
  rwa [List.append_nil] at hread

/-- **The last option that sets the verbosity decides.** -/
theorem verbosity_tokens (items : List Item) : verbosity (tokens items) = lastLevel items := by
  rw [verbosity, read_tokens, get?_applyAll get?_verbose, lastLevel, levels]
  cases (items.filterMap Item.level?).getLast? <;> rfl

/-! ### All letters -/

/-- The letters of a verbosity token. -/
def Item.letters : Item → Nat
  | verbosity more _ => (verbosityLetters more).count (.char 'v')
  | _ => 0

/-- Several numbers together. -/
def total (counts : List Nat) : Nat := counts.foldr (· + ·) 0

@[simp] theorem total_cons (n : Nat) (counts : List Nat) :
    total (n :: counts) = n + total counts := rfl

theorem count_verbosityLetters (more : Nat) :
    (verbosityLetters more).count (.char 'v') = more + 1 := by
  simp [verbosityLetters, Text.ofString]

/-- Without debug letters only the letters of the tokens are levels. -/
theorem level?_eq (hproper : item.Proper) (hbase : .base ∉ item.slots) :
    item.level? = if 0 < item.letters then some item.letters else none := by
  cases item with
  | debug slots => exact if_neg hbase
  | verbosity more ended =>
      obtain rfl : ended = false := hproper
      simp [Item.level?, Item.letters, count_verbosityLetters]
  | colors | version | help _ | logfile _ | configFile _ => rfl

theorem levels_eq (hproper : ∀ item ∈ items, item.Proper) (hbase : .base ∉ raisedSlots items) :
    levels items = (items.map Item.letters).filter (0 < ·) := by
  induction items with
  | nil => rfl
  | cons item items ih =>
      rw [raisedSlots, List.flatMap_cons, List.mem_append, not_or] at hbase
      have hrest := ih (fun other hother => hproper other (List.mem_cons_of_mem _ hother)) hbase.2
      have hitem := level?_eq (hproper item List.mem_cons_self) hbase.1
      rw [levels] at hrest ⊢
      rw [List.filterMap_cons, hitem, hrest, List.map_cons, List.filter_cons]
      by_cases hletters : 0 < item.letters <;> simp [hletters]

theorem total_filter_pos (counts : List Nat) : total (counts.filter (0 < ·)) = total counts := by
  induction counts with
  | nil => rfl
  | cons n counts ih =>
      rw [List.filter_cons, total_cons, ← ih]
      by_cases hn : 0 < n
      · simp [hn]
      · simp [Nat.eq_zero_of_not_pos hn]

theorem le_total_concat (front : List Nat) (last : Nat) : last ≤ total (front ++ [last]) := by
  induction front with
  | nil => exact Nat.le_refl last
  | cons n front ih =>
      rw [List.cons_append, total_cons]
      exact Nat.le_add_left_of_le ih

/-- The last of several numbers is less than all of them together. -/
theorem getLast?_eq_total_iff {counts : List Nat} (hpos : ∀ n ∈ counts, 0 < n) :
    counts.getLast?.getD 0 = total counts ↔ counts.length ≤ 1 := by
  rcases List.eq_nil_or_concat counts with rfl | ⟨front, last, rfl⟩
  · exact iff_of_true rfl (Nat.zero_le 1)
  rw [List.concat_eq_append] at hpos ⊢
  cases front with
  | nil => exact iff_of_true rfl (Nat.le_refl 1)
  | cons n front =>
      have hn := hpos n (by simp)
      have hlast := le_total_concat front last
      have htotal : total (n :: front ++ [last]) = n + total (front ++ [last]) := rfl
      rw [List.getLast?_append_cons, List.getLast?_singleton, Option.getD_some, htotal]
      exact iff_of_false (by omega) (by simp)

/-- **All letters count if there is at most one token to count them in.** -/
theorem lastLevel_eq_letters_iff (hproper : ∀ item ∈ items, item.Proper)
    (hbase : .base ∉ raisedSlots items) :
    lastLevel items = total (items.map Item.letters) ↔ items.countP (0 < ·.letters) ≤ 1 := by
  have hlevels := levels_eq hproper hbase
  have hcount : (levels items).length = items.countP (0 < ·.letters) := by
    rw [hlevels, ← List.countP_eq_length_filter, List.countP_map]
    rfl
  rw [← total_filter_pos, ← hlevels, ← hcount, lastLevel]
  refine getLast?_eq_total_iff fun n hn => ?_
  rw [hlevels, List.mem_filter] at hn
  simpa using hn.2

/-! ### One more token -/

theorem lastLevel_append (before after : List Item) :
    lastLevel (before ++ after) =
      if levels after = [] then lastLevel before else lastLevel after := by
  unfold lastLevel levels
  rw [List.filterMap_append, List.getLast?_append]
  split
  · rename_i hnone
    rw [hnone]
    rfl
  · rename_i hsome
    obtain ⟨level, hlevel⟩ := Option.isSome_iff_exists.mp (List.getLast?_isSome.mpr hsome)
    rw [hlevel]
    rfl

theorem levels_ne_nil_iff : levels items ≠ [] ↔ ∃ item ∈ items, item.level?.isSome := by
  simp [levels, Option.isSome_iff_ne_none]

/-- **One more token lowers the verbosity if nothing behind it sets one** and it has fewer letters
than the level in front of it. -/
theorem lastLevel_insert_iff :
    lastLevel (before ++ after) ≤ lastLevel (before ++ .verbosity more false :: after) ↔
      (∃ item ∈ after, item.level?.isSome) ∨ lastLevel before ≤ more + 1 := by
  rw [← levels_ne_nil_iff, List.append_cons, lastLevel_append, lastLevel_append _ after]
  by_cases hafter : levels after = []
  · have hlast : lastLevel (before ++ [.verbosity more false]) = more + 1 := by
      rw [lastLevel_append]
      rfl
    rw [if_pos hafter, if_pos hafter, hlast]
    simp [hafter]
  · rw [if_neg hafter, if_neg hafter]
    simp [hafter]

/-- **The last option that sets the verbosity decides**, and nothing is added up: without debug
letters the level is the number of all `v` only if one token has them all, and one more token lowers
the level unless it has enough of them or another option behind it sets the level. -/
theorem verbosity_of_last (items : List Item) :
    (read (tokens items)).2 = ([], .ok ()) ∧
    verbosity (tokens items) = lastLevel items ∧
    ((∀ item ∈ items, item.Proper) → .base ∉ raisedSlots items →
      (verbosity (tokens items) = total (items.map Item.letters) ↔
        items.countP (0 < ·.letters) ≤ 1)) ∧
    ∀ before after more, items = before ++ after →
      (verbosity (tokens items) ≤ verbosity (tokens (before ++ .verbosity more false :: after)) ↔
        (∃ item ∈ after, item.level?.isSome) ∨ lastLevel before ≤ more + 1) := by
  refine ⟨by rw [read_tokens], verbosity_tokens items, fun hproper hbase => ?_, ?_⟩
  · rw [verbosity_tokens, Int.ofNat_inj]
    exact lastLevel_eq_letters_iff hproper hbase
  · rintro before after more rfl
    rw [verbosity_tokens, verbosity_tokens, Int.ofNat_le]
    exact lastLevel_insert_iff

/-- One token with one letter, one with two, and an option between them that is none of theirs. -/
def shownTwice : List Item := [.verbosity 0 false, .debug [.netTraffic], .verbosity 1 false]

/-- They give two, not three. -/
theorem verbosity_shownTwice :
    (∀ item ∈ shownTwice, item.Proper) ∧ .base ∉ raisedSlots shownTwice ∧
    (verbosity (tokens shownTwice) = total (shownTwice.map Item.letters) ↔
      shownTwice.countP (0 < ·.letters) ≤ 1) ∧ verbosity (tokens shownTwice) = 2 := by
  have hlast := verbosity_of_last shownTwice
  exact ⟨by decide, by decide, hlast.2.2.1 (by decide) (by decide), hlast.2.1⟩

/-- The line `-v -v`. -/
def twice : List Item := [.verbosity 0 false, .verbosity 0 false]

/-- Two tokens are less than one with the letters of both, and behind that one a token lowers the
verbosity. -/
theorem verbosity_not_added :
    tokens twice = ["-v", "-v"] ∧ total (twice.map Item.letters) = 2 ∧
    verbosity (tokens twice) = 1 ∧
    verbosity (tokens [.verbosity 1 false]) = 2 ∧
    verbosity (tokens ([.verbosity 1 false] ++ .verbosity 0 false :: [])) = 1 := by
  refine ⟨?_, ?_, ?_, ?_, ?_⟩ <;> rfl

end OtpRegistrar.GlobalOptions
