/-
The two look-ups of an enumeration, by the exact name and by any spelling of it.

The look-up by spelling finds nothing where no member accepts the text, and else a member that
does.  Which one it is, is a matter of the order: the last member that accepts the text has it.  So
it is no extension of the look-up by name.  A member is *outdone* if one behind it accepts its very
name, and the two look-ups agree on the names of all members but those.

Among names of ASCII that fold to different texts nobody is outdone, and what is more, every
spelling leads to the one member it belongs to.  The enumerations of the directory protocol are of
that kind.
-/
import OtpRegistrar.NamedCode.Table
import OtpRegistrar.Proofs.NamedCode.Spelling
import Mathlib.Data.List.Nodup

namespace OtpRegistrar.Enumeration

open NamedCode (spellings folded)

variable {e : Enumeration} {title t : Text} {pairs : List (Text × Int)} {m : NamedCode}

/-! ### The members -/

/-- No name is used twice, and each is the name of a member. -/
structure IsPlain (e : Enumeration) : Prop where
  distinct : (e.members.map (·.name)).Nodup
  no_alias : e.aliases = []

theorem declare_of_fresh {name : Text} {code : Int} (hfresh : code ∉ e.members.map (·.code)) :
    e.declare name code = { e with members := e.members ++ [⟨name, code⟩] } := by
  have hnone : e.members.find? (·.code = code) = none := by
    refine List.find?_eq_none.mpr fun m hm hcode => hfresh ?_
    exact List.mem_map.mpr ⟨m, hm, of_decide_eq_true hcode⟩
  unfold declare
  rw [hnone]

/-- Names with codes of their own become members in the order in which they are declared. -/
theorem foldl_declare (hcodes : (e.members.map (·.code) ++ pairs.map (·.2)).Nodup) :
    pairs.foldl (fun e (name, code) => e.declare name code) e
      = { e with members := e.members ++ pairs.map fun pair => ⟨pair.1, pair.2⟩ } := by
  induction pairs generalizing e with
  | nil => rw [List.foldl_nil, List.map_nil, List.append_nil]
  | cons pair pairs ih =>
      obtain ⟨name, code⟩ := pair
      have hfresh : code ∉ e.members.map (·.code) := fun hmem =>
        List.disjoint_of_nodup_append hcodes hmem List.mem_cons_self
      have hrest : ((e.declare name code).members.map (·.code) ++ pairs.map (·.2)).Nodup := by
        rw [declare_of_fresh hfresh, List.map_append, List.append_assoc]
        exact hcodes
      rw [List.foldl_cons, ih hrest, declare_of_fresh hfresh, List.append_assoc]
      rfl

theorem members_of_ofPairs? (he : ofPairs? title pairs = some e)
    (hcodes : (pairs.map (·.2)).Nodup) :
    e = ⟨title, pairs.map fun pair => ⟨pair.1, pair.2⟩, []⟩ := by
  unfold ofPairs? at he
  split at he
  · rw [foldl_declare (e := ⟨title, [], []⟩) hcodes] at he
    exact (Option.some.inj he).symm
  · cases he

theorem isPlain_of_ofPairs? (he : ofPairs? title pairs = some e)
    (hcodes : (pairs.map (·.2)).Nodup) : e.IsPlain := by
  have hnames : (pairs.map (·.1)).Nodup := by
    unfold ofPairs? at he
    split at he
    · assumption
    · cases he
  rw [members_of_ofPairs? he hcodes]
  refine ⟨?_, rfl⟩
  rw [List.map_map]
  exact hnames

/-- The exact name leads to the member that has it. -/
theorem IsPlain.byName?_eq_some_iff (he : e.IsPlain) :
    e.byName? t = some m ↔ m ∈ e.members ∧ m.name = t := by
  have hfind : e.byName? t = e.members.find? (·.name = t) := by
    unfold byName?
    rw [he.no_alias]
    cases e.members.find? (·.name = t) <;> rfl
  rw [hfind]
  constructor
  · intro hfound
    exact ⟨List.mem_of_find?_eq_some hfound, by simpa using List.find?_some hfound⟩
  · rintro ⟨hm, rfl⟩
    cases hfound : e.members.find? (·.name = m.name) with
    | none => exact absurd (decide_eq_true rfl) (List.find?_eq_none.mp hfound m hm)
    | some m' =>
        have hname : m'.name = m.name := by simpa using List.find?_some hfound
        rw [List.inj_on_of_nodup_map he.distinct (List.mem_of_find?_eq_some hfound) hm hname]

/-! ### The look-up by spelling -/

/-- A text is not found if and only if no member accepts it. -/
theorem bySpelling?_eq_none_iff :
    e.bySpelling? t = none ↔ ∀ m ∈ e.members, t ∉ spellings m.name := by
  unfold bySpelling?
  rw [List.find?_eq_none]
  simp only [List.mem_reverse, List.contains_iff_mem]

/-- **What is found is the last member that accepts the text.** -/
theorem bySpelling?_eq_some_iff :
    e.bySpelling? t = some m ↔ ∃ before later, e.members = before ++ m :: later ∧
      t ∈ spellings m.name ∧ ∀ m' ∈ later, t ∉ spellings m'.name := by
  unfold bySpelling?
  rw [List.find?_eq_some_iff_append]
  simp only [List.contains_eq_mem, decide_eq_true_eq, Bool.not_eq_true', decide_eq_false_iff_not]
  constructor
  · rintro ⟨hmem, behind, front, hsplit, hlast⟩
    refine ⟨front.reverse, behind.reverse, ?_, hmem,
      fun m' hm' => hlast m' (List.mem_reverse.mp hm')⟩
    rw [← List.reverse_reverse e.members, hsplit]
    simp
  · rintro ⟨before, later, hsplit, hmem, hlast⟩
    refine ⟨hmem, later.reverse, before.reverse, ?_,
      fun m' hm' => hlast m' (List.mem_reverse.mp hm')⟩
    rw [hsplit]
    simp

theorem bySpelling?_accepts (hfound : e.bySpelling? t = some m) :
    m ∈ e.members ∧ t ∈ spellings m.name := by
  obtain ⟨before, later, hsplit, haccepts, -⟩ := bySpelling?_eq_some_iff.mp hfound
  exact ⟨hsplit ▸ List.mem_append_right _ List.mem_cons_self, haccepts⟩

/-- A member declared later accepts the name of the member. -/
def Outdone (e : Enumeration) (m : NamedCode) : Prop :=
  ∃ before later, e.members = before ++ m :: later ∧ ∃ m' ∈ later, m.name ∈ spellings m'.name

/-- A member's own name leads to it unless it is outdone. -/
theorem IsPlain.bySpelling?_name_iff (he : e.IsPlain) (hm : m ∈ e.members) :
    e.bySpelling? m.name = some m ↔ ¬e.Outdone m := by
  rw [bySpelling?_eq_some_iff]
  constructor
  · rintro ⟨before, later, hsplit, -, hlast⟩ ⟨before', later', hsplit', m', hm', haccepts⟩
    -- the member stands at one place only, so what is behind it is told from it
    have hnodup : (before ++ m :: later).Nodup := hsplit ▸ he.distinct.of_map
    have hbefore : m ∉ before := fun hmem =>
      List.disjoint_of_nodup_append hnodup hmem List.mem_cons_self
    have hlater : m ∉ later := (List.nodup_cons.mp hnodup.of_append_right).1
    obtain ⟨-, -, rfl⟩ := (List.append_cons_inj_of_notMem hbefore hlater).mp (hsplit ▸ hsplit')
    exact hlast m' hm' haccepts
  · intro hfree
    obtain ⟨before, later, hsplit⟩ := List.append_of_mem hm
    refine ⟨before, later, hsplit, NamedCode.self_mem_spellings _, fun m' hm' haccepts => ?_⟩
    exact hfree ⟨before, later, hsplit, m', hm', haccepts⟩

/-- **In an enumeration with a code of its own for each name, the look-up by spelling finds a member
that accepts the text if there is one.  It agrees with the look-up by name on the names of the
members that are not outdone, and so on all names if nobody is.** -/
theorem bySpelling?_against_byName? (he : ofPairs? title pairs = some e)
    (hcodes : (pairs.map (·.2)).Nodup) :
    (∀ t m, e.bySpelling? t = some m → m ∈ e.members ∧ t ∈ spellings m.name) ∧
      (∀ t, e.bySpelling? t = none ↔ ∀ m ∈ e.members, t ∉ spellings m.name) ∧
      (∀ t m, e.byName? t = some m → (e.bySpelling? t = some m ↔ ¬e.Outdone m)) ∧
      ((∀ t m, e.byName? t = some m → e.bySpelling? t = some m) ↔
        ∀ m ∈ e.members, ¬e.Outdone m) := by
  have hplain : e.IsPlain := isPlain_of_ofPairs? he hcodes
  have hname : ∀ t m, e.byName? t = some m → (e.bySpelling? t = some m ↔ ¬e.Outdone m) := by
    intro t m hbyName
    obtain ⟨hm, rfl⟩ := hplain.byName?_eq_some_iff.mp hbyName
    exact hplain.bySpelling?_name_iff hm
  refine ⟨fun t m => bySpelling?_accepts, fun t => bySpelling?_eq_none_iff, hname, ?_⟩
  constructor
  · intro hall m hm
    have hbyName : e.byName? m.name = some m := hplain.byName?_eq_some_iff.mpr ⟨hm, rfl⟩
    exact (hname _ m hbyName).mp (hall _ m hbyName)
  · intro hfree t m hbyName
    exact (hname t m hbyName).mpr (hfree m (hplain.byName?_eq_some_iff.mp hbyName).1)

/-- A name that is written with an underscore and without one. -/
theorem bySpelling?_against_byName?_twoNames :
    ofPairs? "Pair" [("FOO_BAR", 0), ("FOOBAR", 1)]
        = some ⟨"Pair", [⟨"FOO_BAR", 0⟩, ⟨"FOOBAR", 1⟩], []⟩ ∧
      (([("FOO_BAR", 0), ("FOOBAR", 1)] : List (Text × Int)).map (·.2)).Nodup ∧
      byName? ⟨"Pair", [⟨"FOO_BAR", 0⟩, ⟨"FOOBAR", 1⟩], []⟩ "FOO_BAR" = some ⟨"FOO_BAR", 0⟩ ∧
      ¬Outdone ⟨"Pair", [⟨"FOO_BAR", 0⟩, ⟨"FOOBAR", 1⟩], []⟩ ⟨"FOO_BAR", 0⟩ := by
  have he : ofPairs? "Pair" [("FOO_BAR", 0), ("FOOBAR", 1)]
      = some ⟨"Pair", [⟨"FOO_BAR", 0⟩, ⟨"FOOBAR", 1⟩], []⟩ := by rfl
  have hcodes : (([("FOO_BAR", 0), ("FOOBAR", 1)] : List (Text × Int)).map (·.2)).Nodup := by
    decide
  have hbyName : byName? ⟨"Pair", [⟨"FOO_BAR", 0⟩, ⟨"FOOBAR", 1⟩], []⟩ "FOO_BAR"
      = some ⟨"FOO_BAR", 0⟩ := by decide
  obtain ⟨-, -, hname, -⟩ := bySpelling?_against_byName? he hcodes
  exact ⟨he, hcodes, hbyName, (hname _ _ hbyName).mp (by decide)⟩

/-- With the two names the other way round, the exact name of one member leads to the other. -/
theorem bySpelling?_not_extends_byName? :
    ¬∀ (title : Text) (pairs : List (Text × Int)) (e : Enumeration),
      ofPairs? title pairs = some e → (pairs.map (·.2)).Nodup →
        ∀ t m, e.byName? t = some m → e.bySpelling? t = some m := by
  intro hall
  have hfound := hall "Pair" [("FOOBAR", 0), ("FOO_BAR", 1)]
    ⟨"Pair", [⟨"FOOBAR", 0⟩, ⟨"FOO_BAR", 1⟩], []⟩ (by rfl) (by decide)
    "FOOBAR" ⟨"FOOBAR", 0⟩ (by decide)
  revert hfound
  decide

/-! ### Names that fold to different texts -/

/-- The names of the members are of ASCII, and no two of them fold to the same text. -/
structure IsSpelledApart (e : Enumeration) : Prop where
  ascii : ∀ m ∈ e.members, m.name.IsAscii
  apart : (e.members.map fun m => folded m.name).Nodup

/-- **Where the names fold to different texts, every spelling leads to the member it belongs
to.** -/
theorem IsSpelledApart.bySpelling?_eq_some_iff (he : e.IsSpelledApart) :
    e.bySpelling? t = some m ↔ m ∈ e.members ∧ t ∈ spellings m.name := by
  refine ⟨bySpelling?_accepts, ?_⟩
  rintro ⟨hm, ht⟩
  cases hfound : e.bySpelling? t with
  | none => exact absurd ht (bySpelling?_eq_none_iff.mp hfound m hm)
  | some m' =>
      obtain ⟨hm', ht'⟩ := bySpelling?_accepts hfound
      have hfolded : folded m'.name = folded m.name := by
        rw [← NamedCode.folded_of_mem_spellings (he.ascii m' hm') ht',
          NamedCode.folded_of_mem_spellings (he.ascii m hm) ht]
      rw [List.inj_on_of_nodup_map he.apart hm' hm hfolded]

theorem IsSpelledApart.not_outdone (he : e.IsSpelledApart) : ¬e.Outdone m := by
  rintro ⟨before, later, hsplit, m', hm', haccepts⟩
  have hm : m ∈ e.members := hsplit ▸ List.mem_append_right _ List.mem_cons_self
  have hmem : m' ∈ e.members := hsplit ▸ List.mem_append_right _ (List.mem_cons_of_mem _ hm')
  have hnodup : (before ++ m :: later).Nodup := hsplit ▸ he.apart.of_map
  have hown := he.bySpelling?_eq_some_iff.mpr ⟨hm, NamedCode.self_mem_spellings m.name⟩
  rw [he.bySpelling?_eq_some_iff.mpr ⟨hmem, haccepts⟩] at hown
  rw [Option.some.inj hown] at hm'
  exact (List.nodup_cons.mp hnodup.of_append_right).1 hm'

/-- The enumerations of the directory protocol. -/
def shipped : List Enumeration :=
  [DeviceOperation.enumeration, notificationChange, backendLock, ResultCode.enumeration]

theorem isSpelledApart_of_shipped (he : e ∈ shipped) : e.IsSpelledApart := by
  have hall : ∀ e ∈ shipped, (∀ m ∈ e.members, m.name.IsAscii) ∧
      (e.members.map fun m => folded m.name).Nodup := by
    -- written out letter by letter, so that no name is taken apart anew for each comparison
    simp only [shipped, DeviceOperation.enumeration, DeviceOperation.all, DeviceOperation.member,
      notificationChange, backendLock, ResultCode.enumeration, ResultCode.members,
      ResultCode.success, ResultCode.serverDown, ResultCode.localError, ResultCode.paramError,
      ResultCode.connectError, Text.ofString, String.reduceToList, List.map_cons, List.map_nil]
    decide +kernel
  obtain ⟨hascii, hapart⟩ := hall e he
  exact ⟨hascii, hapart⟩

end OtpRegistrar.Enumeration
