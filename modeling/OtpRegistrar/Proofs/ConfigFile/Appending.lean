/-
Configuration files put together.

A reader of lines has a memory: inside a quoted value it knows the parameter, the quote
and the lines so far.  Two files can be put one behind the other because this memory is
empty wherever a file may end.  A file that is read to its end has closed every quote,
so what stands behind it is read as if it came first, except that the parameters of the
first file are there already.

What the two files give together is then told without reading again.  `merge` puts the
entries of one over those of another, and since storing an entry commutes with it, the
whole second file does.

A blank line or a comment is a file that gives nothing.  It may stand in front of any
other file and behind any that does not end inside of quotes.
-/
import OtpRegistrar.Proofs.ConfigFile

namespace OtpRegistrar.ConfigFile

/-! ### Entries over entries -/

namespace Entries

/-- The entries of a later file over those of an earlier one: what both name keeps its place and
takes the later value, and what only the later one names comes behind. -/
def merge (base later : Entries) : Entries :=
  base.map (fun e => (e.1, (later.get? e.1).getD e.2)) ++
    later.filter (fun e => (base.get? e.1).isNone)

theorem get?_cons (e : Text × Value) (entries : Entries) (name : Text) :
    get? (e :: entries) name = if e.1 = name then some e.2 else entries.get? name := by
  unfold get?
  by_cases he : e.1 = name
  · rw [List.find?_cons_of_pos (by simpa using he), if_pos he]
    rfl
  · rw [List.find?_cons_of_neg (by simpa using he), if_neg he]

theorem get?_append (xs ys : Entries) (name : Text) :
    get? (xs ++ ys) name = (xs.get? name).or (ys.get? name) := by
  unfold get?
  rw [List.find?_append, Option.map_or]

theorem get?_isSome_iff {entries : Entries} {name : Text} :
    (entries.get? name).isSome = true ↔ name ∈ entries.map (·.1) := by
  unfold get?
  rw [Option.isSome_map, List.find?_isSome]
  simp

/-- A value is read back under the name that it was stored under, and no other value changes. -/
theorem get?_set (entries : Entries) (name : Text) (value : Value) (name' : Text) :
    (entries.set name value).get? name' =
      if name = name' then some value else entries.get? name' := by
  induction entries with
  | nil => exact get?_cons _ _ _
  | cons e entries ih =>
      obtain ⟨n, v⟩ := e
      rw [set]
      by_cases hn : n = name
      · subst hn
        rw [if_pos rfl, get?_cons, get?_cons]
        by_cases hname : n = name'
        · rw [if_pos hname, if_pos hname]
        · rw [if_neg hname, if_neg hname, if_neg hname]
      · rw [if_neg hn, get?_cons, get?_cons, ih]
        by_cases hname : name = name'
        · subst hname
          rw [if_neg hn, if_pos rfl, if_pos rfl]
        · rw [if_neg hname, if_neg hname]

/-- An entry is stored in the part that has its name, else in the last one. -/
theorem set_append (xs ys : Entries) (name : Text) (value : Value) :
    set name value (xs ++ ys) =
      if (xs.get? name).isSome then xs.set name value ++ ys else xs ++ ys.set name value := by
  induction xs with
  | nil => rfl
  | cons e xs ih =>
      obtain ⟨n, v⟩ := e
      rw [List.cons_append, set, set, get?_cons, ih]
      by_cases hn : n = name
      · simp [hn]
      · by_cases hthere : (get? xs name).isSome = true
        · simp [hn, hthere]
        · simp [hn, hthere]

@[simp] theorem merge_nil (base : Entries) : base.merge [] = base := by
  simp [merge, get?]

theorem get?_map (entries : Entries) (f : Text → Value → Value) (name : Text) :
    get? (entries.map fun e => (e.1, f e.1 e.2)) name = (entries.get? name).map (f name) := by
  induction entries with
  | nil => rfl
  | cons e entries ih =>
      rw [List.map_cons, get?_cons, get?_cons, ih]
      by_cases he : e.1 = name
      · simp [he]
      · simp [he]

theorem get?_filter (entries : Entries) (p : Text → Bool) (name : Text) :
    get? (entries.filter fun e => p e.1) name = if p name then entries.get? name else none := by
  induction entries with
  | nil => simp [get?]
  | cons e entries ih =>
      rw [get?_cons]
      by_cases he : e.1 = name
      · subst he
        by_cases hp : p e.1 = true
        · rw [List.filter_cons, if_pos hp, get?_cons, if_pos rfl, if_pos hp, if_pos rfl]
        · rw [List.filter_cons, if_neg hp, ih, if_neg hp, if_neg hp]
      · rw [if_neg he, ← ih]
        by_cases hp : p e.1 = true
        · rw [List.filter_cons, if_pos hp, get?_cons, if_neg he]
        · rw [List.filter_cons, if_neg hp]

/-- **What one file gives and then another is what the later one says, else the earlier one.** -/
theorem get?_merge (base later : Entries) (name : Text) :
    (base.merge later).get? name = (later.get? name).or (base.get? name) := by
  unfold merge
  rw [get?_append, get?_map base fun n v => (later.get? n).getD v,
    get?_filter later fun n => (base.get? n).isNone]
  cases base.get? name with
  | none => simp
  | some v => cases later.get? name <;> rfl

theorem set_filter (entries : Entries) (p : Text → Bool) (name : Text) (value : Value) :
    (entries.set name value).filter (fun e => p e.1) =
      if p name then set name value (entries.filter fun e => p e.1)
      else entries.filter fun e => p e.1 := by
  induction entries with
  | nil =>
      by_cases hp : p name = true
      · simp [set, hp]
      · simp [set, hp]
  | cons e entries ih =>
      obtain ⟨n, v⟩ := e
      rw [set]
      by_cases hn : n = name
      · subst hn
        by_cases hp : p n = true
        · simp [set, hp]
        · simp [hp]
      · rw [if_neg hn, List.filter_cons, List.filter_cons, ih]
        by_cases hp : p n = true
        · by_cases hp' : p name = true
          · simp [set, hp, hp', hn]
          · simp [hp, hp']
        · simp [hp]

/-- A value that is stored under one of several names changes what stands under that name. -/
theorem set_map {entries : Entries} (hnames : (entries.map (·.1)).Nodup)
    (f : Text → Value → Value) {name : Text} (hthere : (entries.get? name).isSome = true)
    (value : Value) :
    set name value (entries.map fun e => (e.1, f e.1 e.2)) =
      entries.map fun e => (e.1, if name = e.1 then value else f e.1 e.2) := by
  induction entries with
  | nil => cases hthere
  | cons e entries ih =>
      obtain ⟨n, v⟩ := e
      rw [List.map_cons, List.nodup_cons] at hnames
      rw [List.map_cons, List.map_cons, set]
      by_cases hn : n = name
      · subst hn
        rw [if_pos rfl, if_pos rfl]
        congr 1
        refine List.map_congr_left fun e he => ?_
        have hother : ¬n = e.1 := fun heq => hnames.1 (List.mem_map.mpr ⟨e, he, heq.symm⟩)
        rw [if_neg hother]
      · rw [get?_cons, if_neg hn] at hthere
        rw [if_neg hn, if_neg (Ne.symm hn), ih hnames.2 hthere]

/-- The names of the earlier file keep their places, and new ones come behind in their order. -/
theorem names_merge (base later : Entries) :
    (base.merge later).map (·.1) =
      base.map (·.1) ++ (later.map (·.1)).filter (· ∉ base.map (·.1)) := by
  unfold merge
  rw [List.map_append, List.map_map, List.filter_map]
  congr 1
  refine congrArg _ (List.filter_congr fun e _ => ?_)
  rw [Bool.eq_iff_iff, Option.isNone_iff_eq_none, ← Option.not_isSome_iff_eq_none,
    get?_isSome_iff]
  simp

/-- Storing an entry in a file and putting the file over another one commute. -/
theorem set_merge {base : Entries} (hbase : (base.map (·.1)).Nodup) (later : Entries) (name : Text)
    (value : Value) : (base.merge later).set name value = base.merge (later.set name value) := by
  have hlater : ∀ n v, ((later.set name value).get? n).getD v =
      if name = n then value else (later.get? n).getD v := by
    intro n v
    rw [get?_set]
    by_cases hn : name = n
    · rw [if_pos hn, if_pos hn]
      rfl
    · rw [if_neg hn, if_neg hn]
  unfold merge
  rw [set_append, get?_map base fun n v => (later.get? n).getD v, Option.isSome_map,
    set_filter later fun n => (base.get? n).isNone]
  simp only [hlater]
  by_cases hthere : (base.get? name).isSome = true
  · have hnone : ¬(base.get? name).isNone = true := by
      simpa using Option.isSome_iff_ne_none.mp hthere
    rw [if_pos hthere, if_neg hnone, set_map hbase (fun n v => (later.get? n).getD v) hthere]
  · have hnone : (base.get? name).isNone = true := by simpa using hthere
    rw [if_neg hthere, if_pos hnone]
    congr 1
    refine List.map_congr_left fun e he => ?_
    have hother : ¬name = e.1 := fun heq =>
      hthere (get?_isSome_iff.mpr (List.mem_map.mpr ⟨e, he, heq.symm⟩))
    rw [if_neg hother]

end Entries

/-! ### Lines behind lines -/

section Lines

variable {keep : Text → Bool}

/-- **Behind lines a reader stands somewhere, or it has been stopped for good**: all that the lines
have to do with what follows is the value that they leave open and the entries that they give. -/
theorem readLines_stands (keep : Text → Bool) (o : Option Open) (entries : Entries)
    (a : List Text) :
    (∃ o' entries', ∀ b, readLines keep o entries (a ++ b) = readLines keep o' entries' b) ∨
    ∃ line, ∀ b, readLines keep o entries (a ++ b) = .error (.noAssignment line) := by
  induction a generalizing o entries with
  | nil => exact .inl ⟨o, entries, fun b => rfl⟩
  | cons line rest ih =>
      cases o with
      | some o =>
          by_cases hclose : (Text.stripRightOf (.char '\r') line).getLast? = some o.quote
          · simp only [List.cons_append, readLines, hclose, if_true]
            exact ih _ _
          · simp only [List.cons_append, readLines, hclose, if_false]
            exact ih _ _
      | none =>
          cases hsays : Line.ofText (Text.stripRightOf (.char '\r') line) with
          | nothing =>
              simp only [List.cons_append, readLines, hsays]
              exact ih _ _
          | assignment name value =>
              simp only [List.cons_append, readLines, hsays]
              exact ih _ _
          | opening name quote start =>
              simp only [List.cons_append, readLines, hsays]
              exact ih _ _
          | noAssignment =>
              simp only [List.cons_append, readLines, hsays]
              exact .inr ⟨_, fun b => rfl⟩

/-- Lines behind a file that is read to its end are read as if they came first, over its entries.
-/
theorem readLines_append {entries first : Entries} {a : List Text}
    (hfirst : readLines keep none entries a = .ok first) (b : List Text) :
    readLines keep none entries (a ++ b) = readLines keep none first b := by
  rcases readLines_stands keep none entries a with ⟨o, entries', hstands⟩ | ⟨line, hstopped⟩
  · have hend := hstands []
    rw [List.append_nil, hfirst] at hend
    cases o with
    | none =>
        cases hend
        exact hstands b
    | some o => cases hend
  · have hend := hstopped []
    rw [List.append_nil, hfirst] at hend
    cases hend

/-- A line that is no assignment ends the reading, whatever stands behind it. -/
theorem readLines_append_error {entries : Entries} {a : List Text} {line : Text}
    (hfirst : readLines keep none entries a = .error (.noAssignment line)) (b : List Text) :
    readLines keep none entries (a ++ b) = .error (.noAssignment line) := by
  rcases readLines_stands keep none entries a with ⟨o, entries', hstands⟩ | ⟨line', hstopped⟩
  · have hend := hstands []
    rw [List.append_nil, hfirst] at hend
    cases o with
    | none => cases hend
    | some o => cases hend
  · have hend := hstopped []
    rw [List.append_nil, hfirst] at hend
    cases hend
    exact hstopped b

/-- A file is read over the entries of another as it is read alone, and then put over them. -/
theorem readLines_merge {base : Entries} (hbase : (base.map (·.1)).Nodup) (o : Option Open)
    (entries : Entries) (lines : List Text) :
    readLines keep o (base.merge entries) lines =
      (readLines keep o entries lines).map base.merge := by
  have hstored : ∀ (entries : Entries) (name : Text) (value : Value),
      (if keep name then (base.merge entries).set name value else base.merge entries) =
        base.merge (if keep name then entries.set name value else entries) := by
    intro entries name value
    by_cases hkeep : keep name = true
    · rw [if_pos hkeep, if_pos hkeep, Entries.set_merge hbase]
    · rw [if_neg hkeep, if_neg hkeep]
  fun_induction readLines keep o entries lines with
  | case1 entries => rfl
  | case2 o entries => rfl
  | case3 o entries line rest line' hclose value ih =>
      rw [readLines, if_pos hclose]
      dsimp only
      rw [hstored, ih]
  | case4 o entries line rest line' hopen ih =>
      rw [readLines, if_neg hopen, ih]
  | case5 entries line rest line' hsays ih =>
      rw [readLines, hsays, ih]
  | case6 entries line rest line' hsays =>
      rw [readLines, hsays]
      rfl
  | case7 entries line rest line' name quote start hsays ih =>
      rw [readLines, hsays]
      exact ih
  | case8 entries line rest line' name value hsays ih =>
      rw [readLines, hsays]
      dsimp only
      rw [hstored, ih]

/-! ### Lines that say nothing -/

/-- The line is blank or a comment. -/
structure PassedOver (line : Text) : Prop where
  noBreak : Symbol.char '\n' ∉ line
  bare : line.strip = [] ∨ line.strip.startsWith "#" = true

instance (line : Text) : Decidable (PassedOver line) :=
  decidable_of_iff
    (Symbol.char '\n' ∉ line ∧ (line.strip = [] ∨ line.strip.startsWith "#" = true))
    ⟨fun ⟨h1, h2⟩ => ⟨h1, h2⟩, fun ⟨h1, h2⟩ => ⟨h1, h2⟩⟩

theorem PassedOver.ofText {line : Text} (hline : PassedOver line) :
    Line.ofText (Text.stripRightOf (.char '\r') line) = .nothing := by
  unfold Line.ofText
  rw [Text.strip_stripRightOf (by decide)]
  dsimp only
  rw [if_pos]
  rcases hline.bare with hblank | hcomment
  · simp [hblank]
  · simp [hcomment]

/-- A blank line or a comment says nothing where no value is open. -/
theorem readLines_passedOver {line : Text} (hline : PassedOver line) (entries : Entries)
    (b : List Text) : readLines keep none entries (line :: b) = readLines keep none entries b := by
  rw [readLines, hline.ofText]

/-- Behind lines that leave no value open a blank line or a comment makes no difference. -/
theorem readLines_append_passedOver {entries : Entries} {a : List Text}
    (hclosed : ∀ name, readLines keep none entries a ≠ .error (.unclosedQuote name)) {line : Text}
    (hline : PassedOver line) (b : List Text) :
    readLines keep none entries (a ++ line :: b) = readLines keep none entries (a ++ b) := by
  rcases readLines_stands keep none entries a with ⟨o, entries', hstands⟩ | ⟨line', hstopped⟩
  · cases o with
    | none => rw [hstands, hstands, readLines_passedOver hline]
    | some o =>
        have hend := hstands []
        rw [List.append_nil] at hend
        exact absurd hend (hclosed o.name)
  · rw [hstopped, hstopped]

end Lines

/-! ### Files behind files -/

/-- What a file that is read for the listed parameters alone keeps; an empty list stands for all. -/
def keeps (names : List Text) (name : Text) : Bool := names.isEmpty || names.contains name

theorem readOnly_eq (names : List Text) (t : Text) :
    readOnly names t = readLines (keeps names) none [] (linesOf t) := by
  have hkeeps : keeps names = if names.isEmpty then fun _ => true else names.contains := by
    funext name
    unfold keeps
    cases names.isEmpty <;> rfl
  unfold readOnly read
  rw [hkeeps]
  cases names.isEmpty <;> rfl

/-- **Files that are put one behind the other give together what the later one gives over the
earlier one**, if the earlier one can be read; a flaw of the later one stays what it is.  A line
that is no assignment is as wrong with another file behind it.  Where no quoted value is open a
blank line or a comment may be put in, and makes no difference. -/
theorem readOnly_append (names : List Text) (a b : Text) :
    (∀ first, readOnly names a = .ok first →
      readOnly names (a ++ Text.newline ++ b) = (readOnly names b).map first.merge ∧
      ∀ later, readOnly names b = .ok later →
        (∀ name, (first.merge later).get? name = (later.get? name).or (first.get? name)) ∧
        (first.merge later).map (·.1) =
          first.map (·.1) ++ (later.map (·.1)).filter (· ∉ first.map (·.1))) ∧
    (∀ line, readOnly names a = .error (.noAssignment line) →
      readOnly names (a ++ Text.newline ++ b) = .error (.noAssignment line)) ∧
    ∀ c, PassedOver c →
      readOnly names (c ++ Text.newline ++ b) = readOnly names b ∧
      ((∀ name, readOnly names a ≠ .error (.unclosedQuote name)) →
        readOnly names (a ++ Text.newline ++ c) = readOnly names a ∧
        readOnly names (a ++ Text.newline ++ (c ++ Text.newline ++ b)) =
          readOnly names (a ++ Text.newline ++ b)) := by
  have hlines : ∀ s t : Text, linesOf (s ++ Text.newline ++ t) = linesOf s ++ linesOf t := by
    intro s t
    rw [List.append_assoc]
    exact linesOf_append s t
  simp only [readOnly_eq, hlines]
  refine ⟨?_, ?_, ?_⟩
  · intro first hfirst
    have hnames : (first.map (·.1)).Nodup := nodup_of_readLines (by simp) hfirst
    refine ⟨?_, fun later _ => ⟨first.get?_merge later, first.names_merge later⟩⟩
    rw [readLines_append hfirst, ← readLines_merge hnames, Entries.merge_nil]
  · intro line hfirst
    exact readLines_append_error hfirst _
  · intro c hc
    rw [linesOf_of_not_mem hc.noBreak, List.singleton_append]
    refine ⟨readLines_passedOver hc [] _, fun hclosed => ⟨?_, ?_⟩⟩
    · rw [readLines_append_passedOver hclosed hc, List.append_nil]
    · rw [readLines_append_passedOver hclosed hc]

/-- A file with a value on two lines, the second of which looks like a comment. -/
def earlierFile : Text := "A = 1\nB='x\n# y'"

/-- A file that gives one of its parameters anew, and another one. -/
def laterFile : Text := "A=\"two\"\r\nC=3"

/-- The later value stands in the place of the earlier one. -/
theorem readOnly_append_repeated :
    ∃ first, readOnly [] earlierFile = .ok first ∧ PassedOver "\t# note\r" ∧
      readOnly [] (earlierFile ++ Text.newline ++ ("\t# note\r" ++ Text.newline ++ laterFile)) =
        .ok [("A", .text "two"), ("B", .text "x\n# y"), ("C", .int 3)] := by
  have hfirst : readOnly [] earlierFile = .ok [("A", .int 1), ("B", .text "x\n# y")] := rfl
  have hlater : readOnly [] laterFile = .ok [("A", .text "two"), ("C", .int 3)] := rfl
  have hpassed : PassedOver "\t# note\r" := by decide
  obtain ⟨happend, -, hcomment⟩ := readOnly_append [] earlierFile laterFile
  refine ⟨_, hfirst, hpassed, ?_⟩
  rw [((hcomment _ hpassed).2 (by simp [hfirst])).2, (happend _ hfirst).1, hlater]
  rfl

end OtpRegistrar.ConfigFile
