/-
What a syntax text declares, and what it is taken to declare.

A value specification is taken apart from the outside: first the delimiters, then the
mark of a sensitive value, then that of a path, and what is left is cut at the first
equals sign.  So it says one thing at most, and the argument it says it of is written
the same way again (`Specifies`).

It is taken for that argument (`Taken`), with one exception.  A specification that is
nothing but colons, and too few of them, has delimiters that cross: one colon passes for
two single delimiters, two or three for two double ones.  Such an argument has no name,
and it is not written the same way again.

A syntax text is read if its words declare arguments in this sense, by spellings that
are all different.  So the words come back from the arguments unless delimiters cross
somewhere among them, and that is all that can go wrong on the way.
-/
import OtpRegistrar.Arguments.Declaration
import OtpRegistrar.Proofs.Arguments.Delimited
import Mathlib.Data.List.Induction
import Mathlib.Data.List.Nodup

namespace OtpRegistrar.Argument

/-! ### The parts of a value specification -/

/-- The delimiter on either side of a value specification. -/
def delimiter (required : Bool) : Text := if required then "::" else ":"

/-- What stands behind the name of a variable: the text of a flag. -/
def flagText (a : Argument) : Text :=
  match a.flag with
  | some t => "=" ++ t
  | none => []

/-- A mark, if there is one. -/
def markText (present : Bool) (t : Text) : Text := if present then t else []

/-- What stands between the delimiters. -/
def body (a : Argument) : Text :=
  markText a.sensitive "!" ++ (markText a.isFile "file:" ++ (a.variableName ++ a.flagText))

theorem spec_eq (a : Argument) :
    a.spec = delimiter a.required ++ a.body ++ delimiter a.required := by
  unfold spec delimiter body flagText markText
  cases a.flag <;> simp

/-- Nothing is left between the delimiters if there is neither a mark nor a name nor a flag. -/
theorem body_eq_nil_iff {a : Argument} : a.body = [] ↔
    a.sensitive = false ∧ a.isFile = false ∧ a.variableName = [] ∧ a.flag = none := by
  obtain ⟨spelling, aliases, name, flag, required, sensitive, isFile⟩ := a
  unfold body flagText markText
  cases sensitive <;> cases isFile <;> cases flag <;> simp [Text.ofString]

/-! ### What a value specification says -/

/-- What is looked for in front of a text is not there by accident: no mark that the argument does
not have, and no equals sign in front of that of a flag. -/
structure Clear (a : Argument) : Prop where
  unmarked : a.sensitive = false →
    ¬Text.ofString "!" <+: markText a.isFile "file:" ++ (a.variableName ++ a.flagText)
  pathless : a.isFile = false → ¬Text.ofString "file:" <+: a.variableName ++ a.flagText
  uncut : Symbol.char '=' ∉ a.variableName

/-- The specification is that of the argument, taken apart from the outside: with two colons on
either side it makes a value required, whatever stands between them. -/
structure Specifies (spec : Text) (a : Argument) : Prop where
  written : a.spec = spec
  outermost : a.required = false → ∀ m : Text, spec ≠ "::" ++ m ++ "::"
  clear : a.Clear

/-- The delimiters of the specification, single or double, share colons. -/
def HasCrossed (spec : Text) : Prop :=
  ∃ required, Delimited.Crossed (delimiter required) (delimiter required) spec

/-- What a specification is taken for. -/
inductive Taken (spec : Text) (a : Argument) : Prop
  /-- It says so. -/
  | said (hsaid : Specifies spec a) (hapart : ¬HasCrossed spec)
  /-- Its delimiters share colons, and nothing is left between them. -/
  | crossed (hcrossed : Delimited.Crossed (delimiter a.required) (delimiter a.required) spec)
      (hnothing : a.body = [])

theorem mem_delimiter {required : Bool} {s : Symbol} (hs : s ∈ delimiter required) :
    s = .char ':' := by
  cases required <;> simpa [delimiter, Text.ofString] using hs

/-- What delimiters cross in is nothing but colons. -/
theorem colons_of_crossed {required : Bool} {spec : Text}
    (hcrossed : Delimited.Crossed (delimiter required) (delimiter required) spec) :
    spec = List.replicate spec.length (.char ':') :=
  List.eq_replicate_iff.mpr ⟨rfl, fun _ hs => (hcrossed.mem hs).elim mem_delimiter mem_delimiter⟩

theorem crossed_single_iff {spec : Text} :
    Delimited.Crossed (delimiter false) (delimiter false) spec ↔ spec = ":" := by
  constructor
  · intro hcrossed
    have hlong : 1 ≤ spec.length := hcrossed.length_le
    have hshort : spec.length < 1 + 1 := hcrossed.length_lt
    have hone : spec.length = 1 := by omega
    have hcolons := colons_of_crossed hcrossed
    rwa [hone] at hcolons
  · rintro rfl
    exact ⟨[], ":", [], by decide, rfl, rfl, rfl⟩

theorem crossed_double_iff {spec : Text} :
    Delimited.Crossed (delimiter true) (delimiter true) spec ↔ spec = "::" ∨ spec = ":::" := by
  constructor
  · intro hcrossed
    have hlong : 2 ≤ spec.length := hcrossed.length_le
    have hshort : spec.length < 2 + 2 := hcrossed.length_lt
    have hmore : spec.length = 2 ∨ spec.length = 3 := by omega
    have hcolons := colons_of_crossed hcrossed
    rcases hmore with htwo | hthree
    · rw [htwo] at hcolons
      exact .inl hcolons
    · rw [hthree] at hcolons
      exact .inr hcolons
  · rintro (rfl | rfl)
    · exact ⟨[], "::", [], by decide, rfl, rfl, rfl⟩
    · exact ⟨":", ":", ":", by decide, rfl, rfl, rfl⟩

/-- Only three texts are too short for the colons that they begin and end with. -/
theorem hasCrossed_iff {spec : Text} :
    HasCrossed spec ↔ spec = ":" ∨ spec = "::" ∨ spec = ":::" := by
  unfold HasCrossed
  rw [Bool.exists_bool, crossed_single_iff, crossed_double_iff]

/-! ### Taking a value specification apart -/

/-- What stands between the delimiters, and whether they are double. -/
def undelimited? (spec : Text) : Option (Bool × Text) :=
  match Delimited.strip? "::" "::" spec with
  | some body => some (true, body)
  | none => (Delimited.strip? ":" ":" spec).map (false, ·)

theorem undelimited?_double {spec inner : Text} :
    undelimited? spec = some (true, inner) ↔ Delimited.strip? "::" "::" spec = some inner := by
  unfold undelimited?
  cases Delimited.strip? "::" "::" spec <;> simp

theorem undelimited?_single {spec inner : Text} : undelimited? spec = some (false, inner) ↔
    Delimited.strip? "::" "::" spec = none ∧ Delimited.strip? ":" ":" spec = some inner := by
  unfold undelimited?
  cases Delimited.strip? "::" "::" spec <;> simp

/-- **Double delimiters go before single ones**, and nothing stands between crossed ones. -/
theorem undelimited?_eq_some_iff {spec inner : Text} {required : Bool} :
    undelimited? spec = some (required, inner) ↔
      (spec = delimiter required ++ inner ++ delimiter required ∧
        (required = false → ∀ m : Text, spec ≠ "::" ++ m ++ "::") ∧ ¬HasCrossed spec) ∨
      inner = [] ∧ Delimited.Crossed (delimiter required) (delimiter required) spec := by
  cases required with
  | true =>
      rw [undelimited?_double, Delimited.strip?_eq_some_iff]
      refine or_congr ⟨fun henclosed => ⟨henclosed, nofun, fun hcrossed => ?_⟩, And.left⟩ Iff.rfl
      -- what is long enough for two double delimiters is too long for crossed ones
      have hlength : 4 ≤ spec.length := by
        rw [henclosed, List.length_append, List.length_append]
        show 4 ≤ 2 + inner.length + 2
        omega
      rcases hasCrossed_iff.mp hcrossed with rfl | rfl | rfl <;> exact absurd hlength (by decide)
  | false =>
      rw [undelimited?_single, Delimited.strip?_eq_none_iff, Delimited.strip?_eq_some_iff]
      constructor
      · rintro ⟨⟨houtermost, hdouble⟩, henclosed | hcrossed⟩
        · refine .inl ⟨henclosed, fun _ => houtermost, ?_⟩
          rintro ⟨required, hcrossed⟩
          cases required with
          | true => exact hdouble hcrossed
          | false => exact hcrossed.not_enclosed inner henclosed
        · exact .inr hcrossed
      · rintro (⟨henclosed, houtermost, hapart⟩ | ⟨rfl, hcrossed⟩)
        · exact ⟨⟨houtermost rfl, fun hdouble => hapart ⟨true, hdouble⟩⟩, .inl henclosed⟩
        · refine ⟨⟨?_, ?_⟩, .inr ⟨rfl, hcrossed⟩⟩
          · rw [crossed_single_iff.mp hcrossed]
            simp [Text.ofString]
          · intro hdouble
            rw [crossed_single_iff.mp hcrossed] at hdouble
            exact absurd (crossed_double_iff.mp hdouble) (by decide)

/-- A name, and the text of a flag behind its first equals sign. -/
def cutFlag (inner : Text) : Text × Option Text :=
  match Text.splitFirst? (.char '=') inner with
  | none => (inner, none)
  | some (name, flag) => (name, some flag)

theorem cutFlag_eq_iff {inner : Text} {a : Argument} :
    cutFlag inner = (a.variableName, a.flag) ↔
      inner = a.variableName ++ a.flagText ∧ Symbol.char '=' ∉ a.variableName := by
  obtain ⟨spelling, aliases, name, flag, required, sensitive, isFile⟩ := a
  unfold cutFlag flagText
  constructor
  · cases hsplit : Text.splitFirst? (.char '=') inner with
    | none =>
        intro heq
        cases heq
        exact ⟨(List.append_nil _).symm, Text.splitFirst?_eq_none hsplit⟩
    | some parts =>
        intro heq
        cases heq
        exact Text.splitFirst?_eq_some hsplit
  · rintro ⟨rfl, huncut⟩
    cases flag with
    | none => rw [List.append_nil, Text.splitFirst?_of_not_mem huncut]
    | some t =>
        have hsplit : Text.splitFirst? (.char '=') (name ++ ("=" ++ t)) = some (name, t) :=
          Text.splitFirst?_append huncut t
        rw [hsplit]

/-- The declaration that is made of what stands between the delimiters. -/
def ofBody (spelling : Text) (aliases : List Text) (required : Bool) (inner : Text) : Argument :=
  let (sensitive, behindMark) := Delimited.takeMark "!" inner
  let (isFile, behindPath) := Delimited.takeMark "file:" behindMark
  let (name, flag) := cutFlag behindPath
  ⟨spelling, aliases, name, flag, required, sensitive, isFile⟩

variable {a : Argument} {spelling spec inner : Text} {aliases : List Text} {required : Bool}

/-- **A declaration is made of what stands between the delimiters**: the marks come off one after
the other, and what is left is a name with or without a flag. -/
theorem ofBody_eq_iff : ofBody spelling aliases required inner = a ↔
    (a.spelling = spelling ∧ a.aliases = aliases) ∧ a.required = required ∧ a.body = inner ∧
      a.Clear := by
  have hsteps : ofBody spelling aliases required inner = a ↔
      (a.spelling = spelling ∧ a.aliases = aliases) ∧ a.required = required ∧
        ∃ behindMark behindPath, Delimited.takeMark "!" inner = (a.sensitive, behindMark) ∧
          Delimited.takeMark "file:" behindMark = (a.isFile, behindPath) ∧
          cutFlag behindPath = (a.variableName, a.flag) := by
    unfold ofBody
    constructor
    · rintro rfl
      exact ⟨⟨rfl, rfl⟩, rfl, _, _, rfl, rfl, rfl⟩
    · rintro ⟨⟨rfl, rfl⟩, rfl, behindMark, behindPath, hmark, hpath, hcut⟩
      simp only [hmark, hpath, hcut]
  rw [hsteps]
  refine and_congr_right fun _ => and_congr_right fun _ => ?_
  simp only [Delimited.takeMark_eq_iff, cutFlag_eq_iff]
  constructor
  · rintro ⟨_, _, ⟨rfl, hunmarked⟩, ⟨rfl, hpathless⟩, rfl, huncut⟩
    exact ⟨rfl, hunmarked, hpathless, huncut⟩
  · rintro ⟨rfl, hunmarked, hpathless, huncut⟩
    exact ⟨_, _, ⟨rfl, hunmarked⟩, ⟨rfl, hpathless⟩, rfl, huncut⟩

theorem ofSpec_of_undelimited (hfound : undelimited? spec = some (required, inner)) :
    ofSpec spelling aliases spec = .ok (ofBody spelling aliases required inner) := by
  unfold ofSpec
  dsimp only
  split
  · next hnone =>
    have hnothing : undelimited? spec = none := hnone
    rw [hnothing] at hfound
    cases hfound
  · next hsome =>
    have hsame : undelimited? spec = some (_, _) := hsome
    rw [hsame] at hfound
    cases hfound
    unfold ofBody cutFlag
    dsimp only
    cases Text.splitFirst? (.char '=')
      (Delimited.takeMark "file:" (Delimited.takeMark "!" inner).2).2 <;> rfl

theorem ofSpec_of_not_undelimited (hnothing : undelimited? spec = none) :
    ofSpec spelling aliases spec = .error (.badSpec spec) := by
  unfold ofSpec
  dsimp only
  split
  · rfl
  · next hsome =>
    have hfound : undelimited? spec = some (_, _) := hsome
    rw [hnothing] at hfound
    cases hfound

/-- A specification is taken for a declaration from the outside in. -/
theorem ofSpec_eq_ok_iff_body : ofSpec spelling aliases spec = .ok a ↔
    ∃ required inner, undelimited? spec = some (required, inner) ∧
      ofBody spelling aliases required inner = a := by
  cases hfound : undelimited? spec with
  | none =>
      rw [ofSpec_of_not_undelimited hfound]
      simp
  | some found =>
      rw [ofSpec_of_undelimited hfound]
      constructor
      · intro heq
        exact ⟨_, _, rfl, Except.ok.inj heq⟩
      · rintro ⟨_, _, hsame, rfl⟩
        cases hsame
        rfl

theorem clear_of_body_eq_nil (hnothing : a.body = []) : a.Clear := by
  obtain ⟨hsensitive, hfile, hname, hflag⟩ := body_eq_nil_iff.mp hnothing
  have hbare : a.variableName ++ a.flagText = [] := by
    unfold flagText
    rw [hname, hflag]
    rfl
  refine ⟨fun _ => ?_, fun _ => ?_, by simp [hname]⟩
  · rw [hbare, hfile]
    decide
  · rw [hbare]
    decide

/-- **A value specification is taken for what it says**, or for nothing at all if its delimiters
share colons. -/
theorem ofSpec_eq_ok_iff : ofSpec spelling aliases spec = .ok a ↔
    (a.spelling = spelling ∧ a.aliases = aliases) ∧ Taken spec a := by
  have hparts : ofSpec spelling aliases spec = .ok a ↔
      (a.spelling = spelling ∧ a.aliases = aliases) ∧
        undelimited? spec = some (a.required, a.body) ∧ a.Clear := by
    simp only [ofSpec_eq_ok_iff_body, ofBody_eq_iff]
    constructor
    · rintro ⟨_, _, hfound, hspelled, rfl, rfl, hclear⟩
      exact ⟨hspelled, hfound, hclear⟩
    · rintro ⟨hspelled, hfound, hclear⟩
      exact ⟨_, _, hfound, hspelled, rfl, rfl, hclear⟩
  rw [hparts, undelimited?_eq_some_iff, ← spec_eq]
  refine and_congr_right fun _ => ⟨?_, fun htaken => ?_⟩
  · rintro ⟨⟨hwritten, houtermost, hapart⟩ | ⟨hnothing, hcrossed⟩, hclear⟩
    · exact .said ⟨hwritten.symm, houtermost, hclear⟩ hapart
    · exact .crossed hcrossed hnothing
  · cases htaken with
    | said hsaid hapart =>
        exact ⟨.inl ⟨hsaid.written.symm, hsaid.outermost, hapart⟩, hsaid.clear⟩
    | crossed hcrossed hnothing =>
        exact ⟨.inr ⟨hnothing, hcrossed⟩, clear_of_body_eq_nil hnothing⟩

/-- What is taken is written the same way again unless the delimiters share colons. -/
theorem Taken.spec_eq_iff (htaken : Taken spec a) : a.spec = spec ↔ ¬HasCrossed spec := by
  cases htaken with
  | said hsaid hapart => exact iff_of_true hsaid.written hapart
  | crossed hcrossed hnothing =>
      refine iff_of_false (fun hsame => ?_) (not_not_intro ⟨_, hcrossed⟩)
      rw [spec_eq, hnothing] at hsame
      exact hcrossed.not_enclosed [] hsame.symm

/-! ### A whole syntax text -/

/-- The words declare the arguments, two words each: the spellings joined by bars, of which the
first begins with a dash, and what the specification stands for. -/
inductive Declares (stands : Text → Argument → Prop) : List Text → List Argument → Prop
  | nil : Declares stands [] []
  | cons {word spec : Text} {rest : List Text} {a : Argument} {arguments : List Argument}
      (hdashed : Text.ofString "-" <+: word)
      (hspelled : a.spellings = Text.splitOn (.char '|') word)
      (hstands : stands spec a) (hrest : Declares stands rest arguments) :
      Declares stands (word :: spec :: rest) (a :: arguments)

/-- The value specifications among the words of a syntax text: every other word. -/
def specsIn : List Text → List Text
  | _ :: spec :: rest => spec :: specsIn rest
  | _ => []

/-- Spellings are added if they are all new. -/
theorem addSpellings_eq_ok_iff {seen seen' ss : List Text} (hseen : seen.Nodup) :
    addSpellings seen ss = .ok seen' ↔ seen' = seen ++ ss ∧ (seen ++ ss).Nodup := by
  induction ss generalizing seen with
  | nil => simp [addSpellings, hseen, eq_comm]
  | cons s ss ih =>
      have hrest : seen ++ s :: ss = seen ++ [s] ++ ss := (List.append_assoc seen [s] ss).symm
      rw [addSpellings, hrest]
      by_cases hs : s ∈ seen
      · rw [if_pos (List.contains_iff_mem.mpr hs)]
        refine iff_of_false nofun ?_
        rintro ⟨-, hnodup⟩
        have hfirst := (List.nodup_append.mp hnodup).1
        exact (List.nodup_append.mp hfirst).2.2 s hs s (List.mem_singleton_self s) rfl
      · rw [if_neg (by simpa using hs)]
        refine ih (List.nodup_append.mpr ⟨hseen, List.pairwise_singleton _ _, ?_⟩)
        rintro t ht t' ht' rfl
        rw [List.mem_singleton.mp ht'] at ht
        exact hs ht

theorem spellings_eq_iff {a : Argument} {word : Text} :
    a.spellings = Text.splitOn (.char '|') word ↔
      a.spelling = (Text.splitOn (.char '|') word).headD [] ∧
        a.aliases = (Text.splitOn (.char '|') word).tail := by
  obtain ⟨first, more, hparts⟩ := List.exists_cons_of_ne_nil (Text.splitOn_ne_nil (.char '|') word)
  rw [hparts]
  exact List.cons_eq_cons

theorem ofWords_single_ne_ok (seen : List Text) (word : Text) (arguments : List Argument) :
    ofWords seen [word] ≠ .ok arguments := by
  unfold ofWords
  split
  · exact nofun
  · dsimp only
    split <;> exact nofun

/-- Two words are read together: the spellings have to be new, and the specification taken. -/
theorem ofWords_pair_eq_ok_iff {seen rest : List Text} {word spec : Text}
    {arguments : List Argument} (hseen : seen.Nodup) :
    ofWords seen (word :: spec :: rest) = .ok arguments ↔
      ∃ a others, arguments = a :: others ∧ Text.ofString "-" <+: word ∧
        a.spellings = Text.splitOn (.char '|') word ∧ Taken spec a ∧
        (seen ++ a.spellings).Nodup ∧ ofWords (seen ++ a.spellings) rest = .ok others := by
  constructor
  · intro hread
    unfold ofWords at hread
    split at hread
    · cases hread
    · next hdashed =>
      dsimp only at hread
      split at hread
      · cases hread
      · next seen' hadd =>
        obtain ⟨rfl, hnodup⟩ := (addSpellings_eq_ok_iff hseen).mp hadd
        split at hread
        · cases hread
        · next a hspec =>
          obtain ⟨hspelled, htaken⟩ := ofSpec_eq_ok_iff.mp hspec
          have hspellings := spellings_eq_iff.mpr hspelled
          rw [← hspellings] at hnodup hread
          cases hothers : ofWords (seen ++ a.spellings) rest with
          | error flaw =>
              rw [hothers] at hread
              cases hread
          | ok others =>
              rw [hothers] at hread
              cases hread
              exact ⟨a, others, rfl, Text.startsWith_iff.mp (by simpa using hdashed), hspellings,
                htaken, hnodup, hothers⟩
  · rintro ⟨a, others, rfl, hdashed, hspellings, htaken, hnodup, hothers⟩
    rw [hspellings] at hnodup hothers
    have hadd := (addSpellings_eq_ok_iff hseen).mpr ⟨rfl, hnodup⟩
    have hspec := ofSpec_eq_ok_iff.mpr ⟨spellings_eq_iff.mp hspellings, htaken⟩
    rw [ofWords, Text.startsWith_iff.mpr hdashed, Bool.not_true, if_neg Bool.false_ne_true]
    dsimp only
    rw [hadd]
    dsimp only
    rw [hspec]
    dsimp only
    rw [hothers]
    rfl

/-- **Words are read if they declare arguments by spellings that are all new**, each specification
standing for what it is taken for. -/
theorem ofWords_eq_ok_iff {seen words : List Text} {arguments : List Argument}
    (hseen : seen.Nodup) : ofWords seen words = .ok arguments ↔
      Declares Taken words arguments ∧ (seen ++ arguments.flatMap spellings).Nodup := by
  induction words using List.twoStepInduction generalizing seen arguments with
  | nil =>
      constructor
      · intro hread
        cases hread
        exact ⟨.nil, by simpa using hseen⟩
      · rintro ⟨hdeclares, -⟩
        cases hdeclares
        rfl
  | singleton word =>
      refine iff_of_false (ofWords_single_ne_ok seen word arguments) ?_
      rintro ⟨hdeclares, -⟩
      cases hdeclares
  | cons_cons word spec rest ih _ =>
      rw [ofWords_pair_eq_ok_iff hseen]
      constructor
      · rintro ⟨a, others, rfl, hdashed, hspellings, htaken, hnodup, hothers⟩
        obtain ⟨hdeclares, hall⟩ := (ih hnodup).mp hothers
        exact ⟨.cons hdashed hspellings htaken hdeclares,
          by rwa [List.flatMap_cons, ← List.append_assoc]⟩
      · rintro ⟨hdeclares, hall⟩
        cases hdeclares with
        | cons hdashed hspellings htaken hrest =>
            rw [List.flatMap_cons, ← List.append_assoc] at hall
            have hnodup := (List.nodup_append.mp hall).1
            exact ⟨_, _, rfl, hdashed, hspellings, htaken, hnodup, (ih hnodup).mpr ⟨hrest, hall⟩⟩

theorem ofSyntax_eq_ok_iff {t : Text} {arguments : List Argument} :
    ofSyntax t = .ok arguments ↔
      Declares Taken (Text.words t) arguments ∧ (arguments.flatMap spellings).Nodup :=
  ofWords_eq_ok_iff List.nodup_nil

/-- What is taken is written in the same words again unless a specification among them has
delimiters that share colons. -/
theorem Declares.toWords_eq_iff {words : List Text} {arguments : List Argument}
    (hdeclares : Declares Taken words arguments) :
    arguments.flatMap toWords = words ↔ ∀ spec ∈ specsIn words, ¬HasCrossed spec := by
  induction hdeclares with
  | nil => simp [specsIn]
  | @cons word spec rest a arguments _ hspellings htaken _ ih =>
      have hword : Text.join "|" a.spellings = word := by
        rw [hspellings]
        exact Text.join_splitOn (.char '|') word
      rw [List.flatMap_cons, toWords, hword, specsIn, List.forall_mem_cons, ← ih,
        ← htaken.spec_eq_iff]
      simp

/-! ### Delimiters that are taken off -/

/-- **Taking delimiters off undoes putting them on, unless they cross.**  A text gives what stands
between its delimiters and is refused if it has none.  The exception is a text that is too short for
both, but where they share what is missing: it gives nothing and is not refused.  That can happen
only to delimiters that share something, and never where no closing one is asked for.  Of the value
specifications there are three whose colons cross.  A syntax text takes them like any other, and its
words come back from what it declares if and only if none of them is among them. -/
theorem strip_exact_unless_crossed (start finish x spec t : Text) (arguments : List Argument) :
    ((∀ m, Delimited.strip start finish x = .ok m ↔ x = start ++ m ++ finish) ↔
      ¬Delimited.Crossed start finish x) ∧
    (∀ m, Delimited.strip start finish x = .ok m ↔
      x = start ++ m ++ finish ∨ m = [] ∧ Delimited.Crossed start finish x) ∧
    ((∃ flaw, Delimited.strip start finish x = .error flaw) ↔
      (∀ m, x ≠ start ++ m ++ finish) ∧ ¬Delimited.Crossed start finish x) ∧
    (∀ m, Delimited.strip start [] x = .ok m ↔ x = start ++ m) ∧
    ((∃ y, Delimited.Crossed start finish y) ↔
      ∃ shared, shared ≠ [] ∧ shared <:+ start ∧ shared <+: finish) ∧
    (HasCrossed spec ↔ spec = ":" ∨ spec = "::" ∨ spec = ":::") ∧
    (ofSyntax t = .ok arguments ↔
      Declares Taken (Text.words t) arguments ∧ (arguments.flatMap spellings).Nodup) ∧
    (ofSyntax t = .ok arguments →
      (arguments.flatMap toWords = Text.words t ↔
        ∀ spec ∈ specsIn (Text.words t), ¬HasCrossed spec)) := by
  have hopen : ∀ m, Delimited.strip start [] x = .ok m ↔ x = start ++ m := by
    intro m
    have hexact : ∀ m, Delimited.strip start [] x = .ok m ↔ x = start ++ m ++ [] :=
      Delimited.strip_exact_iff.mpr Delimited.not_crossed_nil
    rw [hexact m, List.append_nil]
  have hwords : ofSyntax t = .ok arguments →
      (arguments.flatMap toWords = Text.words t ↔
        ∀ spec ∈ specsIn (Text.words t), ¬HasCrossed spec) := by
    intro hread
    obtain ⟨hdeclares, -⟩ := ofSyntax_eq_ok_iff.mp hread
    exact hdeclares.toWords_eq_iff
  exact ⟨Delimited.strip_exact_iff, fun m => Delimited.strip_eq_ok_iff,
    Delimited.exists_strip_error_iff, hopen, Delimited.exists_crossed_iff, hasCrossed_iff,
    ofSyntax_eq_ok_iff, hwords⟩

/-- Value specifications that are nothing but colons, from one to five. -/
def colonSyntax : Text := "-a : -b :: -c ::: -d :::: -e :::::"

/-- What they are taken for: the first three have no room for their delimiters. -/
def colonArguments : List Argument :=
  [⟨"-a", [], [], none, false, false, false⟩, ⟨"-b", [], [], none, true, false, false⟩,
   ⟨"-c", [], [], none, true, false, false⟩, ⟨"-d", [], [], none, true, false, false⟩,
   ⟨"-e", [], ":", none, true, false, false⟩]

/-- All of them are read, and other words are written. -/
theorem strip_exact_unless_crossed_colons :
    Delimited.Crossed ":" ":" ":" ∧ HasCrossed ":" ∧ ofSyntax colonSyntax = .ok colonArguments ∧
      colonArguments.flatMap toWords ≠ Text.words colonSyntax := by
  obtain ⟨hexact, -, -, -, -, hcolons, -, hwords⟩ :=
    strip_exact_unless_crossed ":" ":" ":" ":" colonSyntax colonArguments
  have hread : ofSyntax colonSyntax = .ok colonArguments := by decide +kernel
  have hcrossed : HasCrossed ":" := hcolons.mpr (.inl rfl)
  refine ⟨not_not.mp fun hapart => ?_, hcrossed, hread, fun hsame => ?_⟩
  · exact absurd ((hexact.mpr hapart []).mp rfl) (by decide)
  · exact (hwords hread).mp hsame ":" (by decide +kernel) hcrossed

/-- A single colon passes for two, alone and as a value specification. -/
theorem strip_takes_lone_colon :
    Delimited.strip ":" ":" ":" = .ok [] ∧ (∀ m : Text, Text.ofString ":" ≠ ":" ++ m ++ ":") ∧
      ofSyntax "--name :" = .ok [⟨"--name", [], [], none, false, false, false⟩] := by
  refine ⟨rfl, fun m hm => ?_, by decide +kernel⟩
  have hlength := congrArg List.length hm
  simp [Text.ofString] at hlength

end OtpRegistrar.Argument
