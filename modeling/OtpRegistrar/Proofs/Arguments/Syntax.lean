/-
The syntax text that declares arguments, written and read back.

An argument is written as two words, its spellings and its value specification.  Each
step that takes the specification apart asks how a text begins, and a flag may end in
anything that a step asks for.  So what has to be shown is that what is written cannot
be taken for a mark that is not there: a name is not empty, holds neither colon nor
equals sign and does not begin with an exclamation mark, and that is enough (`Writable`).

The spellings are another matter.  They are looked at one after the other, whatever
else is wrong with the text behind them, and one that has been seen before ends the
reading.
-/
import OtpRegistrar.Proofs.Arguments.Declaration

namespace OtpRegistrar.Argument

/-! ### One argument -/

/-- The argument can be written in a syntax text as it is. -/
structure Writable (a : Argument) : Prop where
  spelt : ∀ s ∈ a.spellings, Text.IsWord s ∧ Symbol.char '|' ∉ s
  dashed : a.spelling.startsWith "-" = true
  named : Text.IsWord a.variableName
  undelimited : Symbol.char ':' ∉ a.variableName ∧ Symbol.char '=' ∉ a.variableName
  unmarked : a.variableName.head? ≠ some (.char '!')
  flagged : ∀ t ∈ a.flag, ∀ s ∈ t, s.isBlank = false

instance : DecidablePred Writable := fun a =>
  decidable_of_iff
    ((∀ s ∈ a.spellings, Text.IsWord s ∧ Symbol.char '|' ∉ s) ∧ a.spelling.startsWith "-" = true ∧
      Text.IsWord a.variableName ∧
      (Symbol.char ':' ∉ a.variableName ∧ Symbol.char '=' ∉ a.variableName) ∧
      a.variableName.head? ≠ some (.char '!') ∧ ∀ t ∈ a.flag, ∀ s ∈ t, s.isBlank = false)
    ⟨fun ⟨hspelt, hdashed, hnamed, hundelimited, hunmarked, hflagged⟩ =>
      ⟨hspelt, hdashed, hnamed, hundelimited, hunmarked, hflagged⟩,
     fun ha => ⟨ha.spelt, ha.dashed, ha.named, ha.undelimited, ha.unmarked, ha.flagged⟩⟩

section Writable

variable {a : Argument} (ha : a.Writable)

include ha

theorem Writable.not_path : ¬Text.ofString "file:" <+: a.variableName ++ a.flagText := by
  rintro ⟨more, hmore⟩
  obtain ⟨hcolon, -⟩ := ha.undelimited
  rcases List.append_eq_append_iff.mp hmore with ⟨rest, hname, -⟩ | ⟨rest, hmark, hflag⟩
  · rw [hname] at hcolon
    exact hcolon (List.mem_append_left _ (by decide))
  · -- the mark ends inside of the flag, which begins with an equals sign
    cases rest with
    | nil =>
        rw [List.append_nil] at hmark
        rw [← hmark] at hcolon
        exact hcolon (by decide)
    | cons s rest =>
        have hs : s ∈ Text.ofString "file:" := by
          rw [hmark]
          exact List.mem_append_right _ List.mem_cons_self
        unfold flagText at hflag
        cases hvalue : a.flag with
        | none =>
            rw [hvalue] at hflag
            cases hflag
        | some t =>
            rw [hvalue] at hflag
            obtain ⟨rfl, -⟩ := List.cons.inj hflag
            exact absurd hs (by decide)

/-- What stands between the delimiters does not begin with one, and begins with the mark of a
sensitive value only if that is there. -/
theorem Writable.begins : ∃ s rest, a.body = s :: rest ∧ s ≠ .char ':' ∧
    (a.sensitive = false → s ≠ .char '!') := by
  obtain ⟨s, name, hname⟩ := List.exists_cons_of_ne_nil ha.named.1
  have hcolon : s ≠ .char ':' := by
    rintro rfl
    exact ha.undelimited.1 (by simp [hname])
  have hmark : s ≠ .char '!' := by
    rintro rfl
    exact ha.unmarked (by simp [hname])
  unfold body
  cases a.sensitive with
  | true => exact ⟨.char '!', _, rfl, by decide, by simp⟩
  | false =>
      cases a.isFile with
      | true => exact ⟨.char 'f', _, rfl, by decide, fun _ => by decide⟩
      | false =>
          rw [hname]
          exact ⟨s, _, rfl, hcolon, fun _ => hmark⟩

/-- There is something between the delimiters that is no colon, so that they are apart. -/
theorem Writable.apart : ¬HasCrossed a.spec := by
  rintro ⟨required, hcrossed⟩
  obtain ⟨s, rest, hbegins, hcolon, -⟩ := ha.begins
  have hs : s ∈ a.spec := by
    rw [spec_eq, hbegins]
    simp
  rw [colons_of_crossed hcrossed] at hs
  exact hcolon (List.eq_of_mem_replicate hs)

theorem Writable.specifies : Specifies a.spec a where
  written := rfl
  outermost hrequired m hdouble := by
    obtain ⟨s, rest, hbegins, hcolon, -⟩ := ha.begins
    rw [spec_eq, hbegins, hrequired] at hdouble
    -- behind a single delimiter there would be another colon
    exact hcolon (List.cons.inj (List.cons.inj hdouble).2).1
  clear :=
    { unmarked := fun hsensitive => by
        obtain ⟨s, rest, hbegins, -, hmark⟩ := ha.begins
        unfold body at hbegins
        rw [hsensitive] at hbegins
        rintro ⟨more, hmore⟩
        exact hmark hsensitive (List.cons.inj (hmore.trans hbegins)).1.symm
      pathless := fun _ => ha.not_path
      uncut := ha.undelimited.2 }

/-- **A value specification is read as it was written.** -/
theorem Writable.ofSpec_spec : ofSpec a.spelling a.aliases a.spec = .ok a :=
  ofSpec_eq_ok_iff.mpr ⟨⟨rfl, rfl⟩, .said ha.specifies ha.apart⟩

end Writable

/-! ### A whole syntax text -/

theorem Writable.spellings_word {a : Argument} (ha : a.Writable) :
    Text.IsWord (Text.join "|" a.spellings) ∧
      (Text.join "|" a.spellings).startsWith "-" = true ∧
      Text.splitOn (.char '|') (Text.join "|" a.spellings) = a.spellings := by
  obtain ⟨more, hdashed⟩ := Text.startsWith_iff.mp ha.dashed
  have hjoin : ∃ more', Text.join "|" a.spellings = .char '-' :: more' := by
    unfold spellings
    rw [← hdashed]
    cases a.aliases with
    | nil => exact ⟨_, rfl⟩
    | cons second others => exact ⟨_, rfl⟩
  obtain ⟨more', hjoin⟩ := hjoin
  refine ⟨⟨by simp [hjoin], ?_⟩, ?_, ?_⟩
  · intro s hs
    rcases Text.mem_join hs with hs | ⟨part, hpart, hs⟩
    · rw [List.mem_singleton.mp hs]
      decide
    · exact (ha.spelt part hpart).1.2 s hs
  · rw [hjoin]
    exact Text.startsWith_iff.mpr (List.prefix_append "-" more')
  · exact Text.splitOn_join (fun part hpart => (ha.spelt part hpart).2) (List.cons_ne_nil _ _)

theorem Writable.isWord_spec {a : Argument} (ha : a.Writable) : Text.IsWord a.spec := by
  have hdelimiter : ∀ s ∈ delimiter a.required, s.isBlank = false := by
    cases a.required <;> decide
  have hmark : ∀ s ∈ markText a.sensitive "!", s.isBlank = false := by
    cases a.sensitive <;> decide
  have hfile : ∀ s ∈ markText a.isFile "file:", s.isBlank = false := by
    cases a.isFile <;> decide
  have hflag : ∀ s ∈ a.flagText, s.isBlank = false := by
    unfold flagText
    cases hvalue : a.flag with
    | none => exact fun s hs => absurd hs List.not_mem_nil
    | some t => exact List.forall_mem_append.mpr ⟨by decide, ha.flagged t hvalue⟩
  rw [spec_eq]
  constructor
  · cases a.required <;> exact List.cons_ne_nil _ _
  · unfold body
    simp only [List.forall_mem_append]
    exact ⟨⟨hdelimiter, hmark, hfile, ha.named.2, hflag⟩, hdelimiter⟩

theorem addSpellings_append (seen ss ts : List Text) :
    addSpellings seen (ss ++ ts) = addSpellings seen ss >>= (addSpellings · ts) := by
  fun_induction addSpellings seen ss with
  | case1 seen => rfl
  | case2 seen s rest hseen =>
      rw [List.cons_append, addSpellings, if_pos hseen]
      rfl
  | case3 seen s rest hseen ih =>
      rw [List.cons_append, addSpellings, if_neg hseen, ih]

theorem addSpellings_of_nodup {seen ss : List Text} (hnodup : (seen ++ ss).Nodup) :
    addSpellings seen ss = .ok (seen ++ ss) :=
  (addSpellings_eq_ok_iff (List.nodup_append.mp hnodup).1).mpr ⟨rfl, hnodup⟩

/-- The first spelling that stands among those before it ends the reading. -/
theorem addSpellings_of_mem {before : List Text} (hnodup : before.Nodup) {s : Text}
    (hs : s ∈ before) (behind : List Text) :
    addSpellings [] (before ++ s :: behind) = .error (.duplicate s) := by
  have hbefore : addSpellings [] before = .ok before := addSpellings_of_nodup hnodup
  rw [addSpellings_append, hbefore]
  show addSpellings before (s :: behind) = .error (.duplicate s)
  rw [addSpellings, if_pos (List.contains_iff_mem.mpr hs)]

/-- **The words of writable arguments are read back**, unless a spelling has been seen. -/
theorem ofWords_toWords {arguments : List Argument} (hwritable : ∀ a ∈ arguments, a.Writable)
    (seen : List Text) : ofWords seen (arguments.flatMap toWords) =
      (addSpellings seen (arguments.flatMap spellings)).map fun _ => arguments := by
  induction arguments generalizing seen with
  | nil => rfl
  | cons a arguments ih =>
      obtain ⟨ha, hrest⟩ := List.forall_mem_cons.mp hwritable
      obtain ⟨-, hdashed, hsplit⟩ := ha.spellings_word
      rw [List.flatMap_cons, List.flatMap_cons, addSpellings_append]
      show ofWords seen (Text.join "|" a.spellings :: a.spec :: arguments.flatMap toWords) = _
      rw [ofWords, hdashed, Bool.not_true, if_neg Bool.false_ne_true]
      dsimp only
      rw [hsplit]
      cases hadd : addSpellings seen a.spellings with
      | error flaw => rfl
      | ok seen' =>
          have hspec : ofSpec (a.spellings.headD []) a.spellings.tail a.spec = .ok a :=
            ha.ofSpec_spec
          dsimp only
          rw [hspec]
          dsimp only
          rw [ih hrest]
          show _ = (addSpellings seen' (arguments.flatMap spellings)).map fun _ => a :: arguments
          cases addSpellings seen' (arguments.flatMap spellings) <;> rfl

theorem words_toSyntax {arguments : List Argument} (hwritable : ∀ a ∈ arguments, a.Writable) :
    Text.words (toSyntax arguments) = arguments.flatMap toWords := by
  refine Text.words_join fun w hw => ?_
  obtain ⟨a, ha, hw⟩ := List.mem_flatMap.mp hw
  have hkinds : w = Text.join "|" a.spellings ∨ w = a.spec := by
    simpa [toWords] using hw
  rcases hkinds with rfl | rfl
  · exact (hwritable a ha).spellings_word.1
  · exact (hwritable a ha).isWord_spec

/-- The spellings that stand in the words of a syntax text: every other word is cut at the bars. -/
def spelledIn : List Text → List Text
  | [] => []
  | [word] => Text.splitOn (.char '|') word
  | word :: _ :: rest => Text.splitOn (.char '|') word ++ spelledIn rest

theorem Declares.spellings_eq {stands : Text → Argument → Prop} {words : List Text}
    {arguments : List Argument} (hdeclares : Declares stands words arguments) :
    arguments.flatMap spellings = spelledIn words := by
  induction hdeclares with
  | nil => rfl
  | cons _ hspelled _ _ ih => rw [List.flatMap_cons, hspelled, ih, spelledIn]

/-- **A syntax text that is written is read back, and no text may repeat a spelling.**  Writable
arguments that share no spelling are what their text declares, in their order and with the values
that their flags stand for.  If they share one, the first spelling that stands twice is found.  And
whatever the text, it declares nothing if its words repeat a spelling. -/
theorem ofSyntax_toSyntax {arguments : List Argument}
    (hwritable : ∀ a ∈ arguments, a.Writable) :
    ((arguments.flatMap spellings).Nodup →
      ofSyntax (toSyntax arguments) = .ok arguments ∧
      ∀ a ∈ arguments, ∀ t, a.flag = some t → a.flagValue = Value.ofScalar t) ∧
    (∀ before s behind, arguments.flatMap spellings = before ++ s :: behind →
      before.Nodup → s ∈ before →
      ofSyntax (toSyntax arguments) = .error (.duplicate s)) ∧
    ∀ t, ¬(spelledIn (Text.words t)).Nodup → ∃ flaw, ofSyntax t = .error flaw := by
  have hread : ofSyntax (toSyntax arguments) =
      (addSpellings [] (arguments.flatMap spellings)).map fun _ => arguments := by
    rw [ofSyntax, words_toSyntax hwritable, ofWords_toWords hwritable]
  refine ⟨fun hnodup => ⟨?_, ?_⟩, fun before s behind hspellings hnodup hs => ?_,
    fun t hrepeats => ?_⟩
  · have hadded : addSpellings [] (arguments.flatMap spellings) =
        .ok (arguments.flatMap spellings) := addSpellings_of_nodup hnodup
    rw [hread, hadded]
    rfl
  · intro a _ t hflag
    unfold flagValue
    rw [hflag]
  · rw [hread, hspellings, addSpellings_of_mem hnodup hs]
    rfl
  · cases hdeclared : ofSyntax t with
    | error flaw => exact ⟨flaw, rfl⟩
    | ok declared =>
        obtain ⟨hdeclares, hspelled⟩ := ofSyntax_eq_ok_iff.mp hdeclared
        rw [hdeclares.spellings_eq] at hspelled
        exact absurd hspelled hrepeats

/-- Arguments whose texts are full of what could be taken for a mark. -/
def trickyArguments : List Argument :=
  [⟨"-x", ["--", ":!="], "file", some "!file:=:", true, true, true⟩,
   ⟨"-", [], "a!", some ":", false, false, false⟩,
   ⟨"-f", ["f:"], "f", some [], false, true, false⟩]

/-- They are read back from the text that declares them, and not if it is written twice. -/
theorem ofSyntax_tricky :
    toSyntax trickyArguments =
      Text.ofString "-x|--|:!= ::!file:file=!file:=::: - :a!=:: -f|f: :!f=:" ∧
    ofSyntax (toSyntax trickyArguments) = .ok trickyArguments ∧
    ofSyntax (toSyntax (trickyArguments ++ trickyArguments)) = .error (.duplicate "-x") ∧
    ∃ flaw, ofSyntax "-f|f: : --|f:" = .error flaw := by
  have hwritable : ∀ a ∈ trickyArguments, a.Writable := by decide
  have htwice : ∀ a ∈ trickyArguments ++ trickyArguments, a.Writable :=
    List.forall_mem_append.mpr ⟨hwritable, hwritable⟩
  refine ⟨by decide, ((ofSyntax_toSyntax hwritable).1 (by decide)).1,
    (ofSyntax_toSyntax htwice).2.1 (trickyArguments.flatMap spellings) "-x"
      (["--", ":!="] ++ ["-", "-f", "f:"]) (by decide) (by decide) (by decide),
    (ofSyntax_toSyntax hwritable).2.2 _ (by decide)⟩

end OtpRegistrar.Argument
