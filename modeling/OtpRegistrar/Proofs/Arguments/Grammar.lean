/-
The lines that can be read, and no others.

A line that has been read consists of segments.  Here is the way back: segments that
stand one behind the other are read, each binding its variable, unless a variable is
said twice, a required one is missing, or a path names the home of a user whose name
holds a NUL.  So what can be read is told without the reader: by a grammar, and by
what the segments have to be together.

Everything comes from one step, `scan_tokens_append`: the reader takes the segment at
the front of a line whole, whatever stands behind it.  That is why the order of the
segments makes no difference, nor does it whether a value is joined to its option or
stands behind it.
-/
import OtpRegistrar.Arguments.Constraint
import OtpRegistrar.Proofs.Arguments.Segment
import Mathlib.Data.List.Nodup

namespace OtpRegistrar

namespace Bindings

variable {b b' : Bindings} {name : Text}

theorem has_iff : b.has name = true ↔ name ∈ b.map (·.1) := by simp [has]

/-- A variable that is bound once has the value that it is bound to. -/
theorem get?_eq_some_iff (honce : (b.map (·.1)).Nodup) {value : Value} :
    b.get? name = some value ↔ (name, value) ∈ b := by
  induction b with
  | nil => simp [get?]
  | cons entry rest ih =>
      obtain ⟨other, value'⟩ := entry
      simp only [List.map_cons, List.nodup_cons] at honce
      obtain ⟨hother, honce⟩ := honce
      unfold get? at ih ⊢
      by_cases hname : other = name
      · have hrest : (name, value) ∉ rest := by
          intro hmem
          rw [hname] at hother
          exact hother (List.mem_map.mpr ⟨_, hmem, rfl⟩)
        simp [hname, hrest, eq_comm]
      · simp [hname, Ne.symm hname, ih honce]

/-- The values of variables do not depend on the order in which they were bound. -/
theorem get?_perm (hperm : b.Perm b') (honce : (b.map (·.1)).Nodup) (name : Text) :
    b.get? name = b'.get? name := by
  have honce' : (b'.map (·.1)).Nodup := (hperm.map _).nodup_iff.mp honce
  ext value
  rw [get?_eq_some_iff honce, get?_eq_some_iff honce', hperm.mem_iff]

end Bindings

namespace CommandLine

variable {homes : Homes} {arguments : List Argument} {bound : Bindings} {line line' : List Text}
  {pieces pieces' : List (Piece arguments)}

/-! ### Reading a segment -/

/-- The argument can take what is given with it. -/
def Piece.taken (p : Piece arguments) : Bool :=
  match p.segment.value? with
  | some t => !cannotTake p.argument t
  | none => true

theorem Piece.front_dashed (p : Piece arguments) : p.segment.front.startsWith "-" = true := by
  obtain ⟨seg, a, fits⟩ := p
  have hdashed := fits.dashed
  cases seg with
  | alone option => exact hdashed
  | apart option value => exact hdashed
  | joined option value =>
      cases option with
      | nil => cases hdashed
      | cons s option => exact hdashed

/-- **The segment at the front of a line is read whole**, whatever stands behind it. -/
theorem scan_tokens_append (p : Piece arguments) (hfresh : bound.has p.name = false)
    (rest : List Text) :
    scan homes arguments bound (p.segment.tokens ++ rest) =
      if p.taken then scan homes arguments (bound ++ [p.binding homes]) rest
      else (bound, .error .nulInPath) := by
  have hspecial := p.front_not_special
  have hdashed := p.front_dashed
  have hplain := p.fits.plain
  have hfound := p.fits.found
  have hvalued := p.fits.valued
  obtain ⟨seg, a, fits⟩ := p
  dsimp only [Piece.name] at *
  simp only [Segment.special, List.mem_cons, List.not_mem_nil, or_false, not_or] at hspecial
  obtain ⟨hh, hhelp, hseparator⟩ := hspecial
  cases seg with
  | alone option =>
      have hsplit := Text.splitFirst?_of_not_mem hplain
      have hflag : a.flag.isSome = true := hvalued.symm
      show scan homes arguments bound (option :: rest) =
        scan homes arguments (bound ++ [(a.variableName, a.flagValue)]) rest
      dsimp only [Segment.option, Segment.front] at *
      rw [scan.eq_def]
      simp [hh, hhelp, hseparator, hdashed, hsplit, hfound, hfresh, hflag]
  | joined option value =>
      have hsplit := Text.splitFirst?_append hplain value
      have hflag : a.flag.isSome = false := hvalued.symm
      show scan homes arguments bound ((option ++ .char '=' :: value) :: rest) =
        if !cannotTake a value then
          scan homes arguments (bound ++ [(a.variableName, valueFor homes a value)]) rest
        else (bound, .error .nulInPath)
      dsimp only [Segment.option, Segment.front] at *
      rw [scan.eq_def]
      by_cases htake : cannotTake a value = true <;>
        simp [hh, hhelp, hseparator, hdashed, hsplit, hfound, hfresh, hflag, htake]
  | apart option value =>
      have hsplit := Text.splitFirst?_of_not_mem hplain
      have hflag : a.flag.isSome = false := hvalued.symm
      show scan homes arguments bound (option :: value :: rest) =
        if !cannotTake a value then
          scan homes arguments (bound ++ [(a.variableName, valueFor homes a value)]) rest
        else (bound, .error .nulInPath)
      dsimp only [Segment.option, Segment.front] at *
      rw [scan.eq_def]
      by_cases htake : cannotTake a value = true <;>
        simp [hh, hhelp, hseparator, hdashed, hsplit, hfound, hfresh, hflag, htake]

/-! ### Reading a line of segments -/

theorem finish_eq_ok_iff :
    finish arguments bound = .ok () ↔
      ∀ a ∈ arguments, a.required = true → bound.has a.variableName = true := by
  have hmissing : missing arguments bound = [] ↔
      ∀ a ∈ arguments, a.required = true → bound.has a.variableName = true := by
    simp [missing, List.filter_eq_nil_iff]
  rw [← hmissing]
  unfold finish
  split
  · rename_i hnone
    simp [hnone]
  · rename_i hsome
    simp [show missing arguments bound ≠ [] from hsome]

/-- A separator that nothing stands behind ends a line like nothing at all. -/
theorem scan_ending {ending : List Text} (hending : ending = [] ∨ ending = [Text.ofString "--"]) :
    scan homes arguments bound ending = (bound, finish arguments bound) := by
  rcases hending with rfl | rfl
  · rfl
  · rw [scan.eq_def]
    rfl

/-- **Segments are read one after the other**, up to the first that cannot be taken. -/
theorem scan_pieces {ending : List Text}
    (hending : ending = [] ∨ ending = [Text.ofString "--"])
    (honce : (bound.map (·.1) ++ pieces.map Piece.name).Nodup) :
    scan homes arguments bound (Piece.tokens pieces ++ ending) =
      if pieces.all Piece.taken then
        (bound ++ pieces.map (Piece.binding homes),
          finish arguments (bound ++ pieces.map (Piece.binding homes)))
      else
        (bound ++ (pieces.takeWhile Piece.taken).map (Piece.binding homes), .error .nulInPath) := by
  induction pieces generalizing bound with
  | nil => simpa [Piece.tokens] using scan_ending hending
  | cons p ps ih =>
      have hfresh : bound.has p.name = false := by
        rw [← Bool.not_eq_true, Bindings.has_iff]
        intro hmem
        exact (List.nodup_append.mp honce).2.2 _ hmem p.name (by simp) rfl
      have honce' : ((bound ++ [p.binding homes]).map (·.1) ++ ps.map Piece.name).Nodup := by
        simpa [Piece.binding] using honce
      rw [Piece.tokens_cons, List.append_assoc, scan_tokens_append p hfresh, ih honce']
      by_cases htaken : p.taken = true <;> simp [htaken]

/-- The line is the pieces one behind the other, and a separator at most. -/
def Piece.Spell (pieces : List (Piece arguments)) (line : List Text) : Prop :=
  line = tokens pieces ∨ line = tokens pieces ++ [Text.ofString "--"]

/-- What makes a line of segments one that can be read: no variable is said twice, and none that is
required is missing. -/
structure Grammatical (line : List Text) (pieces : List (Piece arguments)) : Prop where
  spelled : Piece.Spell pieces line
  once : (pieces.map Piece.name).Nodup
  complete : ∀ a ∈ arguments, a.required = true → a.variableName ∈ pieces.map Piece.name

theorem map_fst_binding (pieces : List (Piece arguments)) :
    (pieces.map (Piece.binding homes)).map (·.1) = pieces.map Piece.name := by
  simp [Piece.binding, Function.comp_def]

/-- A grammatical line is read, unless there is something in it that cannot be taken. -/
theorem read_of_grammatical (hline : Grammatical line pieces) :
    read homes arguments line =
      if pieces.all Piece.taken then (pieces.map (Piece.binding homes), .ok ())
      else ((pieces.takeWhile Piece.taken).map (Piece.binding homes), .error .nulInPath) := by
  have hfinish : finish arguments (pieces.map (Piece.binding homes)) = .ok () := by
    rw [finish_eq_ok_iff]
    intro a ha hrequired
    rw [Bindings.has_iff, map_fst_binding]
    exact hline.complete a ha hrequired
  have honce : (([] : Bindings).map (·.1) ++ pieces.map Piece.name).Nodup := by
    simpa using hline.once
  have hread : ∀ ending, ending = [] ∨ ending = [Text.ofString "--"] →
      read homes arguments (Piece.tokens pieces ++ ending) = _ :=
    fun ending hending => scan_pieces hending honce
  simp only [List.nil_append, hfinish] at hread
  rcases hline.spelled with rfl | rfl
  · simpa using hread [] (.inl rfl)
  · exact hread _ (.inr rfl)

/-- A line that is read is grammatical, and everything in it can be taken. -/
theorem grammatical_of_read (hread : (read homes arguments line).2 = .ok ()) :
    ∃ pieces : List (Piece arguments), Grammatical line pieces ∧ pieces.all Piece.taken = true := by
  obtain ⟨pieces, hconsists⟩ := consists_of_read (Prod.ext rfl hread)
  have hbound := hconsists.bound_eq
  have honce : (pieces.map Piece.name).Nodup := by
    have := hconsists.once List.nodup_nil
    rwa [hbound, map_fst_binding] at this
  have honce' : (([] : Bindings).map (·.1) ++ pieces.map Piece.name).Nodup := by simpa using honce
  obtain ⟨ending, hending, hline⟩ := hconsists.ends
  have hscan : read homes arguments (Piece.tokens pieces ++ ending) = _ :=
    scan_pieces hending honce'
  rw [← hline] at hscan
  rw [hscan] at hread
  by_cases htaken : pieces.all Piece.taken = true
  · rw [if_pos htaken, List.nil_append] at hread
    refine ⟨pieces, ⟨hconsists.line, honce, fun a ha hrequired => ?_⟩, htaken⟩
    have := finish_eq_ok_iff.mp hread a ha hrequired
    rwa [Bindings.has_iff, map_fst_binding] at this
  · rw [if_neg htaken] at hread
    cases hread

/-! ### Saying the same in another way -/

/-- The same value stands joined to its option in one segment, and behind it in the other. -/
inductive Segment.Respells : Segment → Segment → Prop
  | split {option value : Text} (hordinary : option ∉ special) :
      Respells (joined option value) (apart option value)
  | join {option value : Text} : Respells (apart option value) (joined option value)

/-- A segment that says the same stands for the same argument, and binds it to the same value. -/
theorem Piece.respelled {p : Piece arguments} {seg : Segment} (homes : Homes)
    (hseg : p.segment.Respells seg) :
    ∃ p' : Piece arguments, p'.segment = seg ∧ p'.name = p.name ∧ p'.taken = p.taken ∧
      p'.binding homes = p.binding homes := by
  obtain ⟨seg', a, fits⟩ := p
  cases hseg with
  | @split option value hordinary =>
      let p' : Piece arguments := ⟨.apart option value, a, fits.found, fits.dashed, fits.plain,
        fun _ => hordinary, fits.valued⟩
      exact ⟨p', rfl, rfl, rfl, rfl⟩
  | @join option value =>
      let p' : Piece arguments := ⟨.joined option value, a, fits.found, fits.dashed, fits.plain,
        (fun h => nomatch h), fits.valued⟩
      exact ⟨p', rfl, rfl, rfl, rfl⟩

/-- What makes a line grammatical besides its spelling is what its pieces are called, in whatever
order. -/
theorem Grammatical.of_perm_names (hline : Grammatical line pieces)
    (hnames : (pieces'.map Piece.name).Perm (pieces.map Piece.name))
    (hspelled : Piece.Spell pieces' line') : Grammatical line' pieces' where
  spelled := hspelled
  once := hnames.nodup_iff.mpr hline.once
  complete a ha hrequired := hnames.mem_iff.mpr (hline.complete a ha hrequired)

theorem Grammatical.perm (hline : Grammatical line pieces) (hperm : pieces'.Perm pieces)
    (hspelled : Piece.Spell pieces' line') : Grammatical line' pieces' :=
  hline.of_perm_names (hperm.map Piece.name) hspelled

theorem Grammatical.of_names (hline : Grammatical line pieces)
    (hnames : pieces'.map Piece.name = pieces.map Piece.name)
    (hspelled : Piece.Spell pieces' line') : Grammatical line' pieces' :=
  hline.of_perm_names (List.Perm.of_eq hnames) hspelled

theorem parse_of_grammatical (p : Parser) {pieces : List (Piece p.arguments)}
    (hline : Grammatical line pieces) (htaken : pieces.all Piece.taken = true) :
    p.parse homes line = ({ p with bound := pieces.map (Piece.binding homes) }, .ok ()) := by
  unfold Parser.parse
  rw [read_of_grammatical hline, if_pos htaken]

/-- **A command line is read if and only if it consists of segments that fit**, binds what they
bind, and says the same in any order of them and with any value joined to its option or behind it.
It makes no difference what the lines before have bound. -/
theorem parse_iff_grammatical (p : Parser) (homes : Homes) (line : List Text) :
    ((p.parse homes line).2 = .ok () ↔
      ∃ pieces : List (Piece p.arguments),
        Grammatical line pieces ∧ pieces.all Piece.taken = true) ∧
    ∀ pieces : List (Piece p.arguments),
      Grammatical line pieces → pieces.all Piece.taken = true →
        (p.parse homes line).1.bound = pieces.map (Piece.binding homes) ∧
        (∀ pieces' : List (Piece p.arguments), pieces'.Perm pieces →
          ∀ line', Piece.Spell pieces' line' →
            (p.parse homes line').2 = .ok () ∧
            (p.parse homes line').1.bound.Perm (p.parse homes line).1.bound ∧
            ∀ name, (p.parse homes line').1.bound.get? name =
              (p.parse homes line).1.bound.get? name) ∧
        ∀ before piece behind seg, pieces = before ++ piece :: behind →
          piece.segment.Respells seg →
            ∀ line', line' = Piece.tokens before ++ seg.tokens ++ Piece.tokens behind ∨
                line' = Piece.tokens before ++ seg.tokens ++ Piece.tokens behind ++
                  [Text.ofString "--"] →
              (p.parse homes line').2 = .ok () ∧
              (p.parse homes line').1.bound = (p.parse homes line).1.bound := by
  refine ⟨⟨fun hread => grammatical_of_read hread, ?_⟩, fun pieces hline htaken => ?_⟩
  · rintro ⟨pieces, hline, htaken⟩
    rw [parse_of_grammatical p hline htaken]
  have hparse : p.parse homes line = _ := parse_of_grammatical p hline htaken
  rw [hparse]
  refine ⟨rfl, fun pieces' hperm line' hspelled => ?_, ?_⟩
  · have htaken' : pieces'.all Piece.taken = true := by rw [hperm.all_eq, htaken]
    rw [parse_of_grammatical p (hline.perm hperm hspelled) htaken']
    have hbound := hperm.map (Piece.binding homes)
    refine ⟨rfl, hbound, fun name => Bindings.get?_perm hbound ?_ name⟩
    rw [map_fst_binding]
    exact (hline.perm hperm hspelled).once
  · rintro before piece behind seg rfl hseg line' hspelled
    obtain ⟨piece', rfl, hname, htake, hbinding⟩ := Piece.respelled homes hseg
    have hline' : Grammatical line' (before ++ piece' :: behind) := by
      refine hline.of_names (by simp [hname]) ?_
      simpa [Piece.Spell, Piece.tokens] using hspelled
    rw [parse_of_grammatical p hline' (by simpa [htake] using htaken)]
    exact ⟨rfl, by simp [hbinding]⟩

/-- A path, which may begin with the name of a user. -/
def pathSyntax : Text := "--path|-p :file:path:"

def pathArguments : List Argument := [⟨"--path", ["-p"], "path", none, false, false, true⟩]

example : ((Parser.parse ⟨pathArguments, [], []⟩ (fun _ => some "/root/")
    ["--path", "~root/pw"]).1.bound.get? "path").bind Value.text? = some "/root/pw" := by
  decide +kernel

/-- A line with a path in the home of a user whose name holds a NUL. -/
def nulLine : List Text := ["--path", "~a\x00b"]

/-- A line that consists of segments that fit is not read if such a user is to be looked up. -/
theorem parse_refuses_nul :
    Argument.ofSyntax pathSyntax = .ok pathArguments ∧
    (∃ pieces : List (Piece pathArguments), Grammatical nulLine pieces) ∧
    (Parser.parse ⟨pathArguments, [], []⟩ (.own "/home/tester") nulLine).2 =
      .error .nulInPath := by
  let piece : Piece pathArguments :=
    ⟨.apart "--path" "~a\x00b", _, rfl, rfl, by decide, fun _ => by decide, rfl⟩
  have hgrammatical : Grammatical nulLine [piece] :=
    ⟨.inl rfl, List.nodup_singleton _, by simp [pathArguments]⟩
  exact ⟨by decide +kernel, ⟨[piece], hgrammatical⟩, rfl⟩

end CommandLine

end OtpRegistrar
