/-
The segments of a command line.

A line that can be read is a sequence of segments, and reading it binds one variable
for each.  That is how the syntax is meant; the reader goes from token to token
instead and never builds the segments.  Here they are recovered: whatever a reader
makes of a line is said by the segments that the line consists of, so that what was
given on a command line can be spoken of without its reader.

A `Piece` is a segment together with the argument that it stands for, and the proof
that the two fit.  A line has only one such reading: its tokens tell where a piece
ends, since an option is never mistaken for a value or for a separator.
-/
import OtpRegistrar.Arguments.CommandLine
import OtpRegistrar.Proofs.Text.Lines

namespace OtpRegistrar

namespace CommandLine

/-- One unit of a command line: an option alone, joined to its value, or in front of it. -/
inductive Segment where
  | alone (option : Text)
  | joined (option value : Text)
  | apart (option value : Text)

namespace Segment

/-- The tokens that are read by themselves. -/
def special : List Text := ["-h", "--help", "--"]

def option : Segment → Text
  | alone option | joined option _ | apart option _ => option

def value? : Segment → Option Text
  | alone _ => none
  | joined _ value | apart _ value => some value

def isToken : Segment → Bool
  | alone _ | apart _ _ => true
  | joined _ _ => false

def tokens : Segment → List Text
  | alone option => [option]
  | joined option value => [option ++ .char '=' :: value]
  | apart option value => [option, value]

/-- The segment is written as the argument wants it: with one of its spellings, and with a value if
and only if the argument takes one. -/
structure Fits (arguments : List Argument) (a : Argument) (seg : Segment) : Prop where
  found : Argument.find? arguments seg.option = some a
  dashed : seg.option.startsWith "-" = true
  plain : Symbol.char '=' ∉ seg.option
  ordinary : seg.isToken = true → seg.option ∉ special
  valued : seg.value?.isNone = a.flag.isSome

end Segment

/-- A segment with the argument that it stands for. -/
structure Piece (arguments : List Argument) where
  segment : Segment
  argument : Argument
  fits : segment.Fits arguments argument

namespace Piece

variable {arguments : List Argument}

/-- The variable that a piece binds. -/
def name (p : Piece arguments) : Text := p.argument.variableName

/-- The value that a piece binds its variable to. -/
def value (homes : Homes) (p : Piece arguments) : Value :=
  match p.segment.value? with
  | some t => valueFor homes p.argument t
  | none => p.argument.flagValue

def binding (homes : Homes) (p : Piece arguments) : Text × Value := (p.name, p.value homes)

def tokens (ps : List (Piece arguments)) : List Text := ps.flatMap (·.segment.tokens)

@[simp] theorem tokens_cons (p : Piece arguments) (ps : List (Piece arguments)) :
    tokens (p :: ps) = p.segment.tokens ++ tokens ps := List.flatMap_cons

end Piece

/-- The line consists of the pieces, up to a separator at its end, and binds what they bind; no
variable is bound twice. -/
structure Consists (homes : Homes) {arguments : List Argument} (line : List Text) (bound : Bindings)
    (pieces : List (Piece arguments)) (bound' : Bindings) : Prop where
  line : line = Piece.tokens pieces ∨ line = Piece.tokens pieces ++ [Text.ofString "--"]
  binds : bound' = bound ++ pieces.map (Piece.binding homes)
  once : (bound.map (·.1)).Nodup → (bound'.map (·.1)).Nodup

namespace Consists

variable {homes : Homes} {arguments : List Argument} {bound bound' : Bindings} {line : List Text}
  {pieces : List (Piece arguments)}

/-- A piece may be put in front of a line if its variable is not bound yet. -/
theorem cons {p : Piece arguments} (hfresh : ¬bound.has p.name = true)
    (hrest : Consists homes line (bound ++ [p.binding homes]) pieces bound') :
    Consists homes (p.segment.tokens ++ line) bound (p :: pieces) bound' where
  line := by
    rw [Piece.tokens_cons]
    rcases hrest.line with hline | hline
    · exact .inl (by rw [hline])
    · exact .inr (by rw [hline, List.append_assoc])
  binds := by
    rw [hrest.binds, List.append_assoc]
    rfl
  once := by
    intro hnodup
    refine hrest.once ?_
    rw [List.map_append, List.nodup_append]
    refine ⟨hnodup, List.pairwise_singleton _ _, ?_⟩
    intro name hname name' hname' heq
    rw [List.mem_singleton.mp hname'] at heq
    obtain ⟨entry, hentry, rfl⟩ := List.mem_map.mp hname
    exact hfresh (List.any_eq_true.mpr ⟨entry, hentry, beq_iff_eq.mpr heq⟩)

end Consists

/-- The option of a token and the value joined to it, if there is one. -/
theorem split_token {token option : Text} {inline : Option Text}
    (hsplit : (match Text.splitFirst? (.char '=') token with
      | some (option, value) => (option, some value)
      | none => (token, none)) = (option, inline)) :
    Symbol.char '=' ∉ option ∧
      token = option ++ (inline.map (Symbol.char '=' :: ·)).getD [] := by
  split at hsplit
  · rename_i before behind hparts
    cases hsplit
    obtain ⟨ht, hsep⟩ := Text.splitFirst?_eq_some hparts
    exact ⟨hsep, ht⟩
  · rename_i hwhole
    cases hsplit
    exact ⟨Text.splitFirst?_eq_none hwhole, (List.append_nil _).symm⟩

/-- An option begins as the token that it stands in does. -/
theorem dashed_of_joined {option value : Text}
    (hdashed : (option ++ Symbol.char '=' :: value).startsWith "-" = true) :
    option.startsWith "-" = true := by
  cases option with
  | nil => simp [Text.startsWith, Text.ofString] at hdashed
  | cons s option => exact hdashed

/-- A token that is neither a separator nor asks for help is no special one. -/
theorem not_special {token : Text}
    (hhelp : ¬(token = Text.ofString "-h" ∨ token = Text.ofString "--help"))
    (hseparator : ¬token = Text.ofString "--") : token ∉ Segment.special := by
  intro hmem
  unfold Segment.special at hmem
  simp only [List.mem_cons, List.not_mem_nil, or_false] at hmem
  rcases hmem with h | h | h
  · exact hhelp (.inl h)
  · exact hhelp (.inr h)
  · exact hseparator h

/-- **A line that can be read consists of pieces**, which say all that it binds. -/
theorem consists_of_scan (homes : Homes) (arguments : List Argument) (bound : Bindings)
    (line : List Text) {bound' : Bindings} :
    scan homes arguments bound line = (bound', .ok ()) →
      ∃ pieces : List (Piece arguments), Consists homes line bound pieces bound' := by
  have hnothing : ∀ {bound bound' : Bindings} {line : List Text},
      (line = [] ∨ line = [Text.ofString "--"]) → bound' = bound →
        Consists homes line bound ([] : List (Piece arguments)) bound' := by
    intro bound bound' line hline hbound
    exact ⟨hline, by rw [hbound]; exact (List.append_nil _).symm, fun h => by rw [hbound]; exact h⟩
  -- a piece is added in the three cases that read on, and the other ends of the line are errors
  fun_induction scan homes arguments bound line generalizing bound' with
  | case1 bound =>
      intro hscan
      exact ⟨[], hnothing (.inl rfl) (Prod.mk.inj hscan).1.symm⟩
  | case3 bound =>
      intro hscan
      exact ⟨[], hnothing (.inr rfl) (Prod.mk.inj hscan).1.symm⟩
  | case9 bound token rest hhelp hseparator hdashed option a hfound hfresh hflag hsplit ih =>
      intro hscan
      obtain ⟨pieces, hrest⟩ := ih hscan
      obtain ⟨hplain, htoken⟩ := split_token hsplit
      obtain rfl : token = option := by rw [htoken]; exact List.append_nil _
      have hstart : token.startsWith "-" = true := by simpa using hdashed
      let p : Piece arguments := ⟨.alone token, a, hfound, hstart, hplain,
        fun _ => not_special hhelp hseparator, hflag.symm⟩
      exact ⟨p :: pieces, Consists.cons (p := p) hfresh hrest⟩
  | case11 bound token rest hhelp hseparator hdashed option a hfound hfresh hflag value _ hsplit
      ih =>
      intro hscan
      obtain ⟨pieces, hrest⟩ := ih hscan
      obtain ⟨hplain, rfl⟩ := split_token hsplit
      have hstart : option.startsWith "-" = true :=
        dashed_of_joined (by simpa using hdashed)
      let p : Piece arguments := ⟨.joined option value, a, hfound, hstart, hplain,
        (fun h => nomatch h), (Bool.eq_false_iff.mpr hflag).symm⟩
      exact ⟨p :: pieces, Consists.cons (p := p) hfresh hrest⟩
  | case14 bound token hhelp hseparator hdashed option a hfound hfresh hflag value rest _ hsplit
      ih =>
      intro hscan
      obtain ⟨pieces, hrest⟩ := ih hscan
      obtain ⟨hplain, htoken⟩ := split_token hsplit
      obtain rfl : token = option := by rw [htoken]; exact List.append_nil _
      have hstart : token.startsWith "-" = true := by simpa using hdashed
      let p : Piece arguments := ⟨.apart token value, a, hfound, hstart, hplain,
        fun _ => not_special hhelp hseparator, (Bool.eq_false_iff.mpr hflag).symm⟩
      exact ⟨p :: pieces, Consists.cons (p := p) hfresh hrest⟩
  | _ =>
      intro hscan
      cases hscan

/-! ### One reading only -/

/-- The first token of a segment. -/
def Segment.front : Segment → Text
  | alone option | apart option _ => option
  | joined option value => option ++ .char '=' :: value

/-- The value in the first token of a segment. -/
def Segment.inline? : Segment → Option Text
  | joined _ value => some value
  | alone _ | apart _ _ => none

/-- The first token tells the option, and the value joined to it. -/
theorem Segment.split_front {seg : Segment} (hplain : Symbol.char '=' ∉ seg.option) :
    (match Text.splitFirst? (.char '=') seg.front with
      | some (option, value) => (option, some value)
      | none => (seg.front, none)) = (seg.option, seg.inline?) := by
  cases seg with
  | joined option value =>
      have hoption : Symbol.char '=' ∉ option := hplain
      rw [front, Text.splitFirst?_append hoption]
      rfl
  | alone option =>
      have hoption : Symbol.char '=' ∉ option := hplain
      rw [front, Text.splitFirst?_of_not_mem hoption]
      rfl
  | apart option value =>
      have hoption : Symbol.char '=' ∉ option := hplain
      rw [front, Text.splitFirst?_of_not_mem hoption]
      rfl

section Unique

variable {arguments : List Argument}

/-- No piece begins with a token that is read by itself. -/
theorem Piece.front_not_special (p : Piece arguments) : p.segment.front ∉ Segment.special := by
  obtain ⟨seg, a, fits⟩ := p
  have hordinary := fits.ordinary
  cases seg with
  | alone option => exact hordinary rfl
  | apart option value => exact hordinary rfl
  | joined option value =>
      have hplain : ∀ t ∈ Segment.special, Symbol.char '=' ∉ t := by decide
      intro hmem
      exact hplain _ hmem (List.mem_append_right _ List.mem_cons_self)

/-- No piece begins with a separator. -/
theorem Piece.front_ne_separator (p : Piece arguments) : p.segment.front ≠ Text.ofString "--" := by
  intro heq
  refine p.front_not_special ?_
  rw [heq]
  decide

/-- The piece at the front of a line is told by the line. -/
theorem Piece.eq_of_tokens_append {p p' : Piece arguments} {rest rest' : List Text}
    (hsame : p.segment.tokens ++ rest = p'.segment.tokens ++ rest') : p = p' ∧ rest = rest' := by
  obtain ⟨seg, a, fits⟩ := p
  obtain ⟨seg', a', fits'⟩ := p'
  dsimp only at hsame
  have hfront : seg.front = seg'.front := by
    cases seg <;> cases seg' <;> exact (List.cons.inj hsame).1
  have hsplit := Segment.split_front fits.plain
  rw [hfront, Segment.split_front fits'.plain] at hsplit
  obtain ⟨hoption, hinline⟩ := Prod.mk.inj hsplit
  -- the same option has the same argument, and this says whether a value stands behind it
  obtain rfl : a = a' := by
    have hfound := fits.found
    rw [← hoption, fits'.found] at hfound
    exact (Option.some.inj hfound).symm
  have hvalued : seg.value?.isNone = seg'.value?.isNone := fits.valued.trans fits'.valued.symm
  have hsegment : seg = seg' ∧ rest = rest' := by
    cases seg <;> cases seg' <;>
      simp_all [Segment.option, Segment.inline?, Segment.value?, Segment.tokens]
  obtain ⟨rfl, rfl⟩ := hsegment
  exact ⟨rfl, rfl⟩

theorem Piece.eq_of_tokens {ps ps' : List (Piece arguments)} {ending ending' : List Text}
    (hending : ending = [] ∨ ending = [Text.ofString "--"])
    (hending' : ending' = [] ∨ ending' = [Text.ofString "--"])
    (hsame : tokens ps ++ ending = tokens ps' ++ ending') : ps = ps' := by
  have hnone : ∀ {p : Piece arguments} {ps : List (Piece arguments)} {ending ending' : List Text},
      ending = [] ∨ ending = [Text.ofString "--"] → ending ≠ tokens (p :: ps) ++ ending' := by
    intro p ps ending ending' hending heq
    have hfront : ∃ more, ending = p.segment.front :: more := by
      rw [heq, tokens_cons]
      cases p.segment <;> exact ⟨_, rfl⟩
    obtain ⟨more, hmore⟩ := hfront
    rcases hending with rfl | rfl
    · cases hmore
    · exact p.front_ne_separator (List.cons.inj hmore).1.symm
  induction ps generalizing ps' with
  | nil =>
      cases ps' with
      | nil => rfl
      | cons p' ps' => exact absurd hsame (hnone hending)
  | cons p ps ih =>
      cases ps' with
      | nil => exact absurd hsame.symm (hnone hending')
      | cons p' ps' =>
          rw [tokens_cons, tokens_cons, List.append_assoc, List.append_assoc] at hsame
          obtain ⟨rfl, hrest⟩ := Piece.eq_of_tokens_append hsame
          rw [ih hrest]

/-- Behind its pieces a line ends, or has a separator. -/
theorem Consists.ends {homes : Homes} {line : List Text} {bound bound' : Bindings}
    {pieces : List (Piece arguments)} (hconsists : Consists homes line bound pieces bound') :
    ∃ ending, (ending = [] ∨ ending = [Text.ofString "--"]) ∧
      line = Piece.tokens pieces ++ ending := by
  rcases hconsists.line with hline | hline
  · exact ⟨[], .inl rfl, by rw [hline, List.append_nil]⟩
  · exact ⟨_, .inr rfl, hline⟩

/-- **A line consists of pieces in one way only.** -/
theorem Consists.unique {homes homes' : Homes} {line : List Text} {bound bound' : Bindings}
    {bound₁ bound₁' : Bindings} {pieces pieces' : List (Piece arguments)}
    (hconsists : Consists homes line bound pieces bound₁)
    (hconsists' : Consists homes' line bound' pieces' bound₁') : pieces = pieces' := by
  obtain ⟨ending, hending, hline⟩ := hconsists.ends
  obtain ⟨ending', hending', hline'⟩ := hconsists'.ends
  exact Piece.eq_of_tokens hending hending' (hline.symm.trans hline')

end Unique

/-! ### What is given -/

section Given

variable {homes : Homes} {arguments : List Argument} {line : List Text} {bound : Bindings}
  {pieces : List (Piece arguments)}

/-- Is the variable given on the line? -/
def isGiven (pieces : List (Piece arguments)) (name : Text) : Bool := pieces.any (·.name == name)

/-- The text given for a variable, if it is given with one. -/
def given (pieces : List (Piece arguments)) (name : Text) : Option Text :=
  (pieces.find? (·.name == name)).bind (·.segment.value?)

theorem consists_of_read (hread : read homes arguments line = (bound, .ok ())) :
    ∃ pieces : List (Piece arguments), Consists homes line [] pieces bound :=
  consists_of_scan homes arguments [] line hread

theorem Consists.bound_eq (hconsists : Consists homes line [] pieces bound) :
    bound = pieces.map (Piece.binding homes) := by
  rw [hconsists.binds, List.nil_append]

/-- A variable is bound if and only if it is given. -/
theorem Consists.has_eq (hconsists : Consists homes line [] pieces bound) (name : Text) :
    bound.has name = isGiven pieces name := by
  rw [hconsists.bound_eq]
  unfold Bindings.has isGiven
  rw [List.any_map]
  rfl

theorem Consists.get?_eq (hconsists : Consists homes line [] pieces bound) (name : Text) :
    bound.get? name = (pieces.find? (·.name == name)).map (Piece.value homes) := by
  rw [hconsists.bound_eq]
  unfold Bindings.get?
  rw [List.find?_map, Option.map_map]
  rfl

theorem Piece.argument_mem (p : Piece arguments) : p.argument ∈ arguments :=
  List.mem_of_find?_eq_some p.fits.found

theorem Piece.value?_of_flag_none {p : Piece arguments} (hflag : p.argument.flag = none) :
    ∃ t, p.segment.value? = some t := by
  have hvalued := p.fits.valued
  rw [hflag] at hvalued
  cases hvalue : p.segment.value? with
  | none =>
      rw [hvalue] at hvalued
      cases hvalued
  | some t => exact ⟨t, rfl⟩

/-- What an argument with a value is bound to is a text. -/
theorem Piece.value_of_flag_none (homes : Homes) {p : Piece arguments}
    (hflag : p.argument.flag = none) :
    ∃ t, p.segment.value? = some t ∧ p.value homes = valueFor homes p.argument t := by
  obtain ⟨t, ht⟩ := Piece.value?_of_flag_none hflag
  refine ⟨t, ht, ?_⟩
  unfold Piece.value
  rw [ht]

/-- The text that an argument with a value is bound to is there if it is given. -/
theorem Consists.text?_isSome (hconsists : Consists homes line [] pieces bound) {name : Text}
    (hvalued : ∀ a ∈ arguments, a.variableName = name → a.flag = none) :
    ((bound.get? name).bind Value.text?).isSome = isGiven pieces name := by
  rw [hconsists.get?_eq]
  unfold isGiven
  rw [← List.isSome_find?]
  cases hfind : pieces.find? (·.name == name) with
  | none => rfl
  | some p =>
      have hname : p.name = name := by simpa using List.find?_some hfind
      obtain ⟨t, -, hvalue⟩ :=
        Piece.value_of_flag_none homes (hvalued _ p.argument_mem hname)
      show ((p.value homes).text?).isSome = true
      rw [hvalue]
      rfl

/-- An argument that takes its value as it stands is bound to the text that is given. -/
theorem Consists.text?_eq (hconsists : Consists homes line [] pieces bound) {name : Text}
    (hvalued : ∀ a ∈ arguments, a.variableName = name → a.flag = none ∧ a.isFile = false) :
    (bound.get? name).bind Value.text? = given pieces name := by
  rw [hconsists.get?_eq]
  unfold given
  cases hfind : pieces.find? (·.name == name) with
  | none => rfl
  | some p =>
      have hname : p.name = name := by simpa using List.find?_some hfind
      obtain ⟨hflag, hfile⟩ := hvalued _ p.argument_mem hname
      obtain ⟨t, ht, hvalue⟩ := Piece.value_of_flag_none homes hflag
      show (p.value homes).text? = p.segment.value?
      rw [hvalue, ht]
      unfold valueFor
      rw [hfile]
      rfl

/-- A path is bound with the home directory in it. -/
theorem Consists.path?_eq (hconsists : Consists homes line [] pieces bound) {name : Text}
    (hvalued : ∀ a ∈ arguments, a.variableName = name → a.flag = none ∧ a.isFile = true) :
    (bound.get? name).bind Value.text? = (given pieces name).map (expandHome homes) := by
  rw [hconsists.get?_eq]
  unfold given
  cases hfind : pieces.find? (·.name == name) with
  | none => rfl
  | some p =>
      have hname : p.name = name := by simpa using List.find?_some hfind
      obtain ⟨hflag, hfile⟩ := hvalued _ p.argument_mem hname
      obtain ⟨t, ht, hvalue⟩ := Piece.value_of_flag_none homes hflag
      show (p.value homes).text? = p.segment.value?.map (expandHome homes)
      rw [hvalue, ht]
      unfold valueFor
      rw [hfile]
      rfl

end Given

end CommandLine

end OtpRegistrar
