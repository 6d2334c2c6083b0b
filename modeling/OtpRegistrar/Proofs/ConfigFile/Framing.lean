/-
One line among the lines of a configuration file.

What a line says of its parameter is what the whole file gives for it, if two things are
true of the other lines.  Those in front of it leave no quote open, or else it is no line
of its own, and those behind it do not name the parameter again.  A `Frame` is the rest of
such a file.  Two lines are then told from what they say: one whose value stands bare, and
one whose value stands in quotes.
-/
import OtpRegistrar.Proofs.Config.Made
import OtpRegistrar.Proofs.ConfigFile.Appending

namespace OtpRegistrar.ConfigFile

/-! ### The other lines -/

/-- The lines around one that assigns a parameter, with what they say. -/
structure Frame (parameter : Text) where
  before : List Text
  behind : List Text
  earlier : Entries
  later : Entries
  read_before : readLines (fun _ => true) none [] before = .ok earlier
  read_behind : readLines (fun _ => true) none [] behind = .ok later
  last : parameter ∉ later.map (·.1)

namespace Frame

variable {parameter : Text}

/-- The lines of the file with the given line in its place. -/
def lines (frame : Frame parameter) (line : Text) : List Text :=
  frame.before ++ line :: frame.behind

/-- No other lines. -/
def alone (parameter : Text) : Frame parameter := ⟨[], [], [], [], rfl, rfl, List.not_mem_nil⟩

/-- Nothing but the empty line behind a line feed at the end of the file. -/
def ended (parameter : Text) : Frame parameter := ⟨[], [[]], [], [], rfl, rfl, List.not_mem_nil⟩

end Frame

/-- Entries are a table of values. -/
theorem Entries.get?_eq_find? (entries : Entries) (name : Text) :
    entries.get? name = Config.find? entries name := rfl

/-- An entry of two files together is one of either. -/
theorem Entries.mem_merge {base later : Entries} {e : Text × Value} (he : e ∈ base.merge later) :
    e ∈ base ∨ e ∈ later := by
  rcases List.mem_append.mp he with he | he
  · obtain ⟨⟨n, v⟩, hbase, rfl⟩ := List.mem_map.mp he
    dsimp only
    cases hlater : later.get? n with
    | none => exact .inl hbase
    | some w =>
        rw [get?_eq_find?] at hlater
        exact .inr (Config.mem_of_find? hlater)
  · exact .inr (List.mem_of_mem_filter he)

/-- **What the line says is what the file gives for its parameter**, and anything else that the
file gives is said by the other lines. -/
theorem Frame.read {parameter : Text} (frame : Frame parameter) {line t : Text} {value : Value}
    (hline : Line.ofText (Text.stripRightOf (.char '\r') line) = .assignment parameter value)
    (hlines : linesOf t = frame.lines line) :
    ∃ entries, ConfigFile.read t = .ok entries ∧ (parameter, value) ∈ entries ∧
      ∀ e ∈ entries, e = (parameter, value) ∨
        e.1 ≠ parameter ∧ e ∈ frame.earlier ++ frame.later := by
  have hbase : ((frame.earlier.set parameter value).map (·.1)).Nodup :=
    Entries.nodup_set (nodup_of_readLines (by simp) frame.read_before) _ _
  have hread : ConfigFile.read t =
      .ok ((frame.earlier.set parameter value).merge frame.later) := by
    unfold ConfigFile.read
    rw [hlines, lines, readLines_append frame.read_before, readLines, hline]
    dsimp only
    rw [if_pos rfl]
    conv_lhs =>
      rw [← Entries.merge_nil (frame.earlier.set parameter value), readLines_merge hbase,
        frame.read_behind]
    rfl
  have hget : ((frame.earlier.set parameter value).merge frame.later).get? parameter =
      some value := by
    have hnone : frame.later.get? parameter = none := by
      rw [← Option.not_isSome_iff_eq_none, Entries.get?_isSome_iff]
      exact frame.last
    rw [Entries.get?_merge, hnone, Option.none_or, Entries.get?_set, if_pos rfl]
  rw [Entries.get?_eq_find?] at hget
  refine ⟨_, hread, Config.mem_of_find? hget, fun e he => ?_⟩
  -- every name is stored once, so that an older value of the parameter is not among the entries
  by_cases hname : e.1 = parameter
  · have hfound := Config.find?_eq_some (nodup_of_read hread) he
    rw [hname, hget] at hfound
    exact .inl (Prod.ext hname (Option.some.inj hfound).symm)
  · refine .inr ⟨hname, List.mem_append.mpr ?_⟩
    rcases Entries.mem_merge he with he | he
    · rcases Entries.mem_set he with rfl | he
      · exact absurd rfl hname
      · exact .inl he
    · exact .inr he

/-! ### The line itself -/

/-- A line that assigns a bare value. -/
def bareAssignment (name value : Text) : Text := name ++ .char '=' :: value

/-- What a text has to be to stand bare on a line: there is something, with no line feed in it and
no white space around it, and it does not begin like a text in quotes. -/
structure Bare (t : Text) : Prop where
  nonempty : t ≠ []
  noBreak : Symbol.char '\n' ∉ t
  noBlankFirst : ∀ s ∈ t.head?, s.isBlank = false
  noBlankLast : ∀ s ∈ t.getLast?, s.isBlank = false
  noQuote : ∀ s ∈ t.head?, isQuote s = false

instance (t : Text) : Decidable (Bare t) :=
  decidable_of_iff (t ≠ [] ∧ Symbol.char '\n' ∉ t ∧ (∀ s ∈ t.head?, s.isBlank = false) ∧
      (∀ s ∈ t.getLast?, s.isBlank = false) ∧ ∀ s ∈ t.head?, isQuote s = false)
    ⟨fun ⟨h1, h2, h3, h4, h5⟩ => ⟨h1, h2, h3, h4, h5⟩,
      fun ⟨h1, h2, h3, h4, h5⟩ => ⟨h1, h2, h3, h4, h5⟩⟩

theorem Bare.strip {t : Text} (ht : Bare t) : t.strip = t :=
  Text.strip_eq_self ht.noBlankFirst ht.noBlankLast

theorem noBreak_bareAssignment {name t : Text} (hname : Named name) (ht : Bare t) :
    Symbol.char '\n' ∉ bareAssignment name t := by
  simp [bareAssignment, hname.noBreak, ht.noBreak]

/-- A bare value stands for a number, a constant or itself. -/
theorem ofText_bareAssignment {name t : Text} (hname : Named name) (ht : Bare t) :
    Line.ofText (Text.stripRightOf (.char '\r') (bareAssignment name t)) =
      .assignment name (Value.ofScalar t) := by
  have hlast : (bareAssignment name t).getLast? = t.getLast? := by
    unfold bareAssignment
    rw [List.getLast?_append, List.getLast?_cons]
    simp [List.getLast?_eq_some_getLast ht.nonempty]
  have hkept : Text.stripRightOf (.char '\r') (bareAssignment name t) = bareAssignment name t := by
    rw [Text.stripRightOf_eq_self_iff, hlast]
    intro heq
    have hblank := ht.noBlankLast _ heq
    cases hblank
  rw [hkept, bareAssignment, ofText_named hname, ht.strip]
  obtain ⟨s, rest, rfl⟩ := List.exists_cons_of_ne_nil ht.nonempty
  have hquote : isQuote s = false := ht.noQuote s rfl
  simp [hquote]

/-- A value in quotes that stands on one line is a text. -/
theorem ofText_quotedAssignment {name : Text} (hname : Named name) (t : Text) :
    Line.ofText (Text.stripRightOf (.char '\r') (quotedAssignment name t)) =
      .assignment name (.text t) := by
  have hline : quotedAssignment name t =
      name ++ .char '=' :: .char '"' :: (t ++ [.char '"']) := by
    simp [quotedAssignment, Text.ofString]
  have hclosing : Text.ofString "\"" = [.char '"'] := rfl
  have hkept : Text.stripRightOf (.char '\r') (quotedAssignment name t) =
      quotedAssignment name t := by
    rw [Text.stripRightOf_eq_self_iff, quotedAssignment, hclosing, List.getLast?_concat]
    decide
  have hend : Text.stripRight (t ++ [.char '"']) = t ++ [.char '"'] := by
    rw [Text.stripRight_eq_self_iff]
    simp [Symbol.isBlank, Text.inRanges]
  rw [hkept, hline, ofText_quote hname, hend]
  simp

end OtpRegistrar.ConfigFile
