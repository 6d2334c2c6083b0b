/-
Texts that are written to a configuration file in quotes, and read back.

A text in quotes stands on as many lines as it has, the first of them behind the name
and the last in front of the closing quote.  The reader goes from line to line, and
what it makes of them is followed here in the same steps: a line outside of quotes is
an assignment or opens one, the lines inside are taken as they are, and a quote at the
end of a line closes.

One line is not taken as it is.  White space around a value is cut off before anything
is known of quotes, and where the closing quote stands on a later line the white space
at the end of the first belongs to the text.  A text of several lines is therefore read
back only if its first line is `Kept`; and since no file at all can give a text whose
first line is not, `read_write_iff` is an equivalence.
-/
import OtpRegistrar.ConfigFile
import OtpRegistrar.Proofs.Text.Lines
import Mathlib.Data.List.Nodup

namespace OtpRegistrar.ConfigFile

/-! ### Lines of a text -/

theorem join_linesOf (t : Text) : Text.join Text.newline (linesOf t) = t := Text.join_splitOn _ t

theorem linesOf_join {ls : List Text} (hls : ∀ l ∈ ls, Symbol.char '\n' ∉ l) (hsome : ls ≠ []) :
    linesOf (Text.join Text.newline ls) = ls := Text.splitOn_join hls hsome

theorem linesOf_append (s t : Text) :
    linesOf (s ++ .char '\n' :: t) = linesOf s ++ linesOf t := Text.splitOn_append_cons _ s t

theorem not_mem_of_mem_linesOf {l t : Text} (hl : l ∈ linesOf t) : Symbol.char '\n' ∉ l :=
  Text.not_mem_of_mem_splitOn hl

theorem linesOf_of_not_mem {t : Text} (ht : Symbol.char '\n' ∉ t) : linesOf t = [t] :=
  Text.splitOn_of_not_mem ht

/-- What stands in front of a text stands in front of its first line. -/
theorem linesOf_prepend {p t first : Text} {more : List Text} (hp : Symbol.char '\n' ∉ p)
    (ht : linesOf t = first :: more) : linesOf (p ++ t) = (p ++ first) :: more := by
  have hwhole : p ++ t = Text.join Text.newline ((p ++ first) :: more) := by
    conv_lhs => rw [← join_linesOf t, ht]
    cases more with
    | nil => rfl
    | cons second more => simp [Text.join]
  have hnone : ∀ l ∈ linesOf t, Symbol.char '\n' ∉ l := fun l hl => not_mem_of_mem_linesOf hl
  rw [ht] at hnone
  rw [hwhole]
  refine linesOf_join (fun l hl => ?_) (List.cons_ne_nil _ _)
  rcases List.mem_cons.mp hl with rfl | hl
  · simp [hp, hnone first (by simp)]
  · exact hnone l (by simp [hl])

/-- The lines of a value with the closing quote at the end of the last. -/
def closed : List Text → List Text
  | [] => []
  | [last] => [last ++ Text.ofString "\""]
  | l :: l' :: ls => l :: closed (l' :: ls)

theorem join_closed {ls : List Text} (hsome : ls ≠ []) :
    Text.join Text.newline (closed ls) = Text.join Text.newline ls ++ Text.ofString "\"" := by
  fun_induction closed ls with
  | case1 => exact absurd rfl hsome
  | case2 last => rfl
  | case3 l l' ls ih =>
      have hrest := ih (List.cons_ne_nil _ _)
      obtain ⟨c, cs, hclosed⟩ : ∃ c cs, closed (l' :: ls) = c :: cs := by
        cases ls with
        | nil => exact ⟨_, _, rfl⟩
        | cons l'' ls => exact ⟨_, _, rfl⟩
      rw [hclosed] at hrest ⊢
      simp only [Text.join, hrest, List.append_assoc]

theorem not_mem_of_mem_closed {ls : List Text} (hls : ∀ l ∈ ls, Symbol.char '\n' ∉ l) :
    ∀ l ∈ closed ls, Symbol.char '\n' ∉ l := by
  fun_induction closed ls with
  | case1 => simp
  | case2 last =>
      have hlast := hls last (by simp)
      simpa using ⟨hlast, by decide⟩
  | case3 l l' ls ih =>
      obtain ⟨hl, hrest⟩ := List.forall_mem_cons.mp hls
      exact List.forall_mem_cons.mpr ⟨hl, ih hrest⟩

theorem linesOf_closing (t : Text) : linesOf (t ++ Text.ofString "\"") = closed (linesOf t) := by
  have hsome : linesOf t ≠ [] := Text.splitOn_ne_nil _ t
  conv_lhs => rw [← join_linesOf t, ← join_closed hsome]
  refine linesOf_join (not_mem_of_mem_closed fun l hl => not_mem_of_mem_linesOf hl) ?_
  obtain ⟨first, more, hlines⟩ := List.exists_cons_of_ne_nil hsome
  rw [hlines]
  cases more <;> simp [closed]

/-! ### Reading a text in quotes -/

/-- What a name has to be to stand in a file as it is. -/
structure Named (name : Text) : Prop where
  nonempty : name ≠ []
  noEquals : Symbol.char '=' ∉ name
  noBreak : Symbol.char '\n' ∉ name
  noBlankFirst : ∀ s ∈ name.head?, s.isBlank = false
  noBlankLast : ∀ s ∈ name.getLast?, s.isBlank = false
  noComment : name.head? ≠ some (.char '#')

/-- No line ends in a carriage return, and none but the last in a quote. -/
structure Quotable (ls : List Text) : Prop where
  noReturn : ∀ l ∈ ls, l.getLast? ≠ some (.char '\r')
  noQuote : ∀ l ∈ ls.dropLast, l.getLast? ≠ some (.char '"')

theorem Quotable.tail {l l' : Text} {ls : List Text} (hls : Quotable (l :: l' :: ls)) :
    Quotable (l' :: ls) where
  noReturn := fun t ht => hls.noReturn t (List.mem_cons_of_mem _ ht)
  noQuote := fun t ht => hls.noQuote t (List.mem_cons_of_mem _ ht)

/-- The first of several lines does not end in white space. -/
def Kept : List Text → Prop
  | first :: _ :: _ => Text.stripRight first = first
  | _ => True

instance (name : Text) : Decidable (Named name) :=
  decidable_of_iff (name ≠ [] ∧ Symbol.char '=' ∉ name ∧ Symbol.char '\n' ∉ name ∧
      (∀ s ∈ name.head?, s.isBlank = false) ∧ (∀ s ∈ name.getLast?, s.isBlank = false) ∧
      name.head? ≠ some (.char '#'))
    ⟨fun ⟨h1, h2, h3, h4, h5, h6⟩ => ⟨h1, h2, h3, h4, h5, h6⟩,
      fun ⟨h1, h2, h3, h4, h5, h6⟩ => ⟨h1, h2, h3, h4, h5, h6⟩⟩

instance (ls : List Text) : Decidable (Quotable ls) :=
  decidable_of_iff ((∀ l ∈ ls, l.getLast? ≠ some (.char '\r')) ∧
      ∀ l ∈ ls.dropLast, l.getLast? ≠ some (.char '"'))
    ⟨fun ⟨h1, h2⟩ => ⟨h1, h2⟩, fun ⟨h1, h2⟩ => ⟨h1, h2⟩⟩

instance : DecidablePred Kept
  | [] | [_] => isTrue trivial
  | first :: _ :: _ => inferInstanceAs (Decidable (Text.stripRight first = first))

theorem Named.strip {name : Text} (hname : Named name) : name.strip = name :=
  Text.strip_eq_self hname.noBlankFirst hname.noBlankLast

/-- A line that begins with a name says what stands behind the sign of equality. -/
theorem ofText_named {name : Text} (hname : Named name) (behind : Text) :
    Line.ofText (name ++ .char '=' :: behind) =
      match behind.strip with
      | [] => .assignment name (.text [])
      | s :: rest =>
        if isQuote s then
          if rest.getLast? = some s then .assignment name (.text rest.dropLast)
          else .opening name s rest
        else .assignment name (Value.ofScalar (s :: rest)) := by
  have hsplit := Text.splitFirst?_append hname.noEquals behind
  obtain ⟨s, rest, rfl⟩ := List.exists_cons_of_ne_nil hname.nonempty
  have hs : s.isBlank = false := hname.noBlankFirst s rfl
  have hcomment : s ≠ .char '#' := fun heq => hname.noComment (by rw [heq]; rfl)
  unfold Line.ofText
  rw [List.cons_append, Text.strip_cons hs, ← List.cons_append, hsplit]
  dsimp only
  cases behind.strip with
  | nil => simp [hname.strip, Text.startsWith, Text.ofString, Ne.symm hcomment]
  | cons first more => simp [hname.strip, Text.startsWith, Text.ofString, Ne.symm hcomment]

/-- The first line of a quoted value closes it, or leaves it open; the white space at its end does
not count in either case. -/
theorem ofText_quote {name : Text} (hname : Named name) (t : Text) :
    Line.ofText (name ++ .char '=' :: .char '"' :: t) =
      if t.stripRight.getLast? = some (.char '"') then
        .assignment name (.text t.stripRight.dropLast)
      else .opening name (.char '"') t.stripRight := by
  have hstrip : Text.strip (.char '"' :: t) = .char '"' :: t.stripRight :=
    Text.strip_cons (by decide) t
  have hquote : isQuote (.char '"') = true := rfl
  rw [ofText_named hname, hstrip]
  dsimp only
  rw [if_pos hquote]

section Reading

variable {keep : Text → Bool} {entries : Entries} {name : Text} {after : List Text}

/-- Inside of quotes lines are taken as they are, up to the one that closes. -/
theorem readLines_closed {o : Open} (hquote : o.quote = .char '"') {ls : List Text}
    (hsome : ls ≠ []) (hls : Quotable ls) :
    readLines keep (some o) entries (closed ls ++ after) =
      readLines keep none (if keep o.name then
        entries.set o.name (.text (Text.join Text.newline (o.lines ++ ls)))
          else entries) after := by
  fun_induction closed ls generalizing o with
  | case1 => exact absurd rfl hsome
  | case2 last =>
      have hstrip : Text.stripRightOf (.char '\r') (last ++ Text.ofString "\"") =
          last ++ Text.ofString "\"" := by
        rw [Text.stripRightOf_eq_self_iff]
        simp [Text.ofString]
      show readLines keep (some o) entries ((last ++ Text.ofString "\"") :: after) = _
      rw [readLines, hstrip]
      simp [hquote, Text.ofString]
  | case3 l l' ls ih =>
      have hreturn := hls.noReturn l (by simp)
      have hopen := hls.noQuote l (by simp)
      show readLines keep (some o) entries (l :: (closed (l' :: ls) ++ after)) = _
      rw [readLines, Text.stripRightOf_eq_self_iff.mpr hreturn]
      dsimp only
      rw [if_neg (by rwa [hquote]), ih (o := { o with lines := o.lines ++ [l] }) hquote
        (List.cons_ne_nil _ _) hls.tail]
      simp

/-- The first line of a quoted value is read as what it says. -/
theorem readLines_quote (hname : Named name) {t : Text}
    (hreturn : t.getLast? ≠ some (.char '\r')) :
    readLines keep none entries ((name ++ .char '=' :: .char '"' :: t) :: after) =
      if t.stripRight.getLast? = some (.char '"') then
        readLines keep none (if keep name then
          entries.set name (.text t.stripRight.dropLast) else entries) after
      else readLines keep (some ⟨name, .char '"', [t.stripRight]⟩) entries after := by
  have hstrip : Text.stripRightOf (.char '\r') (name ++ .char '=' :: .char '"' :: t) =
      name ++ .char '=' :: .char '"' :: t := by
    rw [Text.stripRightOf_eq_self_iff]
    cases t using List.reverseRecOn with
    | nil => simp
    | append_singleton t last =>
        have hsplit : name ++ .char '=' :: .char '"' :: (t ++ [last]) =
            (name ++ .char '=' :: .char '"' :: t) ++ [last] := by simp
        rw [hsplit, List.getLast?_concat]
        rwa [List.getLast?_concat] at hreturn
  rw [readLines, hstrip, ofText_quote hname]
  by_cases hlast : t.stripRight.getLast? = some (.char '"')
  · simp [hlast]
  · simp [hlast]

/-- **A text in quotes is read as it was written**, if the first of its lines is kept. -/
theorem readLines_quoted (hname : Named name) {value : Text} (hvalue : Quotable (linesOf value))
    (hkept : Kept (linesOf value)) :
    readLines keep none entries (linesOf (quotedAssignment name value) ++ after) =
      readLines keep none (if keep name then entries.set name (.text value) else entries)
        after := by
  have hfront : Symbol.char '\n' ∉ name ++ Text.ofString "=\"" := by
    have := hname.noBreak
    simpa [Text.ofString] using this
  have hjoin := join_linesOf value
  have hclosing := linesOf_closing value
  unfold quotedAssignment
  rw [List.append_assoc _ value]
  rcases hlines : linesOf value with _ | ⟨first, _ | ⟨second, more⟩⟩
  · exact absurd hlines (Text.splitOn_ne_nil _ value)
  · rw [hlines] at hjoin hclosing
    obtain rfl : first = value := hjoin
    have hkeep : Text.stripRight (first ++ Text.ofString "\"") = first ++ Text.ofString "\"" := by
      rw [Text.stripRight_eq_self_iff]
      simp [Text.ofString, Symbol.isBlank, Text.inRanges]
    rw [linesOf_prepend hfront hclosing]
    have hread : readLines keep none entries
        ((name ++ .char '=' :: .char '"' :: (first ++ Text.ofString "\"")) :: after) = _ :=
      readLines_quote hname (by simp [Text.ofString])
    rw [hkeep] at hread
    simpa [Text.ofString] using hread
  · rw [hlines] at hjoin hclosing hvalue hkept
    have hfirst : Text.stripRight first = first := hkept
    have hread : readLines keep none entries
        ((name ++ .char '=' :: .char '"' :: first) :: (closed (second :: more) ++ after)) = _ :=
      readLines_quote hname (hvalue.noReturn first (by simp))
    rw [hfirst, if_neg (hvalue.noQuote first (by simp)),
      readLines_closed rfl (List.cons_ne_nil _ _) hvalue.tail] at hread
    rw [linesOf_prepend hfront hclosing]
    simpa [Text.ofString, ← hjoin] using hread

end Reading

/-! ### Reading many of them -/

/-- A name that is not there yet comes last. -/
theorem Entries.set_of_fresh {entries : Entries} {name : Text}
    (hfresh : name ∉ entries.map (·.1)) (value : Value) :
    entries.set name value = entries ++ [(name, value)] := by
  induction entries with
  | nil => rfl
  | cons e entries ih =>
      obtain ⟨n, v⟩ := e
      rw [List.map_cons, List.mem_cons, not_or] at hfresh
      rw [Entries.set, if_neg (Ne.symm hfresh.1), ih hfresh.2, List.cons_append]

/-- The lines of a file are those of its assignments, one after the other. -/
theorem linesOf_write {assignments : List (Text × Text)} (hsome : assignments ≠ []) :
    linesOf (write assignments) =
      assignments.flatMap fun a => linesOf (quotedAssignment a.1 a.2) := by
  induction assignments with
  | nil => exact absurd rfl hsome
  | cons a assignments ih =>
      cases assignments with
      | nil => simp [write, Text.join]
      | cons b assignments =>
          have hwrite : write (a :: b :: assignments) =
              quotedAssignment a.1 a.2 ++ .char '\n' :: write (b :: assignments) := by
            simp [write, Text.join, Text.newline]
          rw [hwrite, linesOf_append, ih (List.cons_ne_nil _ _)]
          rfl

/-- Assignments to new names are stored behind what is there, in their order. -/
theorem readLines_assignments {assignments : List (Text × Text)} {entries : Entries}
    (hnames : (entries.map (·.1) ++ assignments.map (·.1)).Nodup)
    (hnamed : ∀ a ∈ assignments, Named a.1)
    (hvalues : ∀ a ∈ assignments, Quotable (linesOf a.2))
    (hkept : ∀ a ∈ assignments, Kept (linesOf a.2)) :
    readLines (fun _ => true) none entries
        (assignments.flatMap fun a => linesOf (quotedAssignment a.1 a.2)) =
      .ok (entries ++ assignments.map fun a => (a.1, .text a.2)) := by
  induction assignments generalizing entries with
  | nil => simp [readLines]
  | cons a assignments ih =>
      have hfresh : a.1 ∉ entries.map (·.1) := by
        intro hmem
        exact (List.nodup_append.mp hnames).2.2 _ hmem _ (by simp) rfl
      rw [List.flatMap_cons, readLines_quoted (hnamed a (by simp)) (hvalues a (by simp))
        (hkept a (by simp)), if_pos rfl, Entries.set_of_fresh hfresh]
      have hnames' : ((entries ++ [(a.1, Value.text a.2)]).map (·.1) ++
          assignments.map (·.1)).Nodup := by simpa using hnames
      have hrest := ih hnames'
        (fun b hb => hnamed b (by simp [hb])) (fun b hb => hvalues b (by simp [hb]))
        (fun b hb => hkept b (by simp [hb]))
      simpa using hrest

/-! ### What a file can give -/

theorem Entries.mem_set {entries : Entries} {name : Text} {value : Value} {e : Text × Value}
    (he : e ∈ entries.set name value) : e = (name, value) ∨ e ∈ entries := by
  induction entries with
  | nil => simpa [Entries.set] using he
  | cons e' entries ih =>
      obtain ⟨n, v⟩ := e'
      rw [Entries.set] at he
      by_cases hn : n = name
      · rw [if_pos hn, hn] at he
        rcases List.mem_cons.mp he with heq | he
        · exact .inl heq
        · exact .inr (List.mem_cons_of_mem _ he)
      · rw [if_neg hn] at he
        rcases List.mem_cons.mp he with heq | he
        · exact .inr (by simp [heq])
        · exact (ih he).imp_right (List.mem_cons_of_mem _)

/-- A text of one line is kept, whatever it ends in. -/
theorem kept_of_not_mem {t : Text} (ht : Symbol.char '\n' ∉ t) : Kept (linesOf t) := by
  rw [linesOf_of_not_mem ht]
  trivial

/-- A bare value that is read as a text is read as itself. -/
theorem eq_of_ofScalar {t v : Text} (hv : Value.ofScalar t = .text v) : v = t := by
  unfold Value.ofScalar at hv
  split at hv
  · cases hv
  · split at hv
    · cases hv
    · unfold Value.constant? at hv
      dsimp only at hv
      split_ifs at hv
      all_goals simp_all

/-- A line without a line feed assigns no text with one, and opens none with one or with white
space at its end. -/
def Line.Plain : Line → Prop
  | .assignment _ value => ∀ t, value = .text t → Symbol.char '\n' ∉ t
  | .opening _ _ start => Symbol.char '\n' ∉ start ∧ Text.stripRight start = start
  | .nothing | .noAssignment => True

theorem plain_ofText {line : Text} (hline : Symbol.char '\n' ∉ line) :
    (Line.ofText line).Plain := by
  unfold Line.ofText
  dsimp only
  split
  · trivial
  · split
    · trivial
    · rename_i name value hsplit
      obtain ⟨hwhole, -⟩ := Text.splitFirst?_eq_some hsplit
      have hvalue : Symbol.char '\n' ∉ value.strip := fun hmem =>
        hline (by simp [hwhole, Text.mem_of_mem_strip hmem])
      have hright := Text.stripRight_strip value
      split
      · intro t ht
        cases ht
        exact List.not_mem_nil
      · rename_i s rest hstrip
        rw [hstrip] at hvalue hright
        have hrest : Symbol.char '\n' ∉ rest := fun hmem => hvalue (List.mem_cons_of_mem _ hmem)
        split
        · split
          · intro t ht
            cases ht
            exact fun hmem => hrest (List.dropLast_subset rest hmem)
          · exact ⟨hrest, Text.stripRight_of_cons hright⟩
        · intro t ht
          rw [eq_of_ofScalar ht]
          exact hvalue

/-- All texts that are stored are kept. -/
def AllKept (entries : Entries) : Prop :=
  ∀ name value, (name, .text value) ∈ entries → Kept (linesOf value)

theorem AllKept.set {entries : Entries} (hentries : AllKept entries) {name : Text} {value : Value}
    (hvalue : ∀ t, value = .text t → Kept (linesOf t)) : AllKept (entries.set name value) := by
  intro n v hmem
  rcases Entries.mem_set hmem with heq | hmem
  · cases heq
    exact hvalue v rfl
  · exact hentries n v hmem

/-- A value that is still open began with a kept line. -/
structure Open.Begun (o : Open) : Prop where
  noBreak : ∀ l ∈ o.lines, Symbol.char '\n' ∉ l
  first : ∃ start more, o.lines = start :: more ∧ Text.stripRight start = start

theorem Open.Begun.continue {o : Open} (ho : o.Begun) {line : Text}
    (hline : Symbol.char '\n' ∉ line) : Open.Begun { o with lines := o.lines ++ [line] } where
  noBreak := by
    intro l hl
    rcases List.mem_append.mp hl with hl | hl
    · exact ho.noBreak l hl
    · rwa [List.mem_singleton.mp hl]
  first := by
    obtain ⟨start, more, hlines, hstart⟩ := ho.first
    exact ⟨start, more ++ [line], by simp [hlines], hstart⟩

theorem Open.Begun.kept {o : Open} (ho : o.Begun) :
    Kept (linesOf (Text.join Text.newline o.lines)) := by
  obtain ⟨start, more, hlines, hstart⟩ := ho.first
  rw [linesOf_join ho.noBreak (by simp [hlines]), hlines]
  cases more with
  | nil => trivial
  | cons next more => exact hstart

/-- Whatever the lines are, the texts that are read from them are kept. -/
theorem allKept_of_readLines {keep : Text → Bool} {o : Option Open} {entries entries' : Entries}
    {lines : List Text} (hlines : ∀ l ∈ lines, Symbol.char '\n' ∉ l) (hentries : AllKept entries)
    (ho : ∀ o', o = some o' → o'.Begun) (hread : readLines keep o entries lines = .ok entries') :
    AllKept entries' := by
  fun_induction readLines keep o entries lines with
  | case1 entries =>
      cases hread
      exact hentries
  | case2 o entries => cases hread
  | case3 o entries line rest line' hclose value ih =>
      obtain ⟨hline, hrest⟩ := List.forall_mem_cons.mp hlines
      have hvalue : ∀ t, value = .text t → Kept (linesOf t) := by
        intro t ht
        rw [← Value.text.inj ht]
        have hbreak : Symbol.char '\n' ∉ line'.dropLast := fun hmem =>
          Text.not_mem_stripRightOf hline (List.dropLast_subset line' hmem)
        exact ((ho o rfl).continue hbreak).kept
      refine ih hrest ?_ (by simp) hread
      split
      · exact hentries.set hvalue
      · exact hentries
  | case4 o entries line rest line' hopen ih =>
      obtain ⟨hline, hrest⟩ := List.forall_mem_cons.mp hlines
      refine ih hrest hentries (fun o' ho' => ?_) hread
      cases ho'
      exact (ho o rfl).continue (Text.not_mem_stripRightOf hline)
  | case5 entries line rest line' hsays ih =>
      exact ih (List.forall_mem_cons.mp hlines).2 hentries (by simp) hread
  | case6 entries line rest line' hsays => cases hread
  | case7 entries line rest line' name quote start hsays ih =>
      obtain ⟨hline, hrest⟩ := List.forall_mem_cons.mp hlines
      have hplain := plain_ofText (Text.not_mem_stripRightOf (r := .char '\r') hline)
      rw [show Line.ofText _ = _ from hsays] at hplain
      refine ih hrest hentries (fun o' ho' => ?_) hread
      cases ho'
      exact ⟨fun l hl => by rw [List.mem_singleton.mp hl]; exact hplain.1, start, [], rfl, hplain.2⟩
  | case8 entries line rest line' name value hsays ih =>
      obtain ⟨hline, hrest⟩ := List.forall_mem_cons.mp hlines
      have hplain := plain_ofText (Text.not_mem_stripRightOf (r := .char '\r') hline)
      rw [show Line.ofText _ = _ from hsays] at hplain
      refine ih hrest ?_ (by simp) hread
      split
      · exact hentries.set fun t ht => kept_of_not_mem (hplain t ht)
      · exact hentries

/-! ### Names that are read -/

theorem Entries.names_set_of_mem {entries : Entries} {name : Text}
    (hmem : name ∈ entries.map (·.1)) (value : Value) :
    (entries.set name value).map (·.1) = entries.map (·.1) := by
  induction entries with
  | nil => cases hmem
  | cons e entries ih =>
      obtain ⟨n, v⟩ := e
      rw [Entries.set]
      by_cases hn : n = name
      · rw [if_pos hn]
        rfl
      · rw [if_neg hn, List.map_cons, List.map_cons]
        rcases List.mem_cons.mp hmem with heq | hmem
        · exact absurd heq.symm hn
        · rw [ih hmem]

/-- A name that is stored again is not stored twice. -/
theorem Entries.nodup_set {entries : Entries} (hnames : (entries.map (·.1)).Nodup) (name : Text)
    (value : Value) : ((entries.set name value).map (·.1)).Nodup := by
  by_cases hmem : name ∈ entries.map (·.1)
  · rwa [names_set_of_mem hmem]
  · rw [set_of_fresh hmem, List.map_append, List.map_singleton]
    refine List.nodup_append.mpr ⟨hnames, List.nodup_singleton _, fun n hn m hm => ?_⟩
    rw [List.mem_singleton.mp hm]
    rintro rfl
    exact hmem hn

/-- Whatever lines are read, every name is stored once. -/
theorem nodup_of_readLines {keep : Text → Bool} {o : Option Open} {entries entries' : Entries}
    {lines : List Text} (hnames : (entries.map (·.1)).Nodup)
    (hread : readLines keep o entries lines = .ok entries') : (entries'.map (·.1)).Nodup := by
  have hstored : ∀ {entries : Entries} (name : Text) (value : Value),
      (entries.map (·.1)).Nodup →
      ((if keep name then entries.set name value else entries).map (·.1)).Nodup := by
    intro entries name value hnames
    split
    · exact Entries.nodup_set hnames name value
    · exact hnames
  fun_induction readLines keep o entries lines with
  | case1 entries =>
      cases hread
      exact hnames
  | case2 o entries => cases hread
  | case3 o entries line rest line' hclose value ih => exact ih (hstored _ _ hnames) hread
  | case4 o entries line rest line' hopen ih => exact ih hnames hread
  | case5 entries line rest line' hsays ih => exact ih hnames hread
  | case6 entries line rest line' hsays => cases hread
  | case7 entries line rest line' name quote start hsays ih => exact ih hnames hread
  | case8 entries line rest line' name value hsays ih => exact ih (hstored _ _ hnames) hread

/-- Every parameter of a file has one value. -/
theorem nodup_of_read {t : Text} {entries : Entries} (hread : read t = .ok entries) :
    (entries.map (·.1)).Nodup :=
  nodup_of_readLines (by simp) hread

/-! ### Reading back -/

/-- A line feed behind the last line changes nothing. -/
theorem readLines_ended (keep : Text → Bool) (o : Option Open) (entries : Entries)
    (lines : List Text) : readLines keep o entries (lines ++ [[]]) =
      readLines keep o entries lines := by
  induction lines generalizing o entries with
  | nil =>
      cases o with
      | none => rfl
      | some o => simp [readLines, Text.stripRightOf]
  | cons line rest ih =>
      cases o with
      | none => simp only [List.cons_append, readLines, ih]
      | some o => simp only [List.cons_append, readLines, ih]

theorem read_ended (t : Text) : read (t ++ Text.newline) = read t := by
  show readLines _ none [] (linesOf (t ++ .char '\n' :: [])) = _
  rw [linesOf_append, linesOf_of_not_mem List.not_mem_nil, readLines_ended]
  rfl

/-- **Texts in quotes are read back as they were written, all of them in their order, if and only
if each has a first line that is kept.**  A line feed at the end of the file makes no difference. -/
theorem read_write_iff {assignments : List (Text × Text)}
    (hnames : (assignments.map (·.1)).Nodup) (hnamed : ∀ a ∈ assignments, Named a.1)
    (hvalues : ∀ a ∈ assignments, Quotable (linesOf a.2)) :
    (read (write assignments) = .ok (assignments.map fun a => (a.1, .text a.2)) ↔
      ∀ a ∈ assignments, Kept (linesOf a.2)) ∧
    read (write assignments ++ Text.newline) = read (write assignments) := by
  refine ⟨⟨fun hread a ha => ?_, fun hkept => ?_⟩, read_ended _⟩
  · have hall : AllKept (assignments.map fun a => (a.1, Value.text a.2)) :=
      allKept_of_readLines (fun l hl => not_mem_of_mem_linesOf hl)
        (fun _ _ h => absurd h List.not_mem_nil) (by simp) hread
    exact hall a.1 a.2 (List.mem_map.mpr ⟨a, ha, rfl⟩)
  · by_cases hsome : assignments = []
    · rw [hsome]
      rfl
    · unfold read
      rw [linesOf_write hsome, readLines_assignments (by simpa using hnames) hnamed hvalues hkept]
      rfl

/-- Blank lines, quotes, signs of equality and white space inside of a text do it no harm. -/
theorem read_write_iff_verbatim :
    let assignments : List (Text × Text) :=
      [(Text.ofString "TEXT", Text.ofString "first\n# = second \n\n\"third\" \""),
        (Text.ofString "MY NAME", Text.ofString " \"a\" \t")]
    ((assignments.map (·.1)).Nodup ∧ (∀ a ∈ assignments, Named a.1) ∧
      ∀ a ∈ assignments, Quotable (linesOf a.2)) ∧
    read (write assignments) = .ok (assignments.map fun a => (a.1, .text a.2)) := by
  intro assignments
  have hnames : (assignments.map (·.1)).Nodup := by decide
  have hnamed : ∀ a ∈ assignments, Named a.1 := by decide
  have hvalues : ∀ a ∈ assignments, Quotable (linesOf a.2) := by decide
  exact ⟨⟨hnames, hnamed, hvalues⟩, (read_write_iff hnames hnamed hvalues).1.mpr (by decide)⟩

/-- White space at the end of the first of two lines is lost. -/
theorem read_loses_blank :
    let assignments : List (Text × Text) := [(Text.ofString "A", Text.ofString "x \ny")]
    ((∀ a ∈ assignments, Named a.1) ∧ ∀ a ∈ assignments, Quotable (linesOf a.2)) ∧
    read (write assignments) = .ok [(Text.ofString "A", .text (Text.ofString "x\ny"))] ∧
    read (write assignments) ≠ .ok (assignments.map fun a => (a.1, .text a.2)) := by
  intro assignments
  have hread : read (write assignments) =
      .ok [(Text.ofString "A", .text (Text.ofString "x\ny"))] := rfl
  refine ⟨by decide, hread, ?_⟩
  rw [hread]
  intro heq
  have hvalue : Text.ofString "x\ny" = Text.ofString "x \ny" := by
    simpa [assignments] using heq
  exact absurd hvalue (by decide)

end OtpRegistrar.ConfigFile
