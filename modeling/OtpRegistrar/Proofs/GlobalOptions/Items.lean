/-
The options in front of a line, one by one.

An option is one token, or two if it takes a value, and a value is whatever stands behind.
Options that stand one behind the other are read one after the other, each doing what it
does by itself; and any line is such options with something behind them that is none, or
that has a flaw.  Both directions rest on one step, `scan_tokens_append`: the option at
the front of a line is read whole, whatever stands behind it.

No option is the beginning of another, so a line has its options in one way only.

A verbosity token is taken with a line feed behind its letters too.  Such an `Item` is not
`Proper`; everything that is said here holds of it as well.
-/
import OtpRegistrar.Proofs.GlobalOptions
import OtpRegistrar.Proofs.Text.Lines

namespace OtpRegistrar.GlobalOptions

/-! ### Options and their tokens -/

/-- The letter of a slot. -/
def Slot.letter : Slot → Symbol
  | base => .char 'd'
  | raiseExceptions => .char 'e'
  | moduleLoading => .char 'm'
  | netTraffic => .char 'N'
  | timestamps => .char 't'

/-- An option with its value, if it takes one. -/
inductive Item where
  | debug (slots : List Slot)
  /-- One `v` and so many more; a line feed may end them. -/
  | verbosity (more : Nat) (ended : Bool)
  | colors
  | version
  | help (long : Bool)
  | logfile (path : Text)
  | configFile (path : Text)
  deriving DecidableEq

/-- A dash, one `v` and so many more. -/
def verbosityLetters (more : Nat) : Text :=
  Text.ofString "-v" ++ List.replicate more (.char 'v')

namespace Item

/-- The tokens of an option. -/
def tokens : Item → List Text
  | debug slots => ["-d" ++ slots.map Slot.letter]
  | verbosity more ended => [verbosityLetters more ++ if ended then Text.newline else []]
  | colors => ["--color-logs"]
  | version => ["--version"]
  | help long => [if long then "--help" else "-h"]
  | logfile path => ["-l", path]
  | configFile path => ["-c", path]

/-- The option is written as it is meant to be. -/
def Proper : Item → Prop
  | verbosity _ ended => ended = false
  | _ => True

instance : DecidablePred Proper
  | verbosity _ ended => inferInstanceAs (Decidable (ended = false))
  | debug _ | colors | version | help _ | logfile _ | configFile _ => isTrue trivial

/-- The slots that the letters of a debug token raise. Its own `d` counts if no letter follows, or
if the next is a `d` too. -/
def raisedBy (slots : List Slot) : List Slot :=
  if slots = [] ∨ slots.head? = some .base then .base :: slots else slots

/-- What an option does. -/
def apply (s : State) : Item → State
  | debug slots => (raisedBy slots).foldl State.debug s
  | verbosity more ended => s.set "verbose_level" (.int (more + 1 + ended.toNat : Nat))
  | colors => s.set "color_logs" (.bool true)
  | version => s.set "show_version" (.bool true)
  | help _ => s.set "show_help" (.bool true)
  | logfile path => (s.set "logfile" (.text path)).set "file_logging" (.bool true)
  | configFile path => s.set "config_file" (.text path)

end Item

/-- The tokens of options, one behind the other. -/
def tokens (items : List Item) : List Text := items.flatMap Item.tokens

/-- What options do, one after the other. -/
def applyAll (s : State) (items : List Item) : State := items.foldl Item.apply s

@[simp] theorem tokens_cons (item : Item) (items : List Item) :
    tokens (item :: items) = item.tokens ++ tokens items := rfl

@[simp] theorem applyAll_cons (s : State) (item : Item) (items : List Item) :
    applyAll s (item :: items) = applyAll (item.apply s) items := rfl

variable {s : State} {item item' : Item} {items items' : List Item}
  {line rest rest' left : List Text} {token t : Text} {letter : Symbol} {slot : Slot}

/-! ### Debug tokens -/

@[simp] theorem Slot.ofLetter?_letter (slot : Slot) : ofLetter? slot.letter = some slot := by
  cases slot <;> rfl

theorem Slot.eq_letter (hletter : ofLetter? letter = some slot) : letter = slot.letter := by
  unfold ofLetter? at hletter
  split at hletter <;> cases hletter <;> rfl

theorem Slot.letter_injective : Function.Injective Slot.letter := fun a b hsame => by
  have hslot := congrArg ofLetter? hsame
  simpa using hslot

/-- Either all letters have slots, or there is a first one that has none. -/
theorem letters_cases (t : Text) :
    (∃ slots : List Slot, t = slots.map Slot.letter) ∨
      ∃ (known : List Slot) (letter : Symbol) (behind : Text),
        t = known.map Slot.letter ++ letter :: behind ∧ Slot.ofLetter? letter = none := by
  induction t with
  | nil => exact .inl ⟨[], rfl⟩
  | cons s t ih =>
      cases hs : Slot.ofLetter? s with
      | none => exact .inr ⟨[], s, t, rfl, hs⟩
      | some slot =>
          obtain rfl := Slot.eq_letter hs
          rcases ih with ⟨slots, rfl⟩ | ⟨known, letter, behind, rfl, hunknown⟩
          · exact .inl ⟨slot :: slots, rfl⟩
          · exact .inr ⟨slot :: known, letter, behind, rfl, hunknown⟩

theorem debugAll_letters (s : State) (slots : List Slot) :
    s.debugAll (slots.map Slot.letter) = (slots.foldl State.debug s, .ok ()) := by
  induction slots generalizing s with
  | nil => rfl
  | cons slot slots ih =>
      rw [List.map_cons, State.debugAll, Slot.ofLetter?_letter]
      exact ih (s.debug slot)

/-- Letters are followed up to the first that has no slot. -/
theorem debugAll_unknown (hunknown : Slot.ofLetter? letter = none) (s : State) (known : List Slot)
    (behind : Text) :
    (s.debugAll (known.map Slot.letter ++ letter :: behind)).2 =
      .error (.unknownDebugLetter letter) := by
  induction known generalizing s with
  | nil => rw [List.map_nil, List.nil_append, State.debugAll, hunknown]
  | cons slot known ih =>
      rw [List.map_cons, List.cons_append, State.debugAll, Slot.ofLetter?_letter]
      exact ih (s.debug slot)

/-- The letters that count are those behind the `d`, and the `d` itself if there are none or the
first of them is another. -/
theorem debugLetters_append (t : Text) :
    debugLetters ("-d" ++ t) =
      if t = [] ∨ t.head? = some (.char 'd') then .char 'd' :: t else t := by
  cases t with
  | nil => rfl
  | cons s t => simp [debugLetters, Text.ofString]

theorem debugLetters_letters (slots : List Slot) :
    debugLetters ("-d" ++ slots.map Slot.letter) = (Item.raisedBy slots).map Slot.letter := by
  rw [debugLetters_append, Item.raisedBy]
  cases slots with
  | nil => rfl
  | cons slot slots => cases slot <;> rfl

theorem debugLetters_known (known : List Slot) (letter : Symbol) (behind : Text) :
    ∃ known' : List Slot, debugLetters ("-d" ++ (known.map Slot.letter ++ letter :: behind)) =
      known'.map Slot.letter ++ letter :: behind := by
  rw [debugLetters_append]
  split
  · exact ⟨.base :: known, rfl⟩
  · exact ⟨known, rfl⟩

/-! ### Verbosity tokens -/

theorem verbosityLetters_getLast? (more : Nat) :
    (verbosityLetters more).getLast? ≠ some (.char '\n') := by
  intro hlast
  have hmem := List.mem_of_getLast? hlast
  simp [verbosityLetters, Text.ofString] at hmem

/-- Is the text a dash with letters behind it that are all `v`? -/
def isVerbosityBody : Text → Bool
  | .char '-' :: v :: vs => (v :: vs).all (· == .char 'v')
  | _ => false

theorem isVerbosityBody_iff : isVerbosityBody t = true ↔ ∃ more, t = verbosityLetters more := by
  constructor
  · intro hbody
    unfold isVerbosityBody at hbody
    split at hbody
    · rename_i v vs
      obtain ⟨rfl, hvs⟩ : v = .char 'v' ∧ ∀ s ∈ vs, s = .char 'v' := by simpa using hbody
      exact ⟨vs.length, by rw [verbosityLetters, ← List.eq_replicate_of_mem hvs]; rfl⟩
    · cases hbody
  · rintro ⟨more, rfl⟩
    simp [isVerbosityBody, verbosityLetters, Text.ofString]

theorem isVerbosity_eq (token : Text) :
    isVerbosity token = isVerbosityBody
      (if token.getLast? = some (.char '\n') then token.dropLast else token) := rfl

/-- What counts as verbosity: a dash and one or more `v`, with or without a line feed at the end. -/
theorem isVerbosity_iff :
    isVerbosity token = true ↔ ∃ more ended, [token] = (Item.verbosity more ended).tokens := by
  rw [isVerbosity_eq]
  rcases Text.newline_cases token with hplain | ⟨t, rfl⟩
  · rw [if_neg hplain, isVerbosityBody_iff]
    constructor
    · rintro ⟨more, rfl⟩
      exact ⟨more, false, by simp [Item.tokens]⟩
    · rintro ⟨more, ended, htoken⟩
      obtain rfl := List.singleton_inj.mp htoken
      cases ended with
      | false => exact ⟨more, by simp⟩
      | true => exact absurd (Text.getLast?_append_newline _) hplain
  · rw [if_pos (Text.getLast?_append_newline t), Text.dropLast_append_newline, isVerbosityBody_iff]
    constructor
    · rintro ⟨more, rfl⟩
      exact ⟨more, true, by simp [Item.tokens]⟩
    · rintro ⟨more, ended, htoken⟩
      have hsame := List.singleton_inj.mp htoken
      cases ended with
      | true => exact ⟨more, List.append_cancel_right hsame⟩
      | false =>
          refine absurd ?_ (verbosityLetters_getLast? more)
          rw [show verbosityLetters more = t ++ Text.newline by simpa using hsame.symm]
          exact Text.getLast?_append_newline t

/-! ### Reading options -/

/-- **The option at the front of a line is read whole**, whatever stands behind it. -/
theorem scan_tokens_append (s : State) (item : Item) (rest : List Text) :
    scan s (item.tokens ++ rest) = scan (item.apply s) rest := by
  cases item with
  | debug slots =>
      show scan s (("-d" ++ slots.map Slot.letter) :: rest) = _
      rw [scan.eq_def]
      dsimp only
      rw [if_pos (Text.startsWith_iff.mpr ⟨_, rfl⟩), debugLetters_letters, debugAll_letters]
      rfl
  | verbosity more ended =>
      have hother : (verbosityLetters more ++ if ended then Text.newline else []).startsWith
          (Text.ofString "-d") = false := rfl
      have hverbose := isVerbosity_iff.mpr ⟨more, ended, rfl⟩
      have hlength : (verbosityLetters more ++ if ended then Text.newline else []).length - 1 =
          more + 1 + ended.toNat := by
        cases ended <;> simp [verbosityLetters, Text.ofString, Text.newline]
      show scan s ((verbosityLetters more ++ if ended then Text.newline else []) :: rest) = _
      rw [scan.eq_def]
      dsimp only
      rw [if_neg (Bool.eq_false_iff.mp hother), if_pos hverbose, hlength]
      rfl
  | colors | version =>
      rw [scan.eq_def]
      rfl
  | help long =>
      cases long <;> rw [scan.eq_def] <;> rfl
  | logfile path | configFile path =>
      rw [scan.eq_def]
      rfl

/-- **Options are read one after the other.** -/
theorem scan_tokens (s : State) (items : List Item) (rest : List Text) :
    scan s (tokens items ++ rest) = scan (applyAll s items) rest := by
  induction items generalizing s with
  | nil => rfl
  | cons item items ih => rw [tokens_cons, List.append_assoc, scan_tokens_append, ih, applyAll_cons]

/-- Nothing at the front of the line is an option. -/
def Stops (line : List Text) : Prop := ∀ s : State, scan s line = (s, line, .ok ())

/-- At the front of the line there is an option with a flaw; the line that it leaves is with it. -/
inductive Flawed : List Text → Flaw → List Text → Prop
  | letter {letter : Symbol} (known : List Slot) (hunknown : Slot.ofLetter? letter = none)
      (behind : Text) (more : List Text) :
      Flawed (("-d" ++ (known.map Slot.letter ++ letter :: behind)) :: more)
        (.unknownDebugLetter letter)
        (("-d" ++ (known.map Slot.letter ++ letter :: behind)) :: more)
  | value {option : Text} (hoption : option = "-l" ∨ option = "-c") :
      Flawed [option] (.needsValue option) []

/-- A flaw ends the reading, whatever has been read before. -/
theorem Flawed.scan_eq {f : Flaw} (hflawed : Flawed rest f left) (s : State) :
    (scan s rest).2 = (left, .error f) := by
  cases hflawed with
  | letter known hunknown behind more =>
      obtain ⟨known', hletters⟩ := debugLetters_known known _ behind
      have herror := debugAll_unknown hunknown s known' behind
      rw [scan.eq_def]
      dsimp only
      rw [if_pos (Text.startsWith_iff.mpr ⟨_, rfl⟩), hletters]
      rcases hall : s.debugAll (known'.map Slot.letter ++ _ :: behind) with ⟨s', outcome⟩
      rw [hall] at herror
      obtain rfl : outcome = _ := herror
      rfl
  | value hoption =>
      rcases hoption with rfl | rfl <;> rfl

/-- There is no option at the front of the line, or one with a flaw. -/
def Ends (line : List Text) : Prop := Stops line ∨ ∃ f left, Flawed line f left

/-- **Any line is options**, and behind them there is no option, or one with a flaw. -/
theorem exists_items (line : List Text) :
    ∃ items rest, line = tokens items ++ rest ∧ Ends rest := by
  have hcons : ∀ (item : Item) (rest : List Text),
      (∃ items rest', rest = tokens items ++ rest' ∧ Ends rest') →
      ∃ items rest', item.tokens ++ rest = tokens items ++ rest' ∧ Ends rest' := by
    rintro item rest ⟨items, rest', rfl, hrest'⟩
    exact ⟨item :: items, rest', by simp, hrest'⟩
  fun_induction scan ⟨[], false⟩ line with
  | case1 => exact ⟨[], [], rfl, .inl fun s => rfl⟩
  | case2 s token rest hdebug s' hletters ih =>
      obtain ⟨t, rfl⟩ := Text.startsWith_iff.mp hdebug
      rcases letters_cases t with ⟨slots, rfl⟩ | ⟨known, letter, behind, rfl, hunknown⟩
      · exact hcons (.debug slots) rest ih
      · exact ⟨[], _, rfl, .inr ⟨_, _, .letter known hunknown behind rest⟩⟩
  | case3 s token rest hdebug s' e hletters =>
      obtain ⟨t, rfl⟩ := Text.startsWith_iff.mp hdebug
      rcases letters_cases t with ⟨slots, rfl⟩ | ⟨known, letter, behind, rfl, hunknown⟩
      · rw [debugLetters_letters, debugAll_letters] at hletters
        cases hletters
      · exact ⟨[], _, rfl, .inr ⟨_, _, .letter known hunknown behind rest⟩⟩
  | case4 s token rest _ hverbose ih =>
      obtain ⟨more, ended, htoken⟩ := isVerbosity_iff.mp hverbose
      have hline := hcons (.verbosity more ended) rest ih
      rwa [← htoken] at hline
  | case5 s rest _ _ ih => exact hcons .colors rest ih
  | case6 s rest _ _ _ ih => exact hcons .version rest ih
  | case7 s token rest _ _ _ _ hhelp ih =>
      rcases hhelp with rfl | rfl
      · exact hcons (.help false) rest ih
      · exact hcons (.help true) rest ih
  | case8 => exact ⟨[], _, rfl, .inr ⟨_, _, .value (.inl rfl)⟩⟩
  | case9 s value rest _ _ _ _ _ ih => exact hcons (.logfile value) rest ih
  | case10 => exact ⟨[], _, rfl, .inr ⟨_, _, .value (.inr rfl)⟩⟩
  | case11 s value rest _ _ _ _ _ _ ih => exact hcons (.configFile value) rest ih
  | case12 s token rest hdebug hverbose hcolors hversion hhelp hlogfile hconfig =>
      refine ⟨[], token :: rest, rfl, .inl fun s => ?_⟩
      rw [scan.eq_def]
      simp [hdebug, hverbose, hcolors, hversion, hhelp, hlogfile, hconfig]

/-! ### One way to read a line -/

theorem verbosityLetters_injective : Function.Injective verbosityLetters := fun a b hsame => by
  simpa [verbosityLetters] using congrArg List.length hsame

/-- Letters are no letters with a line feed behind them. -/
theorem verbosityLetters_ne_append (more more' : Nat) :
    verbosityLetters more ≠ verbosityLetters more' ++ Text.newline := fun hsame =>
  verbosityLetters_getLast? more (hsame ▸ Text.getLast?_append_newline _)

/-- Options that begin the same line are the same. -/
theorem tokens_append_inj (hsame : item.tokens ++ rest = item'.tokens ++ rest') :
    item = item' ∧ rest = rest' := by
  rcases item with slots | ⟨more, ended⟩ | _ | _ | (_ | _) | path | path <;>
    rcases item' with slots' | ⟨more', ended'⟩ | _ | _ | (_ | _) | path' | path'
  case debug.debug =>
      obtain ⟨htoken, hrest⟩ := List.cons.inj hsame
      have hslots :=
        List.map_injective_iff.mpr Slot.letter_injective (List.append_cancel_left htoken)
      exact ⟨congrArg Item.debug hslots, hrest⟩
  case verbosity.verbosity =>
      obtain ⟨htoken, hrest⟩ := List.cons.inj hsame
      cases ended <;> cases ended'
      case false.true =>
          exact absurd (by simpa using htoken) (verbosityLetters_ne_append more more')
      case true.false =>
          exact absurd (by simpa using htoken.symm) (verbosityLetters_ne_append more' more)
      all_goals
        obtain rfl := verbosityLetters_injective (by simpa using htoken)
        exact ⟨rfl, hrest⟩
  -- options of two kinds differ in their first token
  all_goals simp [Item.tokens, Text.ofString, verbosityLetters] at hsame
  all_goals simpa using hsame

theorem length_tokens_pos (item : Item) : 0 < item.tokens.length := by
  cases item <;> simp [Item.tokens]

/-- What begins with an option is not left as it is. -/
theorem length_scan_lt (s : State) (item : Item) (more : List Text) :
    (scan s (item.tokens ++ more)).2.1.length < (item.tokens ++ more).length := by
  have hleft := (rest_suffix (item.apply s) more).length_le
  have hpos := length_tokens_pos item
  rw [scan_tokens_append, List.length_append]
  omega

theorem Ends.ne_tokens_append (hends : Ends rest) (item : Item) (more : List Text) :
    rest ≠ item.tokens ++ more := by
  rintro rfl
  have hlength := length_scan_lt ⟨[], false⟩ item more
  rcases hends with hstops | ⟨f, left, hflawed⟩
  · rw [hstops] at hlength
    exact Nat.lt_irrefl _ hlength
  have hscan := hflawed.scan_eq ⟨[], false⟩
  generalize hline : item.tokens ++ more = line at hflawed hlength hscan
  cases hflawed with
  | letter known hunknown behind more =>
      rw [hscan] at hlength
      exact Nat.lt_irrefl _ hlength
  | value hoption =>
      -- the option would be the whole line, and nothing would be missing
      have hpos := length_tokens_pos item
      have hone := congrArg List.length hline
      rw [List.length_append, List.length_singleton] at hone
      obtain rfl : more = [] := List.eq_nil_of_length_eq_zero (by omega)
      rw [← hline, scan_tokens_append] at hscan
      cases hscan

/-- **A line has its options in one way only.** -/
theorem Ends.items_prefix (hends : Ends rest)
    (hsame : tokens items ++ rest = tokens items' ++ rest') : items' <+: items := by
  induction items generalizing items' with
  | nil =>
      cases items' with
      | nil => exact List.nil_prefix
      | cons item' items' =>
          rw [tokens_cons, List.append_assoc] at hsame
          exact absurd hsame (hends.ne_tokens_append _ _)
  | cons item items ih =>
      cases items' with
      | nil => exact List.nil_prefix
      | cons item' items' =>
          simp only [tokens_cons, List.append_assoc] at hsame
          obtain ⟨rfl, hrest⟩ := tokens_append_inj hsame
          exact List.cons_prefix_cons.mpr ⟨rfl, ih hrest⟩

end OtpRegistrar.GlobalOptions
