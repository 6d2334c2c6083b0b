/-
What the constraints of a command say.

A constraint speaks of the variables that are given on a line, and of nothing else:
neither of their values, nor of the spellings that were used for them, nor of the
order in which they stand.  The checker counts and searches what a line has bound.
Here is what it decides, said of the line itself: `Constraint.Violated` needs only
the names of the variables that the line gives.

Constraints may overlap, so a line can violate several of them.  The one that is
reported is the earliest, and there are two orders to it: what the command declares
comes before what is added later, and what is declared has its exclusive sets first.
-/
import OtpRegistrar.Proofs.Arguments.Grammar

namespace OtpRegistrar

/-! ### The names of arguments -/

/-- Every variable is set by one argument only, and none is called like an option. -/
structure Argument.Distinct (arguments : List Argument) : Prop where
  once : (arguments.map (·.variableName)).Nodup
  apart : ∀ a ∈ arguments, ∀ b ∈ arguments, a.variableName ∉ b.spellings

section Naming

variable {arguments : List Argument}

/-- An argument is found by the variable that it sets. -/
theorem Argument.Distinct.find?_eq (hdistinct : Distinct arguments) {a : Argument}
    (ha : a ∈ arguments) : find? arguments a.variableName = some a := by
  have hsome : (find? arguments a.variableName).isSome = true := by
    unfold find?
    rw [List.find?_isSome]
    exact ⟨a, ha, by simp⟩
  obtain ⟨b, hfind⟩ := Option.isSome_iff_exists.mp hsome
  have hb : b ∈ arguments := List.mem_of_find?_eq_some hfind
  have hnamed := List.find?_some hfind
  have hspelling : a.variableName ∉ b.spellings := hdistinct.apart a ha b hb
  have hsame : a.variableName = b.variableName := by simpa [hspelling] using hnamed
  rw [hfind, ← List.inj_on_of_nodup_map hdistinct.once ha hb hsame]

/-- A variable is named by the primary spelling of its argument. -/
theorem Argument.Distinct.spellingOf_eq (hdistinct : Distinct arguments) {a : Argument}
    (ha : a ∈ arguments) : spellingOf arguments a.variableName = a.spelling := by
  unfold spellingOf
  rw [hdistinct.find?_eq ha]

end Naming

theorem Bindings.has_eq (b : Bindings) (name : Text) :
    b.has name = decide (name ∈ b.map (·.1)) := by
  rw [Bool.eq_iff_iff, has_iff, decide_eq_true_iff]

/-! ### One constraint -/

namespace Constraint

/-- No variable stands twice in an exclusive set. -/
def Simple : Constraint → Prop
  | exclusive _ names => names.Nodup
  | dependent _ _ => True

instance (c : Constraint) : Decidable c.Simple :=
  match c with
  | exclusive _ names => inferInstanceAs (Decidable names.Nodup)
  | dependent _ _ => inferInstanceAs (Decidable True)

/-- The constraint does not hold of a line that gives the variables: two of an exclusive set are
given, or a variable without any of its prerequisites. -/
def Violated (given : List Text) : Constraint → Prop
  | exclusive _ names => ∃ x ∈ names, ∃ y ∈ names, x ≠ y ∧ x ∈ given ∧ y ∈ given
  | dependent name prerequisites => name ∈ given ∧ ∀ p ∈ prerequisites, p ∉ given

/-- The refusal of a line that gives the variables: it names those of an exclusive set that are
given, or the variable with all its prerequisites. -/
def refusal (arguments : List Argument) (given : List Text) : Constraint → Usage
  | exclusive group names =>
    .exclusive group ((names.filter (· ∈ given)).map (Argument.spellingOf arguments))
  | dependent name prerequisites =>
    .dependent (Argument.spellingOf arguments name)
      (prerequisites.map (Argument.spellingOf arguments))

variable {arguments : List Argument} {bound : Bindings} {given : List Text}

/-- What has no two different members has at most one, if it has none twice. -/
theorem at_most_one {names : List Text} (hnodup : names.Nodup)
    (hnone : ¬∃ x ∈ names, ∃ y ∈ names, x ≠ y) : names = [] ∨ ∃ x, names = [x] := by
  match names with
  | [] => exact .inl rfl
  | [x] => exact .inr ⟨x, rfl⟩
  | x :: y :: rest =>
    refine absurd ⟨x, by simp, y, by simp, ?_⟩ hnone
    intro heq
    simp [heq] at hnodup

theorem check_of_violated (hgiven : ∀ name, bound.has name = decide (name ∈ given)) {c : Constraint}
    (hviolated : c.Violated given) :
    check arguments bound c = .error (c.refusal arguments given) := by
  have hhas : bound.has = (fun name => decide (name ∈ given)) := funext hgiven
  cases c with
  | exclusive group names =>
      obtain ⟨x, hx, y, hy, hne, hxgiven, hygiven⟩ := hviolated
      have hxpresent : x ∈ names.filter (· ∈ given) := by simp [hx, hxgiven]
      have hypresent : y ∈ names.filter (· ∈ given) := by simp [hy, hygiven]
      simp only [check, refusal, hhas]
      split
      · rename_i hnone
        rw [hnone] at hxpresent
        cases hxpresent
      · rename_i z hone
        rw [hone, List.mem_singleton] at hxpresent hypresent
        exact absurd (hxpresent.trans hypresent.symm) hne
      · rfl
  | dependent name prerequisites =>
      obtain ⟨hname, hnone⟩ := hviolated
      have hany : prerequisites.any (fun p => decide (p ∈ given)) = false := by
        simpa using hnone
      simp [check, refusal, hhas, hname, hany]

theorem check_of_not_violated (hgiven : ∀ name, bound.has name = decide (name ∈ given))
    {c : Constraint} (hsimple : c.Simple) (hkept : ¬c.Violated given) :
    check arguments bound c = .ok () := by
  have hhas : bound.has = (fun name => decide (name ∈ given)) := funext hgiven
  cases c with
  | exclusive group names =>
      have hnodup : names.Nodup := hsimple
      have hnone : ¬∃ x ∈ names.filter (· ∈ given), ∃ y ∈ names.filter (· ∈ given), x ≠ y := by
        rintro ⟨x, hx, y, hy, hne⟩
        simp only [List.mem_filter, decide_eq_true_eq] at hx hy
        exact hkept ⟨x, hx.1, y, hy.1, hne, hx.2, hy.2⟩
      simp only [check, hhas]
      rcases at_most_one (hnodup.filter _) hnone with hfilter | ⟨x, hfilter⟩ <;> rw [hfilter]
  | dependent name prerequisites =>
      simp only [check, hhas]
      rw [if_pos]
      by_cases hname : name ∈ given
      · have hsome : ∃ p ∈ prerequisites, p ∈ given := by
          by_contra hnone
          exact hkept ⟨hname, fun p hp hpgiven => hnone ⟨p, hp, hpgiven⟩⟩
        simpa [hname] using hsome
      · simp [hname]

/-! ### Several constraints -/

/-- The earliest constraint that is violated, and those before it. -/
structure Earliest (given : List Text) (cs : List Constraint) (c : Constraint) : Prop where
  violated : c.Violated given
  first : ∃ before behind, cs = before ++ c :: behind ∧ ∀ c' ∈ before, ¬c'.Violated given

/-- If anything is violated, there is an earliest. -/
theorem exists_earliest {cs : List Constraint} {c : Constraint} (hc : c ∈ cs)
    (hviolated : c.Violated given) : ∃ c', Earliest given cs c' := by
  induction cs with
  | nil => simp at hc
  | cons d cs ih =>
      by_cases hd : d.Violated given
      · exact ⟨d, hd, [], cs, rfl, by simp⟩
      · have hmem : c ∈ cs := by
          rcases List.mem_cons.mp hc with rfl | hmem
          · exact absurd hviolated hd
          · exact hmem
        obtain ⟨c', hc', before, behind, rfl, hbefore⟩ := ih hmem
        refine ⟨c', hc', d :: before, behind, rfl, ?_⟩
        intro e he
        rcases List.mem_cons.mp he with rfl | he
        · exact hd
        · exact hbefore e he

/-- Constraints ask only whether a variable is bound. -/
theorem checkAll_congr {bound' : Bindings} (hsame : ∀ name, bound'.has name = bound.has name)
    (cs : List Constraint) :
    checkAll arguments bound' cs = checkAll arguments bound cs := by
  have hhas : bound'.has = bound.has := funext hsame
  induction cs with
  | nil => rfl
  | cons c cs ih => simp only [checkAll, check, hhas, ih]

theorem checkAll_append_of_not_violated
    (hgiven : ∀ name, bound.has name = decide (name ∈ given)) {before : List Constraint}
    (hsimple : ∀ c ∈ before, c.Simple) (hkept : ∀ c ∈ before, ¬c.Violated given)
    (behind : List Constraint) :
    checkAll arguments bound (before ++ behind) = checkAll arguments bound behind := by
  induction before with
  | nil => rfl
  | cons c before ih =>
      have hcheck : check arguments bound c = .ok () :=
        check_of_not_violated hgiven (hsimple c (by simp)) (hkept c (by simp))
      rw [List.cons_append, checkAll, hcheck]
      exact ih (fun c' h => hsimple c' (by simp [h])) (fun c' h => hkept c' (by simp [h]))

variable {cs : List Constraint}

theorem checkAll_of_not_violated (hgiven : ∀ name, bound.has name = decide (name ∈ given))
    (hsimple : ∀ c ∈ cs, c.Simple) (hkept : ∀ c ∈ cs, ¬c.Violated given) :
    checkAll arguments bound cs = .ok () := by
  have happend : checkAll arguments bound (cs ++ []) = .ok () :=
    checkAll_append_of_not_violated hgiven hsimple hkept []
  rwa [List.append_nil] at happend

/-- The earliest violation is the one reported. -/
theorem checkAll_of_earliest (hgiven : ∀ name, bound.has name = decide (name ∈ given))
    (hsimple : ∀ c ∈ cs, c.Simple) {c : Constraint} (hearliest : Earliest given cs c) :
    checkAll arguments bound cs = .error (c.refusal arguments given) := by
  obtain ⟨hviolated, before, behind, rfl, hbefore⟩ := hearliest
  rw [checkAll_append_of_not_violated hgiven (fun c' h => hsimple c' (by simp [h])) hbefore,
    checkAll, check_of_violated hgiven hviolated]

/-- **What is reported is the earliest violation**, and nothing else is. -/
theorem checkAll_eq_error_iff (hgiven : ∀ name, bound.has name = decide (name ∈ given))
    (hsimple : ∀ c ∈ cs, c.Simple) {e : Usage} :
    checkAll arguments bound cs = .error e ↔
      ∃ c, Earliest given cs c ∧ e = c.refusal arguments given := by
  constructor
  · intro herror
    by_cases hkept : ∀ c ∈ cs, ¬c.Violated given
    · rw [checkAll_of_not_violated hgiven hsimple hkept] at herror
      cases herror
    · push Not at hkept
      obtain ⟨c, hc, hviolated⟩ := hkept
      obtain ⟨c', hearliest⟩ := exists_earliest hc hviolated
      rw [checkAll_of_earliest hgiven hsimple hearliest] at herror
      exact ⟨c', hearliest, (Except.error.inj herror).symm⟩
  · rintro ⟨c, hearliest, rfl⟩
    exact checkAll_of_earliest hgiven hsimple hearliest

/-- Something is reported if and only if something is violated. -/
theorem checkAll_fails_iff (hgiven : ∀ name, bound.has name = decide (name ∈ given))
    (hsimple : ∀ c ∈ cs, c.Simple) :
    (∃ e, checkAll arguments bound cs = .error e) ↔ ∃ c ∈ cs, c.Violated given := by
  simp only [checkAll_eq_error_iff hgiven hsimple]
  constructor
  · rintro ⟨e, c, ⟨hviolated, before, behind, rfl, -⟩, -⟩
    exact ⟨c, by simp, hviolated⟩
  · rintro ⟨c, hc, hviolated⟩
    obtain ⟨c', hearliest⟩ := exists_earliest hc hviolated
    exact ⟨_, c', hearliest, rfl⟩

/-- Where the check finds nothing, no constraint is violated. -/
theorem not_violated_of_checkAll (hgiven : ∀ name, bound.has name = decide (name ∈ given))
    (hsimple : ∀ c ∈ cs, c.Simple) (hchecked : checkAll arguments bound cs = .ok ())
    {c : Constraint} (hc : c ∈ cs) : ¬c.Violated given := by
  intro hviolated
  obtain ⟨e, herror⟩ := (checkAll_fails_iff hgiven hsimple).mpr ⟨c, hc, hviolated⟩
  rw [herror] at hchecked
  cases hchecked

end Constraint

/-! ### The uses of a parser -/

namespace Parser

open CommandLine

/-- What may be done with a parser. -/
inductive Use where
  | constrain (c : Constraint)
  | read (homes : Homes) (line : List Text)
  | validate

/-- The constraint that is added by a use. -/
def Use.added? : Use → Option Constraint
  | constrain c => some c
  | read _ _ | validate => none

/-- Is a line read? -/
def Use.reads : Use → Bool
  | read _ _ => true
  | constrain _ | validate => false

/-- The parser after a use, whether that fails or not. -/
def use (p : Parser) : Use → Parser
  | .constrain c => p.addConstraint c
  | .read homes line => (p.parse homes line).1
  | .validate => p

/-- The command as it is declared, before anything is read. -/
def declared (arguments : List Argument) (exclusive dependent : List (Text × List Text)) : Parser :=
  ⟨arguments, Constraint.declared exclusive dependent, []⟩

@[simp] theorem use_arguments (p : Parser) (u : Use) : (p.use u).arguments = p.arguments := by
  cases u <;> rfl

/-- A use adds its constraint behind the others. -/
theorem use_constraints (p : Parser) (u : Use) :
    (p.use u).constraints = p.constraints ++ u.added?.toList := by
  cases u with
  | constrain c => rfl
  | read homes line => exact (List.append_nil _).symm
  | validate => exact (List.append_nil _).symm

/-- What a line has bound stays until another is read. -/
theorem use_bound (p : Parser) {u : Use} (hquiet : u.reads = false) :
    (p.use u).bound = p.bound := by
  cases u with
  | constrain c => rfl
  | read homes line => cases hquiet
  | validate => rfl

theorem uses_arguments (p : Parser) (us : List Use) :
    (us.foldl use p).arguments = p.arguments := by
  induction us generalizing p with
  | nil => rfl
  | cons u us ih => rw [List.foldl_cons, ih, use_arguments]

theorem uses_constraints (p : Parser) (us : List Use) :
    (us.foldl use p).constraints = p.constraints ++ us.filterMap Use.added? := by
  induction us generalizing p with
  | nil => simp
  | cons u us ih =>
      rw [List.foldl_cons, ih, use_constraints]
      cases hadded : u.added? <;> simp [hadded]

theorem uses_bound (p : Parser) {us : List Use} (hquiet : ∀ u ∈ us, u.reads = false) :
    (us.foldl use p).bound = p.bound := by
  induction us generalizing p with
  | nil => rfl
  | cons u us ih =>
      rw [List.foldl_cons, ih _ (fun v hv => hquiet v (by simp [hv])),
        use_bound p (hquiet u (by simp))]

/-- A declared command after some uses. -/
def used (arguments : List Argument) (exclusive dependent : List (Text × List Text))
    (us : List Use) : Parser :=
  us.foldl use (declared arguments exclusive dependent)

section Used

variable {arguments : List Argument} {exclusive dependent : List (Text × List Text)}
  {before behind : List Use} {homes homes' : Homes} {line line' : List Text}
  {pieces pieces' : List (Piece arguments)}

/-- The constraints stand in the order in which they were declared and added. -/
theorem used_constraints (us : List Use) :
    (used arguments exclusive dependent us).constraints =
      Constraint.declared exclusive dependent ++ us.filterMap Use.added? :=
  uses_constraints _ us

/-- Reading a line neither adds a constraint nor takes one away. -/
theorem used_constraints_read (homes : Homes) (line : List Text) :
    (used arguments exclusive dependent (before ++ .read homes line :: behind)).constraints =
      Constraint.declared exclusive dependent ++ (before ++ behind).filterMap Use.added? := by
  have hnone : (Use.read homes line).added? = none := rfl
  simp [used_constraints, hnone]

theorem used_parse (us : List Use) (homes : Homes) (line : List Text) :
    ((used arguments exclusive dependent us).parse homes line).2 =
      (CommandLine.read homes arguments line).2 := by
  have harguments : (used arguments exclusive dependent us).arguments = arguments :=
    uses_arguments _ us
  unfold parse
  rw [harguments]

/-- What stands bound is what the last line has bound. -/
theorem used_bound (hquiet : ∀ u ∈ behind, u.reads = false) :
    (used arguments exclusive dependent (before ++ .read homes line :: behind)).bound =
      (CommandLine.read homes arguments line).1 := by
  have harguments : (used arguments exclusive dependent before).arguments = arguments :=
    uses_arguments _ before
  have hsplit : used arguments exclusive dependent (before ++ .read homes line :: behind) =
      behind.foldl use ((used arguments exclusive dependent before).parse homes line).1 := by
    unfold used
    rw [List.foldl_append, List.foldl_cons]
    rfl
  rw [hsplit, uses_bound _ hquiet]
  unfold parse
  rw [harguments]

theorem read_of_taken (hline : Grammatical line pieces) (htaken : pieces.all Piece.taken = true) :
    CommandLine.read homes arguments line = (pieces.map (Piece.binding homes), .ok ()) := by
  rw [read_of_grammatical hline, if_pos htaken]

theorem used_bound_of_taken (hquiet : ∀ u ∈ behind, u.reads = false)
    (hline : Grammatical line pieces) (htaken : pieces.all Piece.taken = true) :
    (used arguments exclusive dependent (before ++ .read homes line :: behind)).bound =
      pieces.map (Piece.binding homes) := by
  rw [used_bound hquiet, read_of_taken hline htaken]

/-- A variable is bound if and only if it is one of those that the pieces name. -/
theorem has_map_binding (homes : Homes) (pieces : List (Piece arguments)) (name : Text) :
    Bindings.has (pieces.map (Piece.binding homes)) name =
      decide (name ∈ pieces.map Piece.name) := by
  rw [Bindings.has_eq, map_fst_binding]

/-- Validating looks at nothing but the constraints and at what is given. -/
theorem used_validate (hquiet : ∀ u ∈ behind, u.reads = false) (hline : Grammatical line pieces)
    (htaken : pieces.all Piece.taken = true) :
    (used arguments exclusive dependent (before ++ .read homes line :: behind)).validate =
      Constraint.checkAll arguments (pieces.map (Piece.binding homes))
        (Constraint.declared exclusive dependent ++ (before ++ behind).filterMap Use.added?) := by
  have harguments :
      (used arguments exclusive dependent (before ++ .read homes line :: behind)).arguments =
        arguments := uses_arguments _ _
  unfold validate
  rw [harguments, used_bound_of_taken hquiet hline htaken, used_constraints_read]

end Used

/-- A command with arguments that have aliases. -/
def colorSyntax : Text := "--red|-r :red=True: --green|-g :green: --blue|-b :blue=True:"

def colorArguments : List Argument :=
  [⟨"--red", ["-r"], "red", some "True", false, false, false⟩,
   ⟨"--green", ["-g"], "green", none, false, false, false⟩,
   ⟨"--blue", ["-b"], "blue", some "True", false, false, false⟩]

/-- Exclusive sets that have a member in common. -/
def colorSets : List (Text × List Text) :=
  [("warm", ["red", "white"]), ("plain", ["red", "green"]), ("cold", ["blue", "green"])]

/-- What is done before a line is read, and behind it. -/
def colorUses : List Use :=
  [.read (.own []) ["--blue"], .constrain (.exclusive "bright" ["blue", "red"])]

end Parser

end OtpRegistrar
