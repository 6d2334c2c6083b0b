/-
Assignments made one after the other.

The options of a command line are assigned in their order, and so are the values of a
file, and both stop at the first that is rejected.  What they have in common is
`assignAll`.  The command line notes a name before it assigns it, which changes no value
and which no assignment depends on; and what a file assigns depends on nothing that its
own assignments change, so that all of it can be told beforehand.

Everything about the values that options and files leave is therefore said once, of
`assignAll`.
-/
import OtpRegistrar.Proofs.Config.Made

namespace OtpRegistrar.Config

/-- The variable that could not be set, where a flaw tells of one. -/
def Flaw.rejected? : Flaw → Option Text
  | .unknownVariable name => some name
  | .wrongType name _ _ => some name
  | .variableTaken name => some name
  | .parameter _ cause => cause.rejected?
  | .parameterTaken _ | .missingFile _ | .unreadableFile _ | .logging _ => none

/-- Assigns variables in order, up to the first that cannot be assigned. -/
def assignAll (c : Config) : List (Text × Value) → Config × Except Flaw Unit
  | [] => (c, .ok ())
  | (name, value) :: rest =>
    match c.set name value with
    | .error f => (c, .error f)
    | .ok c => c.assignAll rest

variable {c c' : Config} {name other : Text} {value : Value} {f : Flaw}

theorem rejected?_of_set (hset : c.set name value = .error f) : f.rejected? = some name := by
  unfold set at hset
  split at hset
  · cases hset
    rfl
  · split at hset
    · cases hset
    · cases hset
      rfl

/-- What is noted of a configuration is no matter for an assignment. -/
theorem set_noted (c : Config) (names : List Text) (name : Text) (value : Value) :
    ({ c with overridden := names } : Config).set name value =
      (c.set name value).map fun c => { c with overridden := names } := by
  unfold set
  dsimp only
  split
  · rfl
  · split
    · rfl
    · rfl

/-! ### All of the assignments -/

section

variable {assigned : List (Text × Value)}

/-- Assignments change values alone. -/
theorem assignAll_eq (c : Config) (assigned : List (Text × Value)) :
    (c.assignAll assigned).1 = { c with values := (c.assignAll assigned).1.values } := by
  induction assigned generalizing c with
  | nil => rfl
  | cons a rest ih =>
      obtain ⟨name, value⟩ := a
      rw [assignAll]
      split
      · rfl
      · rename_i c₁ hset
        rw [ih c₁, types_set hset, parameters_set hset, overridden_set hset]

theorem get?_assignAll_of_not_mem (hnone : other ∉ assigned.map (·.1)) :
    (c.assignAll assigned).1.get? other = c.get? other := by
  induction assigned generalizing c with
  | nil => rfl
  | cons a rest ih =>
      obtain ⟨name, value⟩ := a
      rw [List.map_cons, List.mem_cons, not_or] at hnone
      rw [assignAll]
      split
      · rfl
      · rename_i c₁ hset
        rw [ih hnone.2, get?_set hset hnone.1]

/-- If none is rejected, every variable that is assigned once has the value it is assigned. -/
theorem get?_assignAll (hnames : (assigned.map (·.1)).Nodup)
    (hok : (c.assignAll assigned).2 = .ok ()) (hmem : (name, value) ∈ assigned) :
    (c.assignAll assigned).1.get? name = some value := by
  induction assigned generalizing c with
  | nil => cases hmem
  | cons a rest ih =>
      obtain ⟨n, v⟩ := a
      obtain ⟨hnew, hrest⟩ := List.nodup_cons.mp hnames
      rw [assignAll] at hok ⊢
      split at hok
      · cases hok
      · rename_i c₁ hset
        rcases List.mem_cons.mp hmem with heq | hmem
        · cases heq
          rw [get?_assignAll_of_not_mem hnew, get?_set_self hset]
        · exact ih hrest hok hmem

/-- **A rejected assignment leaves the old value in place**, the one from before all assignments, if
every variable is assigned once. -/
theorem get?_assignAll_of_rejected (hnames : (assigned.map (·.1)).Nodup)
    (herror : (c.assignAll assigned).2 = .error f) (hname : f.rejected? = some name) :
    name ∈ assigned.map (·.1) ∧ (c.assignAll assigned).1.get? name = c.get? name := by
  induction assigned generalizing c with
  | nil => cases herror
  | cons a rest ih =>
      obtain ⟨n, v⟩ := a
      obtain ⟨hnew, hrest⟩ := List.nodup_cons.mp hnames
      rw [assignAll] at herror ⊢
      split at herror
      · rename_i hset
        cases herror
        rw [rejected?_of_set hset] at hname
        cases hname
        exact ⟨by simp, rfl⟩
      · rename_i c₁ hset
        obtain ⟨hmem, hkept⟩ := ih hrest herror
        have hne : name ≠ n := fun heq => hnew (heq ▸ hmem)
        exact ⟨List.mem_cons_of_mem _ hmem, hkept.trans (get?_set hset hne)⟩

end

/-! ### Options -/

theorem assignAll_noted (c : Config) (names : List Text) (assigned : List (Text × Value)) :
    ({ c with overridden := names } : Config).assignAll assigned =
      ({ (c.assignAll assigned).1 with overridden := names }, (c.assignAll assigned).2) := by
  induction assigned generalizing c with
  | nil => rfl
  | cons a rest ih =>
      obtain ⟨name, value⟩ := a
      rw [assignAll, assignAll, set_noted]
      cases c.set name value with
      | error f => rfl
      | ok c₁ => exact ih c₁

/-- **The command line assigns its options**, and notes their names; all of them, if none is
rejected. -/
theorem override_eq (c : Config) (options : List (Text × Value)) :
    ∃ noted, c.override options =
        ({ (c.assignAll options).1 with overridden := c.overridden ++ noted },
          (c.assignAll options).2) ∧
      ((c.assignAll options).2 = .ok () → noted = options.map (·.1)) := by
  induction options generalizing c with
  | nil => exact ⟨[], by simp [override, assignAll], fun _ => rfl⟩
  | cons option rest ih =>
      obtain ⟨name, value⟩ := option
      rw [override, assignAll]
      dsimp only
      rw [set_noted]
      cases hset : c.set name value with
      | error f => exact ⟨[name], rfl, fun hok => nomatch hok⟩
      | ok c₁ =>
          obtain ⟨noted, hrest, hall⟩ := ih { c₁ with overridden := c.overridden ++ [name] }
          rw [assignAll_noted] at hrest hall
          refine ⟨name :: noted, ?_, fun hok => by rw [hall hok, List.map_cons]⟩
          dsimp only [Except.map]
          rw [hrest, List.append_assoc, List.singleton_append]

section

variable {options : List (Text × Value)}

/-- Options that are all accepted leave their assignments, and their names noted. -/
theorem eq_of_override (hoptions : c.override options = (c', .ok ())) :
    (c.assignAll options).2 = .ok () ∧
      c' = { (c.assignAll options).1 with overridden := c.overridden ++ options.map (·.1) } := by
  obtain ⟨noted, heq, hall⟩ := override_eq c options
  rw [heq] at hoptions
  obtain ⟨rfl, hok⟩ := Prod.mk.inj hoptions
  rw [hall hok]
  exact ⟨hok, rfl⟩

theorem overridden_override (hoptions : c.override options = (c', .ok ())) :
    c'.overridden = c.overridden ++ options.map (·.1) := by
  rw [(eq_of_override hoptions).2]

theorem get?_override (hoptions : c.override options = (c', .ok ()))
    (hnames : (options.map (·.1)).Nodup) (hmem : (name, value) ∈ options) :
    c'.get? name = some value := by
  obtain ⟨hok, rfl⟩ := eq_of_override hoptions
  exact get?_assignAll hnames hok hmem

theorem get?_override_of_not_mem (hoptions : c.override options = (c', .ok ()))
    (hnone : name ∉ options.map (·.1)) : c'.get? name = c.get? name := by
  rw [(eq_of_override hoptions).2]
  exact get?_assignAll_of_not_mem hnone

/-- A rejected option leaves the old value in place. -/
theorem get?_override_of_rejected (hoptions : c.override options = (c', .error f))
    (hnames : (options.map (·.1)).Nodup) (hname : f.rejected? = some name) :
    c'.get? name = c.get? name := by
  obtain ⟨noted, heq, -⟩ := override_eq c options
  rw [heq] at hoptions
  obtain ⟨rfl, herror⟩ := Prod.mk.inj hoptions
  exact (get?_assignAll_of_rejected hnames herror hname).2

end

/-! ### Parameters of a file -/

section

/-- What a parameter with a value assigns, if it is not passed over. -/
def assignment? (c : Config) (entry : Text × Value) : Option (Text × Value) :=
  match find? c.parameters entry.1 with
  | none => none
  | some name =>
    if isVoid entry.2 || c.overridden.contains name then none
    else some (name, convert ((find? c.types name).getD []) entry.2)

/-- What the parameters of a file assign. -/
def assignments (c : Config) (entries : List (Text × Value)) : List (Text × Value) :=
  entries.filterMap c.assignment?

variable {entry : Text × Value} {entries : List (Text × Value)} {parameter : Text}

theorem assignment?_eq_some_iff :
    c.assignment? entry = some (name, value) ↔
      find? c.parameters entry.1 = some name ∧ isVoid entry.2 = false ∧ name ∉ c.overridden ∧
        convert ((find? c.types name).getD []) entry.2 = value := by
  unfold assignment?
  cases find? c.parameters entry.1 with
  | none => simp
  | some n =>
      dsimp only
      split
      · rename_i hpassed
        simp only [reduceCtorEq, Option.some.injEq, false_iff, not_and]
        rintro rfl hvoid hfree
        simp [hvoid, hfree] at hpassed
      · rename_i hused
        simp only [Bool.or_eq_true, List.contains_iff_mem, not_or, Bool.not_eq_true] at hused
        constructor
        · intro heq
          cases heq
          exact ⟨rfl, hused.1, hused.2, rfl⟩
        · rintro ⟨heq, -, -, rfl⟩
          cases heq
          rfl

/-- A variable is assigned by a parameter that stands for it, unless the value is void or the
command line has set the variable. -/
theorem mem_assignments_iff :
    (name, value) ∈ c.assignments entries ↔
      ∃ entry ∈ entries, find? c.parameters entry.1 = some name ∧ isVoid entry.2 = false ∧
        name ∉ c.overridden ∧ convert ((find? c.types name).getD []) entry.2 = value := by
  simp only [assignments, List.mem_filterMap, assignment?_eq_some_iff]

/-- A file assigns nothing that the command line has set. -/
theorem not_mem_assignments_of_overridden (hset : name ∈ c.overridden) :
    name ∉ (c.assignments entries).map (·.1) := by
  intro hmem
  obtain ⟨⟨_, value⟩, hassigned, rfl⟩ := List.mem_map.mp hmem
  obtain ⟨entry, -, -, -, hfree, -⟩ := mem_assignments_iff.mp hassigned
  exact hfree hset

/-- Every variable is assigned once, if it has one parameter and every parameter one value. -/
theorem nodup_assignments (hsingle : (c.parameters.map (·.2)).Nodup)
    (hentries : (entries.map (·.1)).Nodup) : ((c.assignments entries).map (·.1)).Nodup := by
  rw [List.Nodup, List.pairwise_map] at hentries ⊢
  refine List.Pairwise.filterMap c.assignment? (fun e e' hne a ha a' ha' hsame => hne ?_) hentries
  obtain ⟨name, value⟩ := a
  obtain ⟨name', value'⟩ := a'
  obtain rfl : name = name' := hsame
  have hfound := mem_of_find? (assignment?_eq_some_iff.mp ha).1
  have hfound' := mem_of_find? (assignment?_eq_some_iff.mp ha').1
  exact (Prod.mk.inj (List.inj_on_of_nodup_map hsingle hfound hfound' rfl)).1

/-- What a file assigns does not depend on values. -/
theorem assignments_set (hset : c.set name value = .ok c') (entries : List (Text × Value)) :
    c'.assignments entries = c.assignments entries := by
  unfold assignments assignment?
  rw [types_set hset, parameters_set hset, overridden_set hset]

/-- **A file assigns what its parameters say**, and of a rejected assignment it names the
parameter. -/
theorem applyFile_eq (c : Config) (entries : List (Text × Value)) :
    (c.applyFile entries).1 = (c.assignAll (c.assignments entries)).1 ∧
      ∃ parameter, (c.applyFile entries).2.2 =
        (c.assignAll (c.assignments entries)).2.mapError (.parameter parameter) := by
  induction entries generalizing c with
  | nil => exact ⟨rfl, [], rfl⟩
  | cons entry rest ih =>
      obtain ⟨parameter, value⟩ := entry
      rw [applyFile]
      cases hname : find? c.parameters parameter with
      | none =>
          have hpassed : c.assignments ((parameter, value) :: rest) = c.assignments rest :=
            List.filterMap_cons_none (by simp only [assignment?, hname])
          rw [hpassed]
          exact ih c
      | some name =>
          dsimp only
          split
          · rename_i hvoid
            have hpassed : c.assignments ((parameter, value) :: rest) = c.assignments rest :=
              List.filterMap_cons_none (by simp only [assignment?, hname, if_pos hvoid])
            rw [hpassed]
            exact ih c
          · rename_i hused
            have hassigned : c.assignments ((parameter, value) :: rest) =
                (name, convert ((find? c.types name).getD []) value) :: c.assignments rest :=
              List.filterMap_cons_some (by simp only [assignment?, hname, if_neg hused])
            rw [hassigned, assignAll]
            cases hset : c.set name (convert ((find? c.types name).getD []) value) with
            | error f => exact ⟨rfl, parameter, rfl⟩
            | ok c₁ =>
                dsimp only
                rw [← assignments_set hset rest]
                exact ih c₁

variable {unknown : List Text} {outcome : Except Flaw Unit}

theorem eq_of_applyFile (hfile : c.applyFile entries = (c', unknown, outcome)) :
    c' = (c.assignAll (c.assignments entries)).1 ∧
      ∃ parameter, outcome = (c.assignAll (c.assignments entries)).2.mapError
        (.parameter parameter) := by
  have heq := applyFile_eq c entries
  rwa [hfile] at heq

theorem overridden_applyFile (hfile : c.applyFile entries = (c', unknown, outcome)) :
    c'.overridden = c.overridden := by
  rw [(eq_of_applyFile hfile).1, assignAll_eq]

theorem get?_applyFile_of_not_mem (hfile : c.applyFile entries = (c', unknown, outcome))
    (hnone : name ∉ (c.assignments entries).map (·.1)) : c'.get? name = c.get? name := by
  rw [(eq_of_applyFile hfile).1]
  exact get?_assignAll_of_not_mem hnone

theorem get?_applyFile (hfile : c.applyFile entries = (c', unknown, .ok ()))
    (hsingle : (c.parameters.map (·.2)).Nodup) (hentries : (entries.map (·.1)).Nodup)
    (hmem : (name, value) ∈ c.assignments entries) : c'.get? name = some value := by
  obtain ⟨rfl, parameter, houtcome⟩ := eq_of_applyFile hfile
  cases hok : (c.assignAll (c.assignments entries)).2 with
  | error f =>
      rw [hok] at houtcome
      cases houtcome
  | ok _ => exact get?_assignAll (nodup_assignments hsingle hentries) hok hmem

/-- A rejected value of a file leaves the old one in place. -/
theorem get?_applyFile_of_rejected (hfile : c.applyFile entries = (c', unknown, .error f))
    (hsingle : (c.parameters.map (·.2)).Nodup) (hentries : (entries.map (·.1)).Nodup)
    (hname : f.rejected? = some name) :
    name ∈ (c.assignments entries).map (·.1) ∧ c'.get? name = c.get? name := by
  obtain ⟨rfl, parameter, houtcome⟩ := eq_of_applyFile hfile
  cases herror : (c.assignAll (c.assignments entries)).2 with
  | error cause =>
      rw [herror] at houtcome
      cases houtcome
      exact get?_assignAll_of_rejected (nodup_assignments hsingle hentries) herror hname
  | ok _ =>
      rw [herror] at houtcome
      cases houtcome

end

end OtpRegistrar.Config
