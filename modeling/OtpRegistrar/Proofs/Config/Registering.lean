/-
What a registration that fails leaves behind.

A registration looks whether its name is free, enters the types, assigns the first value,
and looks whether the parameter is free.  It takes nothing back.  `Refused` lists where it
can stop and what has been entered by then: nothing only if the name was not free.

What has been entered stays for good.  No call gives a name free again, because the table
of types only grows: the others assign values and note names, and a registration appends.
So it is told call by call, for any configuration, orderly or not, and from that for any
number of calls.
-/
import OtpRegistrar.Proofs.Config.FromFile

namespace OtpRegistrar

namespace Config

section

variable {c c' : Config} {name other : Text} {types : List VarType} {value : Value}
  {parameter : Option Text} {f : Flaw}

/-! ### Where a registration stops -/

theorem find?_append_of_ne {α : Type} (hne : other ≠ name) (table : List (Text × α)) (x : α) :
    find? (table ++ [(name, x)]) other = find? table other := by
  unfold find?
  rw [List.find?_append, List.find?_singleton, if_neg (by simpa using hne.symm), Option.or_none]

/-- Where a registration stops, why, and what it leaves. -/
inductive Refused (c : Config) (name : Text) (types : List VarType) (value : Value) :
    Option Text → Flaw → Config → Prop
  /-- The name is taken. -/
  | nameTaken {parameter : Option Text} (htaken : (find? c.types name).isSome = true) :
      Refused c name types value parameter (.variableTaken name) c
  /-- The first value is of none of the types, which have been entered. -/
  | wrongType {parameter : Option Text} (hfree : find? c.types name = none)
      (hwrong : allows types value = false) :
      Refused c name types value parameter (.wrongType name types value.kind.shown)
        { c with types := c.types ++ [(name, types)] }
  /-- The parameter is taken; the types and the value have been entered. -/
  | parameterTaken {p : Text} (hfree : find? c.types name = none)
      (hallowed : allows types value = true) (hnamed : p ≠ [])
      (htaken : (find? c.parameters p).isSome = true) :
      Refused c name types value (some p) (.parameterTaken p)
        { c with types := c.types ++ [(name, types)], values := put name value c.values }

/-- The first value is assigned as any other is, to the types that have just been entered. -/
theorem set_typed (hfree : find? c.types name = none) (types : List VarType) (value : Value) :
    ({ c with types := c.types ++ [(name, types)] } : Config).set name value =
      if allows types value then
        .ok { c with types := c.types ++ [(name, types)], values := put name value c.values }
      else .error (.wrongType name types value.kind.shown) := by
  unfold set
  rw [find?_append_self (find?_eq_none_iff.mp hfree)]

/-- **A registration fails in one of these ways and in no other.** -/
theorem register_error_iff :
    c.register name types value parameter = (c', .error f) ↔
      c.Refused name types value parameter f c' := by
  unfold register
  constructor
  · intro hregister
    split at hregister
    · rename_i htaken
      cases hregister
      exact .nameTaken htaken
    rename_i hfree
    rw [Option.not_isSome_iff_eq_none] at hfree
    dsimp only at hregister
    rw [set_typed hfree] at hregister
    by_cases hallowed : allows types value = true
    · rw [if_pos hallowed] at hregister
      dsimp only at hregister
      split at hregister
      · cases hregister
      · cases hregister
      · rename_i p hnamed
        split at hregister
        · rename_i htaken
          cases hregister
          exact .parameterTaken hfree hallowed (fun heq => hnamed heq) htaken
        · cases hregister
    · rw [if_neg hallowed] at hregister
      cases hregister
      exact .wrongType hfree (Bool.eq_false_iff.mpr hallowed)
  · rintro (htaken | ⟨hfree, hwrong⟩ | ⟨hfree, hallowed, hnamed, htaken⟩)
    · rw [if_pos htaken]
    · rw [if_neg (by simp [hfree])]
      dsimp only
      rw [set_typed hfree, hwrong]
      rfl
    · rw [if_neg (by simp [hfree])]
      dsimp only
      rw [set_typed hfree, if_pos hallowed]
      dsimp only
      split
      · rename_i hnone
        cases hnone
      · rename_i hempty
        exact absurd (Option.some.inj hempty) hnamed
      · rename_i p' _ hp'
        cases hp'
        rw [if_pos htaken]

theorem register_of_taken (htaken : (find? c.types name).isSome = true) :
    c.register name types value parameter = (c, .error (.variableTaken name)) :=
  register_error_iff.mpr (.nameTaken htaken)

namespace Refused

/-- Whatever stopped the registration, the name is taken then. -/
theorem isSome (hrefused : c.Refused name types value parameter f c') :
    (find? c'.types name).isSome = true := by
  cases hrefused with
  | nameTaken htaken => exact htaken
  | wrongType hfree _ | parameterTaken hfree _ _ _ =>
      rw [find?_append_self (find?_eq_none_iff.mp hfree)]
      rfl

/-- Nothing has been entered only if the name was taken before. -/
theorem eq_iff (hrefused : c.Refused name types value parameter f c') :
    c' = c ↔ (find? c.types name).isSome = true := by
  cases hrefused with
  | nameTaken htaken => exact iff_of_true rfl htaken
  | wrongType hfree _ | parameterTaken hfree _ _ _ =>
      refine iff_of_false (fun hsame => ?_) (by simp [hfree])
      have hlength := congrArg (·.types.length) hsame
      simp at hlength

/-- The other variables are as they were. -/
theorem others (hrefused : c.Refused name types value parameter f c') (hne : other ≠ name) :
    find? c'.types other = find? c.types other ∧ c'.get? other = c.get? other := by
  cases hrefused with
  | nameTaken _ => exact ⟨rfl, rfl⟩
  | wrongType _ _ => exact ⟨find?_append_of_ne hne _ _, rfl⟩
  | parameterTaken _ _ _ _ =>
      exact ⟨find?_append_of_ne hne _ _, find?_put name other value hne c.values⟩

/-- No parameter is entered. -/
theorem eq (hrefused : c.Refused name types value parameter f c') :
    c' = { c with types := c'.types, values := c'.values } := by
  cases hrefused <;> rfl

/-- The value is entered if it was the parameter that was taken. -/
theorem get? (hrefused : c.Refused name types value parameter f c') :
    c'.get? name =
      if f.isTaken && (find? c.types name).isNone then some value else c.get? name := by
  cases hrefused with
  | nameTaken htaken => simp [Option.isSome_iff_ne_none.mp htaken]
  | wrongType _ _ => rfl
  | parameterTaken hfree _ _ _ =>
      rw [hfree]
      exact find?_put_self name value c.values

end Refused

end

end Config

/-! ### Names stay taken -/

/-- The one host has all variables of the other, in the same places. -/
def Host.Grows (h h' : Host) : Prop := h.config.types <+: h'.config.types

instance : IsPreorder Host Host.Grows where
  refl _ := List.prefix_rfl
  trans _ _ _ hab hbc := hab.trans hbc

theorem Host.grows_of_eq {h h' : Host} (hsame : h'.config.types = h.config.types) : h.Grows h' :=
  ⟨[], by rw [List.append_nil, hsame]⟩

theorem Host.Grows.isSome {h h' : Host} (hgrows : h.Grows h') {name : Text}
    (htaken : (Config.find? h.config.types name).isSome = true) :
    (Config.find? h'.config.types name).isSome = true := by
  obtain ⟨more, hmore⟩ := hgrows
  obtain ⟨types, hfound⟩ := Option.isSome_iff_exists.mp htaken
  rw [← hmore, Config.find?_append_of_some hfound more]
  rfl

namespace Action

theorem runOn_registerVariable (name : Text) (types : List VarType) (value : Value)
    (parameter : Option Text) (h : Host) :
    (registerVariable name types value parameter).runOn h =
      ((h.config.register name types value parameter).2.mapError .config,
        { h with config := (h.config.register name types value parameter).1 }) := rfl

theorem grows_registerVariable (name : Text) (types : List VarType) (value : Value)
    (parameter : Option Text) :
    Keeps Host.Grows (registerVariable name types value parameter) := by
  intro h
  show h.config.types <+: (h.config.register name types value parameter).1.types
  unfold Config.register
  split
  · exact List.prefix_rfl
  dsimp only
  split
  · exact List.prefix_append _ _
  · rename_i c hset
    have htypes : h.config.types <+: c.types := Config.types_set hset ▸ List.prefix_append _ _
    split
    · exact htypes
    · exact htypes
    · split <;> exact htypes

theorem grows_configure (name : Text) (value : Value) :
    Keeps Host.Grows (configure name value) := by
  intro h
  cases hset : h.config.set name value with
  | ok c =>
      rw [runOn_configure_ok hset]
      exact Host.grows_of_eq (Config.types_set hset)
  | error f =>
      rw [runOn_configure_error hset]
      exact List.prefix_rfl

theorem grows_useLanguage (v : Value) : Keeps Host.Grows (useLanguage v) := by
  unfold useLanguage
  split
  · exact Keeps.pure _
  · exact Keeps.fail _

theorem grows_applyParameters (entries : ConfigFile.Entries) :
    Keeps Host.Grows (applyParameters entries) := by
  intro h
  obtain ⟨h', hrun, hconfig⟩ := runOn_applyParameters entries h
  rcases hfile : h.config.applyFile entries with ⟨c, unknown, outcome⟩
  rw [hrun]
  rw [hfile] at hconfig
  refine Host.grows_of_eq ?_
  rw [hconfig, (Config.eq_of_applyFile hfile).1, Config.assignAll_eq]

theorem grows_loadConfig (options : List (Text × Value)) (quiet : Bool) :
    Keeps Host.Grows (loadConfig options quiet) := by
  have hoverride : Keeps Host.Grows (override options) := fun h =>
    Host.grows_of_eq (Config.override_tables h.config options).1
  have hread : Keeps Host.Grows (readConfigFile quiet) := fun h =>
    Host.grows_of_eq (congrArg Config.types (reads_readConfigFile quiet h).config)
  have hsettle : Keeps Host.Grows settleTracebacks := by
    refine Keeps.bind (Keeps.configured _) fun v => ?_
    split
    · exact grows_configure _ _
    · exact Keeps.pure _
  refine Keeps.bind (grows_useLanguage _) fun _ => Keeps.bind hoverride fun _ =>
    Keeps.bind hread fun entries => Keeps.bind (grows_configure _ _) fun _ =>
    Keeps.bind (grows_applyParameters entries) fun _ => Keeps.bind hsettle fun _ =>
    Keeps.bind (Keeps.configured _) fun v => grows_useLanguage v

end Action

namespace Config

/-- **No call gives a name free again.** -/
theorem Call.grows (call : Call) : Action.Keeps Host.Grows call.action := by
  cases call with
  | register name types value parameter =>
      exact Action.grows_registerVariable name types value parameter
  | assign name value =>
      show Action.Keeps Host.Grows (Action.assign name value)
      rw [assign_eq_configure name.property]
      exact Action.grows_configure name value
  | load files options quiet =>
      exact Action.Keeps.bind (fun h => List.prefix_rfl) fun _ => Action.grows_loadConfig _ quiet
  | debugLevel slot level =>
      have hlevels : Action.Keeps Host.Grows Action.debugLevels := fun h =>
        Host.grows_of_eq (congrArg Config.types (reads_debugLevels h).config)
      have hlevel : Action.Keeps Host.Grows (Action.debugLevel slot) := fun h =>
        Host.grows_of_eq (congrArg Config.types (reads_debugLevel slot h).config)
      cases level with
      | null => exact Action.Keeps.bind hlevel fun _ => Action.Keeps.pure _
      | _ => exact Action.Keeps.bind hlevels fun _ => Action.grows_configure _ _

theorem grows_after (calls : List Call) (h : Host) : h.Grows (after calls h) := by
  induction calls generalizing h with
  | nil => exact List.prefix_rfl
  | cons call rest ih => exact (call.grows h).trans (ih _)

/-! ### What is left -/

/-- What is left on a host of a registration that failed. -/
structure Leftover (h : Host) (name : Text) (h' : Host) : Prop where
  /-- Nothing is left if the name was taken, and only then. -/
  nothing : h' = h ↔ (find? h.config.types name).isSome = true
  /-- What is left concerns the variable alone. -/
  confined : h' = { h with config :=
    { h.config with types := h'.config.types, values := h'.config.values } }
  others : ∀ other, other ≠ name → find? h'.config.types other = find? h.config.types other ∧
    h'.config.get? other = h.config.get? other
  /-- However many calls are made, the name cannot be registered any more. -/
  taken : ∀ (calls : List Call) (types : List VarType) (value : Value) (parameter : Option Text),
    (Action.registerVariable name types value parameter).runOn (after calls h') =
      (.error (.config (.variableTaken name)), after calls h')

theorem Refused.leftover {h : Host} {c' : Config} {name : Text} {types : List VarType}
    {value : Value} {parameter : Option Text} {f : Flaw}
    (hrefused : h.config.Refused name types value parameter f c') :
    Leftover h name { h with config := c' } where
  nothing := by
    rw [← hrefused.eq_iff]
    exact ⟨fun hsame => congrArg Host.config hsame, fun hsame => by rw [hsame]⟩
  confined := congrArg (fun config : Config => { h with config }) hrefused.eq
  others := fun other hne => hrefused.others hne
  taken := fun calls types value parameter => by
    have htaken := (grows_after calls { h with config := c' }).isSome hrefused.isSome
    rw [Action.runOn_registerVariable, register_of_taken htaken]
    rfl

/-- **A registration that fails leaves what it has entered.** If the name was free then its types
stay, and its value too if it was the parameter that was taken; no call after it gives the name free
again. Nothing is left, as nothing should be, if the name was taken before. -/
theorem registration_leaves {h h' : Host} {name : Text} {types : List VarType} {value : Value}
    {parameter : Option Text} {fault : Fault}
    (hrun : (Action.registerVariable name types value parameter).runOn h = (.error fault, h')) :
    (∃ f, fault = .config f ∧ h.config.Refused name types value parameter f h'.config ∧
      h'.config.get? name =
        if f.isTaken && (find? h.config.types name).isNone then some value
        else h.config.get? name) ∧
    Leftover h name h' := by
  rw [Action.runOn_registerVariable] at hrun
  rcases hregister : h.config.register name types value parameter with ⟨c', outcome⟩
  rw [hregister] at hrun
  cases outcome with
  | ok _ => cases hrun
  | error f =>
      cases hrun
      have hrefused := register_error_iff.mp hregister
      exact ⟨⟨f, rfl, hrefused, hrefused.get?⟩, hrefused.leftover⟩

theorem runOn_of_refused {h : Host} {c' : Config} {name : Text} {types : List VarType}
    {value : Value} {parameter : Option Text} {f : Flaw}
    (hrefused : h.config.Refused name types value parameter f c') :
    (Action.registerVariable name types value parameter).runOn h =
      (.error (.config f), { h with config := c' }) := by
  rw [Action.runOn_registerVariable, register_error_iff.mpr hrefused]
  rfl

/-- A name that no variable of the tool has. -/
def batchName : Text := "batch_size"

theorem batchName_free : find? startedHost.config.types batchName = none := by decide +kernel

/-- The parameter of the directory's host is taken, but the first value has been entered by then. -/
theorem registration_leaves_value :
    ∃ f h',
      (Action.registerVariable batchName [.int] (.int 5) (some "LDAP_HOST")).runOn startedHost =
        (.error f, h') ∧
      h'.config.get? batchName = some (.int 5) ∧ Leftover startedHost batchName h' := by
  have hrefused : startedHost.config.Refused batchName [.int] (.int 5) (some "LDAP_HOST") _ _ :=
    .parameterTaken batchName_free rfl (by decide) (by decide +kernel)
  have hrun := runOn_of_refused hrefused
  obtain ⟨⟨f, hf, -, hvalue⟩, hleftover⟩ := registration_leaves hrun
  obtain rfl := Fault.config.inj hf
  rw [batchName_free] at hvalue
  exact ⟨_, _, hrun, hvalue, hleftover⟩

/-- A number cannot be registered after that has been tried with a text for its first value. -/
theorem registration_not_undone :
    ∃ f h', (Action.registerVariable batchName [.int] (.text "five") none).runOn startedHost =
        (.error f, h') ∧
      h' ≠ startedHost ∧
      (Action.registerVariable batchName [.int] (.int 5) none).runOn h' =
        (.error (.config (.variableTaken batchName)), h') := by
  have hrefused : startedHost.config.Refused batchName [.int] (.text "five") none _ _ :=
    .wrongType batchName_free rfl
  refine ⟨_, _, runOn_of_refused hrefused, fun hsame => ?_, ?_⟩
  · have htaken := hrefused.eq_iff.mp (congrArg Host.config hsame)
    rw [batchName_free] at htaken
    cases htaken
  · exact runOn_of_refused (h := { startedHost with config := _ }) (.nameTaken hrefused.isSome)

end Config

end OtpRegistrar
