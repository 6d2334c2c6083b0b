/-
A variable that nobody turns on stays off.

A variable that does not count as true, and that no parameter of the file stands for, is
`Unset`.  It can be turned on by name only: with an assignment, or with an option of a
command line.  A registration cannot, because the variable is there already and names are
never given free; and a file cannot, because no registration lets a parameter stand for a
variable that is there.

So whoever finds the variable of help on can tell that one of the calls asked for help.
-/
import OtpRegistrar.Proofs.Config.Registering

namespace OtpRegistrar

namespace Config

/-- The call gives the variable, by its name, a value that counts as true. -/
def Call.TurnsOn (name : Text) : Call → Prop
  | .assign other value => name = other.val ∧ value.truthy = true
  | .load _ options _ => ∃ option ∈ options.entries, name = option.1 ∧ option.2.truthy = true
  | .register _ _ _ _ | .debugLevel _ _ => False

section

variable {c c' : Config} {files : FileTree} {options : List (Text × Value)}
  {r : Except Fault Unit} {name : Text} {h : Host}

/-! ### One call -/

theorem Unset.loading (hunset : c.Unset name) (hname : name ≠ "main_config")
    (hoff : ∀ option ∈ options, name = option.1 → option.2.truthy = false)
    (hloading : c.Loading files options r c') : c'.Unset name := by
  have hoverridden : ∀ {c₁ : Config} {outcome : Except Flaw Unit},
      c.override options = (c₁, outcome) → c₁.Unset name := by
    intro c₁ outcome hoptions
    have hset := hunset.override hoff
    rwa [hoptions] at hset
  have happlied : ∀ {c₁ c₂ c₃ : Config} {entries : ConfigFile.Entries} {unknown : List Text}
      {outcome : Except Flaw Unit}, c₁.Unset name →
      c₁.set "main_config" (Action.entriesValue entries) = .ok c₂ →
      c₂.applyFile entries = (c₃, unknown, outcome) → c₃.Unset name := by
    intro c₁ c₂ c₃ entries unknown outcome hunset₁ hmain hfile
    have hunset₃ : (c₂.applyFile entries).1.Unset name :=
      (hunset₁.set hmain fun hsame => absurd hsame hname).applyFile
    rwa [hfile] at hunset₃
  cases hloading with
  | refused hoptions => exact hoverridden hoptions
  | unread hoptions hf => exact hoverridden hoptions
  | spoiled hoptions hreads hmain hfile => exact happlied (hoverridden hoptions) hmain hfile
  | applied hoptions hreads hmain hfile hsettles hr =>
      have hunset₃ := happlied (hoverridden hoptions) hmain hfile
      rcases hsettles with ⟨-, hset⟩ | ⟨-, rfl⟩
      · exact hunset₃.set hset fun _ => rfl
      · exact hunset₃

theorem Unset.configure (hunset : h.config.Unset name) {other : Text} {value : Value}
    (hoff : name = other → value.truthy = false) :
    ((Action.configure other value).runOn h).2.config.Unset name := by
  cases hset : h.config.set other value with
  | ok c =>
      rw [Action.runOn_configure_ok hset]
      exact hunset.set hset hoff
  | error f =>
      rw [Action.runOn_configure_error hset]
      exact hunset

/-- The levels are kept in a variable of their own. -/
theorem Unset.setDebugLevel (hunset : h.config.Unset name) (hname : name ≠ "debug_levels")
    (slot : Text) (level : Value) :
    ((Action.setDebugLevel slot level).runOn h).2.config.Unset name := by
  have hkept := (reads_debugLevels h).config
  unfold Action.setDebugLevel
  rw [Action.runOn_bind]
  rcases hlevels : Action.debugLevels.runOn h with ⟨outcome, h₁⟩
  rw [hlevels] at hkept
  have hunset₁ : h₁.config.Unset name := by rwa [hkept]
  cases outcome with
  | error f => exact hunset₁
  | ok levels => exact hunset₁.configure fun hsame => absurd hsame hname

/-- **A call leaves a variable off, unless it turns the variable on.** -/
theorem Call.unset (call : Call) (horderly : h.config.Orderly)
    (hthere : (find? h.config.types name).isSome = true)
    (hown : name ≠ "main_config" ∧ name ≠ "debug_levels") (hunset : h.config.Unset name)
    (hcall : ¬call.TurnsOn name) : (call.action.runOn h).2.config.Unset name := by
  cases call with
  | register other types value parameter =>
      exact hunset.register fun hname => .inl (hname ▸ hthere)
  | assign other value =>
      show ((Action.assign other value).runOn h).2.config.Unset name
      rw [assign_eq_configure other.property]
      exact hunset.configure fun hname => Bool.eq_false_iff.mpr fun hvalue => hcall ⟨hname, hvalue⟩
  | load files options quiet =>
      have hoff : ∀ option ∈ options.entries, name = option.1 → option.2.truthy = false :=
        fun option hmem hname =>
          Bool.eq_false_iff.mpr fun hvalue => hcall ⟨option, hmem, hname, hvalue⟩
      have hloading : h.config.Loading files options.entries
          ((Action.loadConfig options.entries quiet).runOn { h with files }).1
          ((Action.loadConfig options.entries quiet).runOn { h with files }).2.config :=
        Action.loading_of_runOn (h := { h with files }) horderly rfl
      exact hunset.loading hown.1 hoff hloading
  | debugLevel slot level =>
      cases level with
      | null =>
          have hkept := (reads_debugLevel slot h).config
          show ((Action.debugLevel slot >>= fun _ => pure ()).runOn h).2.config.Unset name
          rw [Action.runOn_bind]
          rcases hlevel : (Action.debugLevel slot).runOn h with ⟨outcome, h₁⟩
          rw [hlevel] at hkept
          cases outcome <;> exact hkept ▸ hunset
      | _ => exact hunset.setDebugLevel hown.2 slot _

/-! ### Any number of calls -/

/-- **However many calls there are, a variable stays off unless one of them turns it on.** -/
theorem Unset.after (horderly : h.config.Orderly)
    (hthere : (find? h.config.types name).isSome = true)
    (hown : name ≠ "main_config" ∧ name ≠ "debug_levels") (hunset : h.config.Unset name)
    {calls : List Call} (hcalls : ∀ call ∈ calls, ¬call.TurnsOn name) :
    (Config.after calls h).config.Unset name := by
  induction calls generalizing h with
  | nil => exact hunset
  | cons call rest ih =>
      obtain ⟨hcall, hrest⟩ := List.forall_mem_cons.mp hcalls
      exact ih (call.careful h horderly).1 ((call.grows h).isSome hthere)
        (call.unset horderly hthere hown hunset hcall) hrest

end

theorem find?_showHelp_of_make {tool : Value} {file : Text} {c : Config}
    (hmake : make tool file = .ok c) : (find? c.types "show_help").isSome = true := by
  have hmem : (Text.ofString "show_help", VarType.bool, Value.bool false, (none : Option Text)) ∈
      declarations tool file := by simp [declarations]
  rw [eq_declared_of_make hmake,
    find?_types_declared (registrable_declarations (allows_of_make hmake) file) hmem]
  rfl

/-- Help is asked for only by who turns its variable on. -/
theorem turnsOn_of_not_unset {tool : Value} {file : Text} {h : Host}
    (hmake : make tool file = .ok h.config) {calls : List Call}
    (hset : ¬(after calls h).config.Unset "show_help") :
    ∃ call ∈ calls, call.TurnsOn "show_help" := by
  by_contra hnone
  exact hset ((unset_of_make hmake).after (orderly_of_make hmake) (find?_showHelp_of_make hmake)
    (by decide) fun call hmem hon => hnone ⟨call, hmem, hon⟩)

end Config

end OtpRegistrar
