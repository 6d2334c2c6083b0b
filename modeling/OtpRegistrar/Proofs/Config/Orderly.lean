/-
Configurations in which every variable holds what it may.

Assigning checks the value before it is put in place, so that no value gets in that its
variable may not hold.  What has to be said with it is about parameters: a parameter of a
file stands for a registered variable, no variable has two, and the variables that
loading assigns by itself have none and are of the types that it needs.  A
configuration of which all of this is true is `Orderly`.

It is made so, and it stays so whatever is assigned, noted or registered, also where that
breaks off half way: a registration that fails leaves its variable without a value or
without a parameter, which is no disorder.
-/
import OtpRegistrar.Proofs.Config.Assigning

namespace OtpRegistrar.Config

/-- Every variable holds what it may, and parameters stand for variables in good order. -/
structure Orderly (c : Config) : Prop where
  typed : ∀ entry ∈ c.values,
    ∃ types, find? c.types entry.1 = some types ∧ allows types entry.2 = true
  known : ∀ entry ∈ c.parameters, (find? c.types entry.2).isSome = true
  single : (c.parameters.map (·.2)).Nodup
  mainConfig : find? c.types "main_config" = some [.dict]
  configFile : find? c.types "config_file" = some [.text]
  tracebacks : find? c.types "print_tracebacks" = some [.bool]
  own : ∀ entry ∈ c.parameters, entry.2 ≠ "main_config" ∧ entry.2 ≠ "config_file"

/-! ### Assigning -/

section

variable {c c' : Config} {name other : Text} {value : Value} {f : Flaw}
  {options entries : List (Text × Value)}

theorem allows_of_mem {types : List VarType} {type : VarType} (htype : type ∈ types)
    (hvalue : type.accepts value = true) : allows types value = true := by
  unfold allows
  split
  · rfl
  · exact List.any_eq_true.mpr ⟨type, htype, hvalue⟩

/-- A value that a variable may hold can be assigned. -/
theorem exists_set_of_allows {types : List VarType} (htypes : find? c.types name = some types)
    (hallowed : allows types value = true) : ∃ c', c.set name value = .ok c' := by
  refine ⟨{ c with values := put name value c.values }, ?_⟩
  unfold set
  rw [htypes]
  dsimp only
  rw [if_pos hallowed]

/-- A value of the type of a variable can be assigned. -/
theorem exists_set_of_accepts {type : VarType} (htype : find? c.types name = some [type])
    (hvalue : type.accepts value = true) : ∃ c', c.set name value = .ok c' :=
  exists_set_of_allows htype (allows_of_mem List.mem_cons_self hvalue)

namespace Orderly

/-- What is noted of a configuration is no matter for its order. -/
theorem noted (horderly : c.Orderly) (names : List Text) :
    ({ c with overridden := names } : Config).Orderly :=
  ⟨horderly.typed, horderly.known, horderly.single, horderly.mainConfig, horderly.configFile,
    horderly.tracebacks, horderly.own⟩

theorem set (horderly : c.Orderly) (hset : c.set name value = .ok c') : c'.Orderly := by
  obtain ⟨rfl, types, htypes, hallowed⟩ := eq_of_set hset
  refine ⟨fun entry hentry => ?_, horderly.known, horderly.single, horderly.mainConfig,
    horderly.configFile, horderly.tracebacks, horderly.own⟩
  rcases mem_put hentry with rfl | hentry
  · exact ⟨types, htypes, hallowed⟩
  · exact horderly.typed entry hentry

theorem assignAll {assigned : List (Text × Value)} (horderly : c.Orderly) :
    (c.assignAll assigned).1.Orderly := by
  induction assigned generalizing c with
  | nil => exact horderly
  | cons a rest ih =>
      obtain ⟨name, value⟩ := a
      rw [Config.assignAll]
      split
      · exact horderly
      · rename_i hset
        exact ih (horderly.set hset)

theorem override {outcome : Except Flaw Unit} (horderly : c.Orderly)
    (hoptions : c.override options = (c', outcome)) : c'.Orderly := by
  obtain ⟨noted, heq, -⟩ := override_eq c options
  rw [heq] at hoptions
  obtain ⟨rfl, -⟩ := Prod.mk.inj hoptions
  exact horderly.assignAll.noted _

theorem applyFile {unknown : List Text} {outcome : Except Flaw Unit} (horderly : c.Orderly)
    (hfile : c.applyFile entries = (c', unknown, outcome)) : c'.Orderly := by
  rw [(eq_of_applyFile hfile).1]
  exact horderly.assignAll

/-- A file assigns neither itself nor the variable that names it. -/
theorem not_mem_assignments (horderly : c.Orderly)
    (hname : name = "main_config" ∨ name = "config_file") :
    name ∉ (c.assignments entries).map (·.1) := by
  intro hmem
  obtain ⟨⟨_, value⟩, hassigned, rfl⟩ := List.mem_map.mp hmem
  obtain ⟨entry, -, hparameter, -⟩ := mem_assignments_iff.mp hassigned
  obtain ⟨hmain, hfile⟩ := horderly.own _ (mem_of_find? hparameter)
  exact hname.elim hmain hfile

end Orderly

/-! ### Registering -/

variable {types : List VarType} {parameter : Option Text}

namespace Orderly

/-- A variable gets its types. -/
theorem typeAdded (horderly : c.Orderly) (name : Text) (types : List VarType) :
    ({ c with types := c.types ++ [(name, types)] } : Config).Orderly where
  typed := by
    intro entry hentry
    obtain ⟨types', hfound, hallowed⟩ := horderly.typed entry hentry
    exact ⟨types', find?_append_of_some hfound _, hallowed⟩
  known := by
    intro entry hentry
    obtain ⟨types', hfound⟩ := Option.isSome_iff_exists.mp (horderly.known entry hentry)
    exact Option.isSome_iff_exists.mpr ⟨types', find?_append_of_some hfound _⟩
  single := horderly.single
  mainConfig := find?_append_of_some horderly.mainConfig _
  configFile := find?_append_of_some horderly.configFile _
  tracebacks := find?_append_of_some horderly.tracebacks _
  own := horderly.own

/-- A variable that has no parameter gets one. -/
theorem parameterAdded (horderly : c.Orderly) (p : Text)
    (hknown : (find? c.types name).isSome = true) (hnone : name ∉ c.parameters.map (·.2))
    (hown : name ≠ "main_config" ∧ name ≠ "config_file") :
    ({ c with parameters := c.parameters ++ [(p, name)] } : Config).Orderly where
  typed := horderly.typed
  known := by
    intro entry hentry
    rcases List.mem_append.mp hentry with hentry | hentry
    · exact horderly.known entry hentry
    · rw [List.mem_singleton.mp hentry]
      exact hknown
  single := by
    rw [List.map_append, List.map_singleton]
    refine List.nodup_append.mpr ⟨horderly.single, List.nodup_singleton _, fun a ha b hb => ?_⟩
    rw [List.mem_singleton.mp hb]
    rintro rfl
    exact hnone ha
  mainConfig := horderly.mainConfig
  configFile := horderly.configFile
  tracebacks := horderly.tracebacks
  own := by
    intro entry hentry
    rcases List.mem_append.mp hentry with hentry | hentry
    · exact horderly.own entry hentry
    · rw [List.mem_singleton.mp hentry]
      exact hown

/-- Registering keeps the order, also where it fails. -/
theorem register (horderly : c.Orderly) : (c.register name types value parameter).1.Orderly := by
  unfold Config.register
  split
  · exact horderly
  rename_i hnew
  rw [Option.not_isSome_iff_eq_none] at hnew
  have htyped := horderly.typeAdded name types
  dsimp only
  split
  · exact htyped
  rename_i c₁ hset
  have hassigned : c₁.Orderly := htyped.set hset
  split
  · exact hassigned
  · exact hassigned
  · split
    · exact hassigned
    · refine hassigned.parameterAdded _ ?_ ?_ ⟨?_, ?_⟩
      · rw [types_set hset, find?_append_self (find?_eq_none_iff.mp hnew)]
        rfl
      · rw [parameters_set hset]
        intro hmem
        obtain ⟨entry, hentry, rfl⟩ := List.mem_map.mp hmem
        have hknown := horderly.known entry hentry
        rw [hnew] at hknown
        cases hknown
      · rintro rfl
        rw [horderly.mainConfig] at hnew
        cases hnew
      · rintro rfl
        rw [horderly.configFile] at hnew
        cases hnew

end Orderly

/-- A rejected registration leaves the old value in place, if there is one. -/
theorem get?_register_of_rejected
    (hregister : c.register name types value parameter = (c', .error f))
    (hname : f.rejected? = some other) : c'.get? other = c.get? other := by
  unfold register at hregister
  split at hregister
  · cases hregister
    rfl
  dsimp only at hregister
  split at hregister
  · cases hregister
    rfl
  split at hregister
  · cases hregister
  · cases hregister
  · split at hregister
    · cases hregister
      cases hname
    · cases hregister

end

/-! ### The configuration as it is made -/

theorem nodup_variables_declared
    {declarations : List (Text × VarType × Value × Option Text)}
    (hregistrable : Registrable declarations) :
    ((declared declarations).parameters.map (·.2)).Nodup := by
  have hnames := hregistrable.names
  rw [List.Nodup, List.pairwise_map] at hnames ⊢
  refine hnames.filterMap _ fun d d' hne a ha a' ha' hsame => hne ?_
  obtain ⟨p, -, rfl⟩ := Option.map_eq_some_iff.mp ha
  obtain ⟨p', -, rfl⟩ := Option.map_eq_some_iff.mp ha'
  exact hsame

/-- **The configuration of a tool is made in good order.** -/
theorem orderly_of_make {tool : Value} {file : Text} {c : Config}
    (hmake : make tool file = .ok c) : c.Orderly := by
  have hregistrable := registrable_declarations (allows_of_make hmake) file
  rw [eq_declared_of_make hmake]
  refine ⟨?_, ?_, nodup_variables_declared hregistrable, ?_, ?_, ?_, ?_⟩
  · intro entry hentry
    obtain ⟨d, hd, rfl⟩ := List.mem_map.mp hentry
    exact ⟨[d.2.1], find?_types_declared hregistrable hd, hregistrable.allowed d hd⟩
  · intro entry hentry
    obtain ⟨d, hd, hparameter⟩ := List.mem_filterMap.mp hentry
    obtain ⟨p, -, rfl⟩ := Option.map_eq_some_iff.mp hparameter
    rw [find?_types_declared hregistrable hd]
    rfl
  · exact find?_types_declared hregistrable
      (show (Text.ofString "main_config", VarType.dict, Value.null, none) ∈ _ by
        simp [declarations])
  · exact find?_types_declared hregistrable
      (show (Text.ofString "config_file", VarType.text, Value.text file, none) ∈ _ by
        simp [declarations])
  · exact find?_types_declared hregistrable
      (show (Text.ofString "print_tracebacks", VarType.bool, Value.null,
        some (Text.ofString "TRACEBACKS")) ∈ _ by simp [declarations])
  · intro entry hentry
    obtain ⟨d, hd, hparameter⟩ := List.mem_filterMap.mp hentry
    obtain ⟨p, hp, rfl⟩ := Option.map_eq_some_iff.mp hparameter
    have hsame : (declarations tool file).filter (·.2.2.2.isSome) =
        (declarations .null []).filter (·.2.2.2.isSome) := rfl
    have hown : ((declarations .null []).filter (·.2.2.2.isSome)).all (fun d =>
        d.1 != Text.ofString "main_config" && d.1 != Text.ofString "config_file") = true := by
      decide +kernel
    rw [← hsame] at hown
    simpa using List.all_eq_true.mp hown d (List.mem_filter.mpr ⟨hd, by rw [hp]; rfl⟩)

end OtpRegistrar.Config
