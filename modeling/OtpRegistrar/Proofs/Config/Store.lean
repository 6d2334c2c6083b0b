/-
What assigning a variable does to the others.

A variable that the command line does not set may still come to count as true: it
may be so from the start, or a parameter of the file may stand for it.  A
configuration in which neither is the case leaves the variable `Unset`, and nothing
but the command line changes that.
-/
import OtpRegistrar.Config.Store

namespace OtpRegistrar.Config

theorem find?_put {α : Type} (name other : Text) (value : α) (hne : other ≠ name) :
    ∀ table : List (Text × α), find? (put name value table) other = find? table other := by
  intro table
  induction table with
  | nil => simp [find?, put, hne.symm]
  | cons entry rest ih =>
      obtain ⟨n, v⟩ := entry
      unfold find? at ih ⊢
      unfold put
      by_cases hn : n = name
      · rw [if_pos hn]
        simp [hn, hne.symm]
      · rw [if_neg hn, List.find?_cons, List.find?_cons]
        cases n == other with
        | true => rfl
        | false => exact ih

theorem find?_put_self {α : Type} (name : Text) (value : α) :
    ∀ table : List (Text × α), find? (put name value table) name = some value := by
  intro table
  induction table with
  | nil => simp [find?, put]
  | cons entry rest ih =>
      obtain ⟨n, v⟩ := entry
      unfold find? at ih ⊢
      unfold put
      by_cases hn : n = name
      · rw [if_pos hn]
        simp [hn]
      · rw [if_neg hn, List.find?_cons, beq_eq_false_iff_ne.mpr hn]
        exact ih

theorem mem_put {α : Type} {name : Text} {value : α} {entry : Text × α} :
    ∀ {table : List (Text × α)}, entry ∈ put name value table →
      entry = (name, value) ∨ entry ∈ table := by
  intro table hmem
  induction table with
  | nil => exact .inl (List.mem_singleton.mp hmem)
  | cons first rest ih =>
      obtain ⟨n, v⟩ := first
      unfold put at hmem
      split at hmem
      · rename_i hn
        rcases List.mem_cons.mp hmem with heq | hmem
        · exact .inl (hn ▸ heq)
        · exact .inr (List.mem_cons_of_mem _ hmem)
      · rcases List.mem_cons.mp hmem with heq | hmem
        · exact .inr (heq ▸ List.mem_cons_self)
        · exact (ih hmem).imp_right (List.mem_cons_of_mem _)

theorem get_congr {c c' : Config} {name : Text} (hsame : c'.get? name = c.get? name) :
    c'.get name = c.get name := by
  unfold get
  rw [hsame]

theorem get_of_get? {c : Config} {name : Text} {value : Value}
    (hvalue : c.get? name = some value) : c.get name = value := by
  unfold get
  rw [hvalue]
  rfl

/-- What can be assigned is put among the values, and nothing else changes. -/
theorem eq_of_set {c c' : Config} {name : Text} {value : Value} (hset : c.set name value = .ok c') :
    c' = { c with values := put name value c.values } ∧
      ∃ types, find? c.types name = some types ∧ allows types value = true := by
  unfold set at hset
  split at hset
  · cases hset
  · rename_i types htypes
    split at hset
    · rename_i hallowed
      cases hset
      exact ⟨rfl, types, htypes, hallowed⟩
    · cases hset

theorem get?_set_self {c c' : Config} {name : Text} {value : Value}
    (hset : c.set name value = .ok c') : c'.get? name = some value := by
  rw [(eq_of_set hset).1]
  exact find?_put_self name value c.values

theorem get?_set {c c' : Config} {name other : Text} {value : Value}
    (hset : c.set name value = .ok c') (hne : other ≠ name) : c'.get? other = c.get? other := by
  rw [(eq_of_set hset).1]
  exact find?_put name other value hne c.values

/-- An assigned variable has its value. -/
theorem get_set_self {c c' : Config} {name : Text} {value : Value}
    (hset : c.set name value = .ok c') : c'.get name = value :=
  get_of_get? (get?_set_self hset)

/-- Assigning a variable leaves the others alone. -/
theorem get_set {c c' : Config} {name other : Text} {value : Value}
    (hset : c.set name value = .ok c') (hne : other ≠ name) : c'.get other = c.get other :=
  get_congr (get?_set hset hne)

theorem types_set {c c' : Config} {name : Text} {value : Value} (hset : c.set name value = .ok c') :
    c'.types = c.types := by
  rw [(eq_of_set hset).1]

theorem parameters_set {c c' : Config} {name : Text} {value : Value}
    (hset : c.set name value = .ok c') : c'.parameters = c.parameters := by
  rw [(eq_of_set hset).1]

theorem overridden_set {c c' : Config} {name : Text} {value : Value}
    (hset : c.set name value = .ok c') : c'.overridden = c.overridden := by
  rw [(eq_of_set hset).1]

/-! ### Variables that nothing sets -/

/-- The variable does not count as true, and no parameter of the file stands for it. -/
structure Unset (c : Config) (name : Text) : Prop where
  off : c.flag name = false
  foreign : ∀ parameter, find? c.parameters parameter ≠ some name

namespace Unset

variable {c c' : Config} {name other : Text} {value : Value}

/-- A value that does not count as true leaves the variable off. -/
theorem set (hunset : c.Unset name) (hset : c.set other value = .ok c')
    (hoff : name = other → value.truthy = false) : c'.Unset name where
  off := by
    unfold flag
    by_cases hname : name = other
    · rw [hname, get_set_self hset]
      exact hoff hname
    · rw [get_set hset hname]
      exact hunset.off
  foreign := by
    rw [parameters_set hset]
    exact hunset.foreign

/-- The command line sets what it names. -/
theorem override {options : List (Text × Value)} (hunset : c.Unset name)
    (hoff : ∀ option ∈ options, name = option.1 → option.2.truthy = false) :
    (c.override options).1.Unset name := by
  induction options generalizing c with
  | nil => exact hunset
  | cons option rest ih =>
      obtain ⟨other, value⟩ := option
      obtain ⟨hfirst, hrest⟩ := List.forall_mem_cons.mp hoff
      have hnoted : ({ c with overridden := c.overridden ++ [other] } : Config).Unset name :=
        ⟨hunset.off, hunset.foreign⟩
      unfold Config.override
      dsimp only
      split
      · exact hnoted
      · rename_i hset
        exact ih (hnoted.set hset hfirst) hrest

/-- The file sets what its parameters stand for. -/
theorem applyFile {entries : List (Text × Value)} (hunset : c.Unset name) :
    (c.applyFile entries).1.Unset name := by
  induction entries generalizing c with
  | nil => exact hunset
  | cons entry rest ih =>
      obtain ⟨parameter, value⟩ := entry
      unfold Config.applyFile
      split
      · exact ih hunset
      · rename_i other hother
        split
        · exact ih hunset
        · split
          · exact hunset
          · rename_i hset
            refine ih (hunset.set hset ?_)
            rintro rfl
            exact absurd hother (hunset.foreign parameter)

/-- Registering a variable, be it that it fails, sets no other one; and nothing happens if it is
there. -/
theorem register {types : List VarType} {parameter : Option Text} (hunset : c.Unset name)
    (hoff : name = other →
      (find? c.types other).isSome = true ∨ value.truthy = false ∧ parameter = none) :
    (c.register other types value parameter).1.Unset name := by
  have htyped : ({ c with types := c.types ++ [(other, types)] } : Config).Unset name :=
    ⟨hunset.off, hunset.foreign⟩
  unfold Config.register
  split
  · exact hunset
  rename_i hfree
  have hoff' : name = other → value.truthy = false ∧ parameter = none :=
    fun hname => (hoff hname).resolve_left hfree
  dsimp only
  split
  · exact htyped
  rename_i c₁ hset
  have hassigned : c₁.Unset name := htyped.set hset fun hname => (hoff' hname).1
  split
  · exact hassigned
  · exact hassigned
  · split
    · exact hassigned
    · refine ⟨hassigned.off, fun q hq => ?_⟩
      unfold find? at hq
      rw [List.find?_append, Option.map_or] at hq
      rcases Option.or_eq_some_iff.mp hq with hold | ⟨-, hnew⟩
      · exact hassigned.foreign q hold
      · rw [List.find?_singleton] at hnew
        split at hnew
        · cases (hoff' (Option.some.inj hnew).symm).2
        · cases hnew

theorem registerAll {declarations : List (Text × VarType × Value × Option Text)}
    (hunset : c.Unset name)
    (hoff : ∀ d ∈ declarations, name = d.1 → d.2.2.1.truthy = false ∧ d.2.2.2 = none)
    (hregister : c.registerAll declarations = .ok c') : c'.Unset name := by
  induction declarations generalizing c with
  | nil =>
      cases hregister
      exact hunset
  | cons d rest ih =>
      obtain ⟨other, type, value, parameter⟩ := d
      obtain ⟨hfirst, hrest⟩ := List.forall_mem_cons.mp hoff
      unfold Config.registerAll at hregister
      split at hregister
      · rename_i c₁ hok
        have hnext : (c.register other [type] value parameter).1.Unset name :=
          hunset.register fun hname => .inr (hfirst hname)
        rw [hok] at hnext
        exact ih hnext hrest hregister
      · cases hregister

end Unset

/-- Nothing in the configuration of a tool asks for help. -/
theorem unset_of_make {tool : Value} {file : Text} {c : Config} (hmake : make tool file = .ok c) :
    c.Unset "show_help" := by
  have hempty : empty.Unset "show_help" := ⟨rfl, fun parameter hnone => nomatch hnone⟩
  -- only the first three declarations depend on the tool and its file
  have hnames : ((declarations tool file).take 3).map (·.1) =
      ((declarations .null []).take 3).map (·.1) := rfl
  have hsame : (declarations tool file).drop 3 = (declarations .null []).drop 3 := rfl
  have hfirst : (((declarations .null []).take 3).map (·.1)).all
      (· != Text.ofString "show_help") = true := by decide +kernel
  have hrest : ((declarations .null []).drop 3).all (fun d =>
      d.1 != Text.ofString "show_help" || (!d.2.2.1.truthy && d.2.2.2.isNone)) = true := by
    decide +kernel
  refine hempty.registerAll (fun d hd hname => ?_) hmake
  rw [← List.take_append_drop 3 (declarations tool file)] at hd
  rcases List.mem_append.mp hd with hd | hd
  · have hmem := List.mem_map_of_mem (f := (·.1)) hd
    rw [hnames] at hmem
    have hother := List.all_eq_true.mp hfirst _ hmem
    rw [← hname] at hother
    simp at hother
  · rw [hsame] at hd
    have hoff := List.all_eq_true.mp hrest d hd
    rw [← hname] at hoff
    simpa using hoff

end OtpRegistrar.Config
