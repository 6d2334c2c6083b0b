/-
The configuration as it is made.

The variables of the tool are registered one after the other, and each registration can
fail: its name may be taken, or its parameter, and its first value may be of another type
than it declares.  None of this happens for the declarations of the tool, so that what
comes of them is what they say: every variable has the type and the value that is
declared, and every parameter its variable.

Registering is a walk along the declarations, and the invariant is that the configuration
so far is the one that the declarations so far say, which `declared` spells out.
-/
import OtpRegistrar.Proofs.Config.Store
import Mathlib.Data.List.Nodup

namespace OtpRegistrar.Config

/-! ### Tables whose names differ -/

section Tables

variable {α : Type} {table : List (Text × α)} {name : Text} {x : α}

theorem find?_eq_none_iff : find? table name = none ↔ name ∉ table.map (·.1) := by
  unfold find?
  rw [Option.map_eq_none_iff, List.find?_eq_none]
  constructor
  · intro hnone hmem
    obtain ⟨entry, hentry, hname⟩ := List.mem_map.mp hmem
    exact hnone entry hentry (beq_iff_eq.mpr hname)
  · intro hnew entry hentry heq
    exact hnew (List.mem_map.mpr ⟨entry, hentry, beq_iff_eq.mp heq⟩)

theorem mem_names_iff : name ∈ table.map (·.1) ↔ (find? table name).isSome = true := by
  rw [← Option.ne_none_iff_isSome, Ne, find?_eq_none_iff, not_not]

theorem find?_append_self (hnew : name ∉ table.map (·.1)) :
    find? (table ++ [(name, x)]) name = some x := by
  have hnone := find?_eq_none_iff.mpr hnew
  unfold find? at hnone ⊢
  rw [List.find?_append, Option.map_or, hnone]
  simp

theorem find?_append_of_some (hfound : find? table name = some x) (more : List (Text × α)) :
    find? (table ++ more) name = some x := by
  unfold find? at hfound ⊢
  rw [List.find?_append, Option.map_or, hfound, Option.some_or]

theorem put_eq_append (hnew : name ∉ table.map (·.1)) :
    put name x table = table ++ [(name, x)] := by
  induction table with
  | nil => rfl
  | cons entry rest ih =>
      obtain ⟨n, v⟩ := entry
      rw [List.map_cons, List.mem_cons, not_or] at hnew
      rw [put, if_neg (Ne.symm hnew.1), ih hnew.2, List.cons_append]

theorem mem_of_find? (hfound : find? table name = some x) : (name, x) ∈ table := by
  obtain ⟨⟨n, v⟩, hfind, rfl⟩ := Option.map_eq_some_iff.mp hfound
  obtain rfl : n = name := by simpa using List.find?_some hfind
  exact List.mem_of_find?_eq_some hfind

/-- An entry is found under its name if the names differ. -/
theorem find?_eq_some (hnames : (table.map (·.1)).Nodup) (hmem : (name, x) ∈ table) :
    find? table name = some x := by
  cases hfound : find? table name with
  | some y =>
      have hsame := List.inj_on_of_nodup_map hnames (mem_of_find? hfound) hmem rfl
      exact congrArg some (Prod.mk.inj hsame).2
  | none =>
      unfold find? at hfound
      rw [Option.map_eq_none_iff, List.find?_eq_none] at hfound
      exact absurd (beq_self_eq_true name) (hfound _ hmem)

end Tables

/-! ### What declarations say -/

/-- The configuration that declarations say. -/
def declared (declarations : List (Text × VarType × Value × Option Text)) : Config where
  types := declarations.map fun d => (d.1, [d.2.1])
  values := declarations.map fun d => (d.1, d.2.2.1)
  parameters := declarations.filterMap fun d => d.2.2.2.map fun p => (p, d.1)
  overridden := []

/-- The declarations do not get in the way of each other: their names differ, and so do their
parameters, of which none is empty, and every first value is of the type that is declared. -/
structure Registrable (declarations : List (Text × VarType × Value × Option Text)) : Prop where
  names : (declarations.map (·.1)).Nodup
  parameters : (declarations.filterMap (·.2.2.2)).Nodup
  written : [] ∉ declarations.filterMap (·.2.2.2)
  allowed : ∀ d ∈ declarations, allows [d.2.1] d.2.2.1 = true

section Declared

variable {declarations before after : List (Text × VarType × Value × Option Text)}

theorem Registrable.sublist (hregistrable : Registrable declarations)
    (hsub : before.Sublist declarations) : Registrable before where
  names := hregistrable.names.sublist (hsub.map _)
  parameters := hregistrable.parameters.sublist (hsub.filterMap _)
  written hmem := hregistrable.written ((hsub.filterMap _).subset hmem)
  allowed d hd := hregistrable.allowed d (hsub.subset hd)

theorem names_types : (declared before).types.map (·.1) = before.map (·.1) := by
  simp [declared]

theorem names_values : (declared before).values.map (·.1) = before.map (·.1) := by
  simp [declared]

theorem names_parameters :
    (declared before).parameters.map (·.1) = before.filterMap (·.2.2.2) := by
  simp [declared, List.map_filterMap, Option.map_map, Function.comp_def]

/-- One more variable is registered as it is declared. -/
theorem register_declared {name : Text} {type : VarType} {value : Value} {parameter : Option Text}
    (hregistrable : Registrable (before ++ [(name, type, value, parameter)])) :
    (declared before).register name [type] value parameter =
      (declared (before ++ [(name, type, value, parameter)]), .ok ()) := by
  have hname : name ∉ before.map (·.1) := by
    have hnames := hregistrable.names
    rw [List.map_append] at hnames
    exact fun hmem => (List.nodup_append.mp hnames).2.2 _ hmem name (by simp) rfl
  have hallowed : allows [type] value = true :=
    hregistrable.allowed (name, type, value, parameter) (by simp)
  have hnew : find? (declared before).types name = none :=
    find?_eq_none_iff.mpr (names_types ▸ hname)
  have htyped : find? ((declared before).types ++ [(name, [type])]) name = some [type] :=
    find?_append_self (names_types ▸ hname)
  unfold register set
  dsimp only
  rw [hnew, if_neg (by simp), htyped]
  dsimp only
  rw [if_pos hallowed, put_eq_append (names_values ▸ hname)]
  dsimp only
  cases parameter with
  | none => simp [declared]
  | some p =>
      have hwritten : p ≠ [] := by
        rintro rfl
        exact hregistrable.written (by simp)
      have hfree : p ∉ before.filterMap (·.2.2.2) := by
        have hparameters := hregistrable.parameters
        rw [List.filterMap_append] at hparameters
        exact fun hmem => (List.nodup_append.mp hparameters).2.2 _ hmem p (by simp) rfl
      have hnone : find? (declared before).parameters p = none :=
        find?_eq_none_iff.mpr (names_parameters ▸ hfree)
      obtain ⟨s, t, rfl⟩ := List.exists_cons_of_ne_nil hwritten
      dsimp only
      rw [hnone]
      simp [declared]

/-- Declarations that do not get in the way of each other are registered one after the other. -/
theorem registerAll_declared (hregistrable : Registrable (before ++ after)) :
    (declared before).registerAll after = .ok (declared (before ++ after)) := by
  induction after generalizing before with
  | nil => rw [List.append_nil, registerAll]
  | cons d rest ih =>
      obtain ⟨name, type, value, parameter⟩ := d
      rw [List.append_cons] at hregistrable ⊢
      have hfirst := register_declared (hregistrable.sublist (List.sublist_append_left _ rest))
      rw [registerAll, hfirst]
      exact ih hregistrable

/-- Every variable has the type that it is declared with. -/
theorem find?_types_declared (hregistrable : Registrable declarations) {name : Text}
    {type : VarType} {value : Value} {parameter : Option Text}
    (hmem : (name, type, value, parameter) ∈ declarations) :
    find? (declared declarations).types name = some [type] :=
  find?_eq_some (names_types ▸ hregistrable.names)
    (List.mem_map.mpr ⟨(name, type, value, parameter), hmem, rfl⟩)

/-- Every variable has the value that it is declared with. -/
theorem get_declared (hregistrable : Registrable declarations) {name : Text} {type : VarType}
    {value : Value} {parameter : Option Text}
    (hmem : (name, type, value, parameter) ∈ declarations) :
    (declared declarations).get name = value := by
  have hfound : find? (declared declarations).values name = some value :=
    find?_eq_some (names_values ▸ hregistrable.names)
      (List.mem_map.mpr ⟨(name, type, value, parameter), hmem, rfl⟩)
  unfold get get?
  rw [hfound]
  rfl

/-- A parameter sets a variable that is declared with it. -/
theorem find?_parameters_declared {p name : Text}
    (hfound : find? (declared declarations).parameters p = some name) :
    ∃ type value, (name, type, value, some p) ∈ declarations := by
  obtain ⟨⟨n, type, value, parameter⟩, hmem, hparameter⟩ :=
    List.mem_filterMap.mp (mem_of_find? hfound)
  obtain ⟨q, hq, hsame⟩ := Option.map_eq_some_iff.mp hparameter
  cases hsame
  cases hq
  exact ⟨type, value, hmem⟩

end Declared

/-! ### The tool -/

/-- The declarations of a tool do not get in the way of each other, if it has a name or none. -/
theorem registrable_declarations {tool : Value} (htool : allows [.text] tool = true) (file : Text) :
    Registrable (declarations tool file) := by
  have hsame : (declarations tool file).map (·.1) = (declarations .null []).map (·.1) := rfl
  have hsame' : (declarations tool file).filterMap (·.2.2.2) =
      (declarations .null []).filterMap (·.2.2.2) := rfl
  -- numbers are compared faster than texts, and as they differ so do the names
  have hnames : (((declarations .null []).map (·.1)).map
      fun t => t.foldl (fun n s => n * 256 + s.code) 0).Nodup := by decide +kernel
  have hparameters : (((declarations .null []).filterMap (·.2.2.2)).map
      fun t => t.foldl (fun n s => n * 256 + s.code) 0).Nodup := by decide +kernel
  have hwritten : ((declarations .null []).filterMap (·.2.2.2)).all (!·.isEmpty) = true := by
    decide +kernel
  have hrest : (declarations tool file).tail.all (fun d => allows [d.2.1] d.2.2.1) = true := rfl
  have hfirst : declarations tool file =
      (Text.ofString "tool_name", VarType.text, tool, none) :: (declarations tool file).tail := rfl
  refine ⟨hsame ▸ hnames.of_map, hsame' ▸ hparameters.of_map, fun hmem => ?_, fun d hd => ?_⟩
  · rw [hsame'] at hmem
    exact absurd (List.all_eq_true.mp hwritten [] hmem) (by simp)
  · rw [hfirst] at hd
    rcases List.mem_cons.mp hd with rfl | hd
    · exact htool
    · exact List.all_eq_true.mp hrest d hd

/-- **The configuration of a tool is made as it is declared.** -/
theorem make_eq {tool : Value} (htool : allows [.text] tool = true) (file : Text) :
    make tool file = .ok (declared (declarations tool file)) := by
  have hregistrable : Registrable ([] ++ declarations tool file) :=
    registrable_declarations htool file
  unfold make
  rw [show empty = declared [] from rfl, registerAll_declared hregistrable, List.nil_append]

/-- A configuration is made for a tool only if it has a name or none. -/
theorem allows_of_make {tool : Value} {file : Text} {c : Config} (hmake : make tool file = .ok c) :
    allows [.text] tool = true := by
  by_contra hnone
  have hregister : empty.register "tool_name" [.text] tool none =
      ({ empty with types := [("tool_name", [.text])] },
        .error (.wrongType "tool_name" [.text] tool.kind.shown)) := by
    simp [register, empty, set, find?, hnone]
  unfold make declarations registerAll at hmake
  rw [hregister] at hmake
  cases hmake

theorem eq_declared_of_make {tool : Value} {file : Text} {c : Config}
    (hmake : make tool file = .ok c) : c = declared (declarations tool file) := by
  rw [make_eq (allows_of_make hmake)] at hmake
  exact (Except.ok.inj hmake).symm

/-- Before anything is read the configuration is the one that is declared. -/
theorem fresh_eq (file : Text) : fresh file = declared (declarations (.text toolName) file) := by
  -- opened before it is applied, or else what is made would be computed to check the step
  have hdef : fresh = fresh := rfl
  conv at hdef => rhs; delta fresh
  have hmake : make (.text toolName) file = _ := make_eq rfl file
  rw [hdef]
  dsimp only
  rw [hmake]

theorem make_fresh (file : Text) : make (.text toolName) file = .ok (fresh file) :=
  (make_eq rfl file).trans (congrArg Except.ok (fresh_eq file).symm)

end OtpRegistrar.Config
