/-
What the variables of the configuration hold.

A value that is asked of the configuration has a type, and null may stand in its place.
For most variables nothing depends on that, but some are used as what they are
declared to be: a null in their place would be a defect, and a defect is none of the
program's own failures.  A configuration in which all of these hold what they should
is `Sound`.  It is made so, and neither the options of a command line nor the
parameters of a file change that: the former give no null, and the latter are passed
over where they are null.
-/
import OtpRegistrar.Proofs.Config.Made
import OtpRegistrar.Proofs.GlobalOptions

namespace OtpRegistrar

namespace Config

/-! ### Sound configurations -/

/-- The variables that have to hold a text. -/
def textNames : List Text :=
  ["config_file", "language", "tool_name", "syslog_address", "syslog_facility", "ldap_host"]

/-- The variables that hold a text or nothing. -/
def optionalNames : List Text := ["logfile", "ldap_ca_cert"]

/-- The value is a table of numbers. -/
def IsLevels (v : Value) : Prop := ∃ levels, v = .dict levels ∧ ∀ e ∈ levels, ∃ n, e.2 = .int n

/-- The value is a logger, or there is none. -/
def IsLogger (v : Value) : Prop := v = .null ∨ ∃ name, v = .logger name

/-- The variables that are used as what they are declared to be hold such a value. -/
structure Sound (c : Config) : Prop where
  text : ∀ name ∈ textNames, find? c.types name = some [.text] ∧ ∃ t, c.get name = .text t
  optional : ∀ name ∈ optionalNames,
    find? c.types name = some [.text] ∧ (c.get name = .null ∨ ∃ t, c.get name = .text t)
  verbosity : find? c.types "verbose_level" = some [.int] ∧ ∃ n, c.get "verbose_level" = .int n
  levels : IsLevels (c.get "debug_levels")
  logger : IsLogger (c.get "_logger")
  foreign : ∀ parameter name, find? c.parameters parameter = some name →
    name ≠ "debug_levels" ∧ name ≠ "_logger"

/-- What may be assigned to a variable: nothing but null is kept from those with a declared type. -/
structure Assignable (name : Text) (value : Value) : Prop where
  notNull : value ≠ .null
  levels : name = "debug_levels" → IsLevels value
  logger : name = "_logger" → IsLogger value

section

variable {c c' : Config} {name other : Text} {value : Value}

/-- What is assigned is null, or of a type that the variable may have. -/
theorem accepts_of_set (hset : c.set name value = .ok c') {type : VarType}
    (htype : find? c.types name = some [type]) (hvalue : value ≠ .null) :
    type.accepts value = true := by
  unfold set at hset
  rw [htype] at hset
  dsimp only at hset
  split at hset
  · rename_i hallowed
    unfold allows at hallowed
    split at hallowed
    · exact absurd rfl hvalue
    · simpa using hallowed
  · cases hset

theorem VarType.text_of_accepts {v : Value} (hv : VarType.text.accepts v = true) :
    ∃ t, v = .text t := by
  cases v with
  | text t => exact ⟨t, rfl⟩
  | _ => cases hv

theorem VarType.int_of_accepts {v : Value} (hv : VarType.int.accepts v = true) :
    ∃ n, v = .int n := by
  cases v with
  | int n => exact ⟨n, rfl⟩
  | _ => cases hv

/-- A sound configuration stays sound whatever is assigned that may be. -/
theorem Sound.set (hsound : c.Sound) (hset : c.set other value = .ok c')
    (hvalue : Assignable other value) : c'.Sound where
  text := by
    intro name hname
    obtain ⟨htype, t, ht⟩ := hsound.text name hname
    refine ⟨by rw [types_set hset]; exact htype, ?_⟩
    by_cases hother : name = other
    · rw [hother] at htype ⊢
      rw [get_set_self hset]
      exact VarType.text_of_accepts (accepts_of_set hset htype hvalue.notNull)
    · exact ⟨t, by rw [get_set hset hother, ht]⟩
  optional := by
    intro name hname
    obtain ⟨htype, ht⟩ := hsound.optional name hname
    refine ⟨by rw [types_set hset]; exact htype, ?_⟩
    by_cases hother : name = other
    · rw [hother] at htype ⊢
      rw [get_set_self hset]
      exact .inr (VarType.text_of_accepts (accepts_of_set hset htype hvalue.notNull))
    · rwa [get_set hset hother]
  verbosity := by
    obtain ⟨htype, n, hn⟩ := hsound.verbosity
    refine ⟨by rw [types_set hset]; exact htype, ?_⟩
    by_cases hother : Text.ofString "verbose_level" = other
    · rw [hother] at htype ⊢
      rw [get_set_self hset]
      exact VarType.int_of_accepts (accepts_of_set hset htype hvalue.notNull)
    · exact ⟨n, by rw [get_set hset hother, hn]⟩
  levels := by
    by_cases hother : Text.ofString "debug_levels" = other
    · rw [hother, get_set_self hset]
      exact hvalue.levels hother.symm
    · rw [get_set hset hother]
      exact hsound.levels
  logger := by
    by_cases hother : Text.ofString "_logger" = other
    · rw [hother, get_set_self hset]
      exact hvalue.logger hother.symm
    · rw [get_set hset hother]
      exact hsound.logger
  foreign := by
    rw [parameters_set hset]
    exact hsound.foreign

/-- What the command line sets leaves a configuration sound. -/
theorem Sound.override {options : List (Text × Value)} (hsound : c.Sound)
    (hoptions : ∀ option ∈ options, Assignable option.1 option.2) :
    (c.override options).1.Sound := by
  induction options generalizing c with
  | nil => exact hsound
  | cons option rest ih =>
      obtain ⟨name, value⟩ := option
      obtain ⟨hfirst, hrest⟩ := List.forall_mem_cons.mp hoptions
      have hnoted : ({ c with overridden := c.overridden ++ [name] } : Config).Sound :=
        ⟨hsound.text, hsound.optional, hsound.verbosity, hsound.levels, hsound.logger,
          hsound.foreign⟩
      unfold Config.override
      dsimp only
      split
      · exact hnoted
      · rename_i hset
        exact ih (hnoted.set hset hfirst) hrest

/-- A value of a file that is not passed over does not become null. -/
theorem convert_ne_null {types : List VarType} (hvalue : isVoid value = false) :
    convert types value ≠ .null := by
  have hnull : value ≠ .null := by
    rintro rfl
    cases hvalue
  unfold convert
  split
  · split
    · split <;> simp
    · exact hnull
  · split
    · split <;> simp
    · exact hnull

/-- What a file sets leaves a configuration sound. -/
theorem Sound.applyFile {entries : List (Text × Value)} (hsound : c.Sound) :
    (c.applyFile entries).1.Sound := by
  induction entries generalizing c with
  | nil => exact hsound
  | cons entry rest ih =>
      obtain ⟨parameter, value⟩ := entry
      unfold Config.applyFile
      split
      · exact ih hsound
      · rename_i name hname
        split
        · exact ih hsound
        · rename_i hused
          rw [Bool.or_eq_true, not_or] at hused
          obtain ⟨hlevels, hlogger⟩ := hsound.foreign parameter name hname
          split
          · exact hsound
          · rename_i hset
            refine ih (hsound.set hset ⟨convert_ne_null (Bool.eq_false_iff.mpr hused.1), ?_, ?_⟩)
            · exact fun heq => absurd heq hlevels
            · exact fun heq => absurd heq hlogger

end

/-! ### The configuration as it is made -/

/-- **The configuration of a tool is sound as it is declared.** -/
theorem sound_declared (tool file : Text) : (declared (declarations (.text tool) file)).Sound := by
  have hregistrable : Registrable (declarations (.text tool) file) :=
    registrable_declarations rfl file
  have hdeclared : ∀ name type value parameter,
      (name, type, value, parameter) ∈ declarations (.text tool) file →
      find? (declared (declarations (.text tool) file)).types name = some [type] ∧
        (declared (declarations (.text tool) file)).get name = value := fun _ _ _ _ hmem =>
    ⟨find?_types_declared hregistrable hmem, get_declared hregistrable hmem⟩
  have htext : ∀ name t parameter,
      (name, VarType.text, Value.text t, parameter) ∈ declarations (.text tool) file →
      find? (declared (declarations (.text tool) file)).types name = some [.text] ∧
        ∃ t, (declared (declarations (.text tool) file)).get name = .text t :=
    fun _ t _ hmem => (hdeclared _ _ _ _ hmem).imp_right fun ht => ⟨t, ht⟩
  refine ⟨?_, ?_, ?_, ?_, ?_, ?_⟩
  · intro name hname
    simp only [textNames, List.mem_cons, List.not_mem_nil, or_false] at hname
    rcases hname with rfl | rfl | rfl | rfl | rfl | rfl
    · exact htext _ file none (by simp [declarations])
    · exact htext _ "en" (some "LANGUAGE") (by simp [declarations])
    · exact htext _ tool none (by simp [declarations])
    · exact htext _ "/dev/log" (some "SYSLOG_ADDRESS") (by simp [declarations])
    · exact htext _ "USER" (some "SYSLOG_FACILITY") (by simp [declarations])
    · exact htext _ "localhost" (some "LDAP_HOST") (by simp [declarations])
  · intro name hname
    simp only [optionalNames, List.mem_cons, List.not_mem_nil, or_false] at hname
    rcases hname with rfl | rfl
    · obtain ⟨htype, ht⟩ := htext "logfile" "/var/log/ykdevice/ykdevice.log" (some "LOGFILE")
        (by simp [declarations])
      exact ⟨htype, .inr ht⟩
    · obtain ⟨htype, hnull⟩ := hdeclared "ldap_ca_cert" .text .null (some "LDAP_CA_CERT")
        (by simp [declarations])
      exact ⟨htype, .inl hnull⟩
  · obtain ⟨htype, hn⟩ := hdeclared "verbose_level" .int (.int 0) none (by simp [declarations])
    exact ⟨htype, 0, hn⟩
  · obtain ⟨-, hlevels⟩ := hdeclared "debug_levels" .dict (.dict []) none (by simp [declarations])
    exact ⟨[], hlevels, by simp⟩
  · exact .inl (hdeclared "_logger" .any .null none (by simp [declarations])).2
  · intro parameter name hfound
    obtain ⟨type, value, hmem⟩ := find?_parameters_declared hfound
    have hsame : (declarations (.text tool) file).filter (·.2.2.2.isSome) =
        (declarations .null []).filter (·.2.2.2.isSome) := rfl
    have hforeign : ((declarations .null []).filter (·.2.2.2.isSome)).all (fun d =>
        d.1 != Text.ofString "debug_levels" && d.1 != Text.ofString "_logger") = true := by
      decide +kernel
    rw [← hsame] at hforeign
    simpa using List.all_eq_true.mp hforeign _ (List.mem_filter.mpr ⟨hmem, rfl⟩)

/-- The configuration of the tool is sound before anything is read. -/
theorem sound_fresh (file : Text) : (fresh file).Sound :=
  fresh_eq file ▸ sound_declared toolName file

/-! ### Options of the command line -/

theorem mem_insert {key value : Value} {entries : List (Value × Value)} {e : Value × Value}
    (he : e ∈ Value.insert key value entries) : e.2 = value ∨ e ∈ entries := by
  induction entries with
  | nil => exact .inl (by simp [List.mem_singleton.mp he])
  | cons first rest ih =>
      obtain ⟨k, v⟩ := first
      rw [Value.insert] at he
      split at he
      · rcases List.mem_cons.mp he with rfl | he
        · exact .inl rfl
        · exact .inr (List.mem_cons_of_mem _ he)
      · rcases List.mem_cons.mp he with rfl | he
        · exact .inr List.mem_cons_self
        · exact (ih he).imp_right (List.mem_cons_of_mem _)

/-- All options may be assigned. -/
def AllAssignable (options : ConfigFile.Entries) : Prop :=
  ∀ option ∈ options, Assignable option.1 option.2

theorem AllAssignable.set {options : ConfigFile.Entries} (hoptions : AllAssignable options)
    {name : Text} {value : Value} (hvalue : Assignable name value) :
    AllAssignable (options.set name value) := by
  intro option hmem
  rcases ConfigFile.Entries.mem_set hmem with rfl | hmem
  · exact hvalue
  · exact hoptions option hmem

/-- A raised level is a number, and the other levels are what they were. -/
theorem isLevels_raiseLevel {s : GlobalOptions.State} (hs : AllAssignable s.options)
    (slot : GlobalOptions.Slot) : IsLevels (.dict (GlobalOptions.raiseLevel slot s.levels)) := by
  have hlevels : ∀ e ∈ s.levels, ∃ n, e.2 = .int n := by
    unfold GlobalOptions.State.levels
    split
    · rename_i levels hfound
      obtain ⟨option, hfind, hvalue⟩ := Option.map_eq_some_iff.mp hfound
      have hname : option.1 = Text.ofString "debug_levels" := by simpa using List.find?_some hfind
      obtain ⟨levels', heq, hall⟩ := (hs option (List.mem_of_find?_eq_some hfind)).levels hname
      rw [hvalue] at heq
      cases heq
      exact hall
    · simp
  refine ⟨_, rfl, fun e he => ?_⟩
  unfold GlobalOptions.raiseLevel at he
  rcases mem_insert he with hraised | he
  · exact ⟨_, hraised⟩
  · exact hlevels e he

/-- A variable but that of the levels and that of the logger may be assigned anything but null. -/
theorem assignable_of_ne {name : Text} {value : Value} (hvalue : value ≠ .null)
    (hlevels : name ≠ "debug_levels") (hlogger : name ≠ "_logger") : Assignable name value :=
  ⟨hvalue, fun heq => absurd heq hlevels, fun heq => absurd heq hlogger⟩

/-- Whatever is read, the options may be assigned. -/
theorem assignable_scan {s : GlobalOptions.State} (hs : AllAssignable s.options)
    (line : List Text) : AllAssignable (GlobalOptions.scan s line).1.options := by
  refine GlobalOptions.scan_induction (P := AllAssignable) (fun s name value hsets hs =>
    AllAssignable.set hs ?_) hs line
  -- no other option than those for debugging sets the levels, and none the logger
  cases hsets with
  | levels slot =>
      exact ⟨by simp, fun _ => isLevels_raiseLevel hs slot, fun heq => absurd heq (by decide)⟩
  | _ => exact assignable_of_ne (by simp) (by decide) (by decide)

end Config

end OtpRegistrar
