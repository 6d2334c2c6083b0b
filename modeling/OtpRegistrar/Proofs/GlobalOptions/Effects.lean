/-
What the options in front of a line leave behind.

A variable has the value of the last option that sets it, whatever came before; only the
levels of debugging add up.  So for the levels something has to be carried from letter to
letter, and `Tally` says what: every slot that has been raised has an entry, and in it
stands how often.  All letters of all tokens together are then counted as one list.

The main statement is about lines, not about options.  A line `ReadsAs` options of a kind
if its reading is theirs, what is left and what goes wrong included.  Every line does for
options of any kind, and those that do for proper ones only are told by their tokens.
-/
import OtpRegistrar.Proofs.ConfigFile.Appending
import OtpRegistrar.Proofs.GlobalOptions.Items
import OtpRegistrar.Proofs.Value.Table

namespace OtpRegistrar.GlobalOptions

variable {s : State} {item : Item} {items : List Item} {line rest left : List Text}
  {slot : Slot} {raised : List Slot} {levels : List (Value × Value)} {name : Text}

/-! ### Counting letters -/

theorem Slot.name_injective : Function.Injective Slot.name := fun a b hsame => by
  cases a <;> cases b <;> first | rfl | exact absurd hsame (by decide)

/-- The table has an entry for every slot that has been raised, which says how often, and no
others. -/
structure Tally (raised : List Slot) (levels : List (Value × Value)) : Prop where
  count : ∀ slot : Slot, Value.lookup (.text slot.name) levels =
    if slot ∈ raised then some (.int (raised.count slot : Nat)) else none
  keys : ∀ key ∈ levels.map (·.1), ∃ slot ∈ raised, key = .text slot.name
  distinct : (levels.map (·.1)).Nodup

theorem tally_nil : Tally [] [] := ⟨fun _ => rfl, by simp, List.nodup_nil⟩

/-- **One more letter is one more for its slot.** -/
theorem Tally.raise (htally : Tally raised levels) (slot : Slot) :
    Tally (raised ++ [slot]) (raiseLevel slot levels) where
  count := by
    intro other
    unfold raiseLevel
    by_cases hslot : slot = other
    · subst hslot
      rw [Value.lookup_insert_self, htally.count, if_pos List.mem_concat_self, List.count_append,
        List.count_singleton_self]
      by_cases hraised : slot ∈ raised
      · rw [if_pos hraised]
        rfl
      · rw [if_neg hraised, List.count_eq_zero.mpr hraised]
        rfl
    · have hmem : other ∈ raised ++ [slot] ↔ other ∈ raised := by simp [Ne.symm hslot]
      have hcount : (raised ++ [slot]).count other = raised.count other := by
        simp [List.count_append, hslot]
      rw [Value.lookup_insert_of_ne fun hname => hslot (Slot.name_injective hname), htally.count,
        hcount]
      exact if_congr hmem.symm rfl rfl
  keys := by
    intro key hkey
    have hcases : key ∈ levels.map (·.1) ∨ key = .text slot.name := by
      unfold raiseLevel at hkey
      rcases Value.keys_insert_text slot.name _ levels with ⟨-, hkeys⟩ | ⟨-, hkeys⟩
      · rw [hkeys] at hkey
        exact .inl hkey
      · rw [hkeys, List.mem_append, List.mem_singleton] at hkey
        exact hkey
    rcases hcases with hold | rfl
    · obtain ⟨other, hother, rfl⟩ := htally.keys key hold
      exact ⟨other, List.mem_append_left _ hother, rfl⟩
    · exact ⟨slot, List.mem_concat_self, rfl⟩
  distinct := by
    unfold raiseLevel
    rcases Value.keys_insert_text slot.name _ levels with ⟨-, hkeys⟩ | ⟨hnew, hkeys⟩
    · rw [hkeys]
      exact htally.distinct
    · rw [hkeys]
      rw [← List.concat_eq_append]
      exact htally.distinct.concat hnew

/-- So many slots have been raised: the levels are there once one has been. -/
def Raises (raised : List Slot) (s : State) : Prop :=
  ∃ levels, Tally raised levels ∧
    s.options.get? "debug_levels" = if raised = [] then none else some (.dict levels)

theorem get?_set (s : State) (name : Text) (value : Value) (other : Text) :
    (s.set name value).options.get? other =
      if name = other then some value else s.options.get? other :=
  ConfigFile.Entries.get?_set s.options name value other

theorem get?_set_of_ne {other : Text} (hne : name ≠ other) (value : Value) :
    (s.set name value).options.get? other = s.options.get? other := by
  rw [get?_set, if_neg hne]

/-- Other variables are no matter for the levels. -/
theorem Raises.set (hraises : Raises raised s) (hname : name ≠ "debug_levels") (value : Value) :
    Raises raised (s.set name value) := by
  obtain ⟨levels, htally, hlevels⟩ := hraises
  exact ⟨levels, htally, by rw [get?_set_of_ne hname, hlevels]⟩

theorem Raises.levels_eq (hraises : Raises raised s) : Tally raised s.levels := by
  obtain ⟨levels, htally, hlevels⟩ := hraises
  unfold State.levels
  rw [hlevels]
  by_cases hnone : raised = []
  · subst hnone
    exact tally_nil
  · rw [if_neg hnone]
    exact htally

theorem Raises.debug (hraises : Raises raised s) (slot : Slot) :
    Raises (raised ++ [slot]) (s.debug slot) := by
  have hset : Raises (raised ++ [slot]) (s.set "debug_levels" (.dict (raiseLevel slot s.levels))) :=
    ⟨_, hraises.levels_eq.raise slot, by simp [get?_set]⟩
  cases slot with
  | base => exact (hset.set (by decide) _).set (by decide) _
  | raiseExceptions => exact hset.set (by decide) _
  | moduleLoading | netTraffic | timestamps => exact hset

theorem Raises.debugAll (hraises : Raises raised s) (slots : List Slot) :
    Raises (raised ++ slots) (slots.foldl State.debug s) := by
  induction slots generalizing raised s with
  | nil => rwa [List.append_nil]
  | cons slot slots ih =>
      have hrest := ih (hraises.debug slot)
      rwa [List.append_assoc] at hrest

/-- The slots that an option raises. -/
def Item.slots : Item → List Slot
  | debug slots => raisedBy slots
  | _ => []

/-- The slots that options raise, one for each letter that counts. -/
def raisedSlots (items : List Item) : List Slot := items.flatMap Item.slots

theorem Raises.apply (hraises : Raises raised s) (item : Item) :
    Raises (raised ++ item.slots) (item.apply s) := by
  have hsame : Raises (raised ++ []) s := by rwa [List.append_nil]
  cases item with
  | debug slots => exact hraises.debugAll _
  | verbosity _ _ | colors | version | help _ | configFile _ => exact hsame.set (by decide) _
  | logfile path => exact (hsame.set (by decide) _).set (by decide) _

/-- **Letters are counted over all options.** -/
theorem Raises.applyAll (hraises : Raises raised s) (items : List Item) :
    Raises (raised ++ raisedSlots items) (applyAll s items) := by
  induction items generalizing raised s with
  | nil => rwa [raisedSlots, List.flatMap_nil, List.append_nil]
  | cons item items ih =>
      have hrest := ih (hraises.apply item)
      rwa [List.append_assoc] at hrest

/-! ### The last option counts -/

/-- **A variable has the value of the last option that sets it**, or what it had. -/
theorem get?_applyAll {α : Type} {sets? : Item → Option α} {value : α → Value}
    (happly : ∀ s item, (item.apply s).options.get? name =
      ((sets? item).map value).or (s.options.get? name))
    (s : State) (items : List Item) :
    (applyAll s items).options.get? name =
      ((items.filterMap sets?).getLast?.map value).or (s.options.get? name) := by
  induction items generalizing s with
  | nil => rfl
  | cons item items ih =>
      rw [applyAll_cons, ih, happly, ← Option.or_assoc]
      congr 1
      cases hitem : sets? item with
      | none => rw [List.filterMap_cons_none hitem, Option.map_none, Option.or_none]
      | some x =>
          rw [List.filterMap_cons_some hitem, List.getLast?_cons]
          cases (items.filterMap sets?).getLast? <;> rfl

/-- Debug letters leave the variables alone that are none of theirs. -/
theorem get?_foldl_debug
    (hname : name ∉ [Text.ofString "debug_levels", "verbose_level", "debug_enabled",
      "print_tracebacks"]) (s : State) (slots : List Slot) :
    (slots.foldl State.debug s).options.get? name = s.options.get? name := by
  simp only [List.mem_cons, List.not_mem_nil, or_false, not_or] at hname
  obtain ⟨hlevels, hverbose, henabled, htracebacks⟩ := hname
  have hdebug : ∀ s slot, (State.debug s slot).options.get? name = s.options.get? name := by
    intro s slot
    cases slot with
    | base =>
        exact (get?_set_of_ne (Ne.symm henabled) _).trans
          ((get?_set_of_ne (Ne.symm hverbose) _).trans (get?_set_of_ne (Ne.symm hlevels) _))
    | raiseExceptions =>
        exact (get?_set_of_ne (Ne.symm htracebacks) _).trans (get?_set_of_ne (Ne.symm hlevels) _)
    | moduleLoading | netTraffic | timestamps => exact get?_set_of_ne (Ne.symm hlevels) _
  induction slots generalizing s with
  | nil => rfl
  | cons slot slots ih => rw [List.foldl_cons, ih, hdebug]

/-- The configuration file that an option names. -/
def Item.configFile? : Item → Option Text
  | configFile path => some path
  | _ => none

/-- The log file that an option names. -/
def Item.logfile? : Item → Option Text
  | logfile path => some path
  | _ => none

theorem get?_configFile (s : State) (item : Item) :
    (item.apply s).options.get? "config_file" =
      (item.configFile?.map Value.text).or (s.options.get? "config_file") := by
  cases item with
  | debug slots => exact get?_foldl_debug (by decide) s _
  | configFile path => exact (get?_set _ _ _ _).trans (if_pos rfl)
  | logfile path => exact (get?_set_of_ne (by decide) _).trans (get?_set_of_ne (by decide) _)
  | verbosity _ _ | colors | version | help _ => exact get?_set_of_ne (by decide) _

theorem get?_logfile (s : State) (item : Item) :
    (item.apply s).options.get? "logfile" =
      (item.logfile?.map Value.text).or (s.options.get? "logfile") := by
  cases item with
  | debug slots => exact get?_foldl_debug (by decide) s _
  | logfile path =>
      exact (get?_set_of_ne (by decide) _).trans ((get?_set _ _ _ _).trans (if_pos rfl))
  | verbosity _ _ | colors | version | help _ | configFile _ => exact get?_set_of_ne (by decide) _

/-! ### Lines and their options -/

/-- What options leave: the levels of debugging, and the files that were named last. -/
structure Leaves (items : List Item) (s : State) : Prop where
  levels : Raises (raisedSlots items) s
  configFile : s.options.get? "config_file" =
    (items.filterMap Item.configFile?).getLast?.map Value.text
  logfile : s.options.get? "logfile" = (items.filterMap Item.logfile?).getLast?.map Value.text

theorem leaves_applyAll (items : List Item) : Leaves items (applyAll ⟨[], false⟩ items) where
  levels := (show Raises [] ⟨[], false⟩ from ⟨[], tally_nil, rfl⟩).applyAll items
  configFile := (get?_applyAll get?_configFile _ items).trans Option.or_none
  logfile := (get?_applyAll get?_logfile _ items).trans Option.or_none

/-- The line is read as options of which `P` holds. What is left has none in front, and the reading
fails where one has a flaw. -/
structure ReadsAs (P : Item → Prop) (line : List Text) : Prop where
  returns : ∀ s rest, read line = (s, rest, .ok ()) →
    rest <:+ line ∧ read rest = (⟨[], false⟩, rest, .ok ()) ∧
      ∃ items, (∀ item ∈ items, P item) ∧ line = tokens items ++ rest ∧ Leaves items s
  fails : ∀ f left, (read line).2 = (left, .error f) ↔
    ∃ items rest, (∀ item ∈ items, P item) ∧ line = tokens items ++ rest ∧ Flawed rest f left

theorem read_of_stops (hstops : Stops rest) (items : List Item) :
    read (tokens items ++ rest) = (applyAll ⟨[], false⟩ items, rest, .ok ()) := by
  rw [read, scan_tokens, hstops]

theorem read_of_flawed {f : Flaw} (hflawed : Flawed rest f left) (items : List Item) :
    (read (tokens items ++ rest)).2 = (left, .error f) := by
  rw [read, scan_tokens, hflawed.scan_eq]

/-- Whatever a line is, it is read as options. -/
theorem readsAs (line : List Text) : ReadsAs (fun _ => True) line := by
  obtain ⟨items, rest, rfl, hends⟩ := exists_items line
  refine ⟨fun s left hread => ?_, fun f left => ⟨fun hread => ?_, ?_⟩⟩
  · rcases hends with hstops | ⟨f, left', hflawed⟩
    · rw [read_of_stops hstops] at hread
      cases hread
      exact ⟨List.suffix_append _ _, hstops _, items, fun _ _ => trivial, rfl,
        leaves_applyAll items⟩
    · have hfails := read_of_flawed hflawed items
      rw [hread] at hfails
      cases hfails
  · rcases hends with hstops | ⟨f', left', hflawed⟩
    · rw [read_of_stops hstops] at hread
      cases hread
    · have hfails := read_of_flawed hflawed items
      rw [hread] at hfails
      cases hfails
      exact ⟨items, rest, fun _ _ => trivial, rfl, hflawed⟩
  · rintro ⟨items', rest', -, hline, hflawed⟩
    rw [hline]
    exact read_of_flawed hflawed items'

/-- A line is read as proper options if it has no others in front. -/
theorem readsAs_proper_iff (line : List Text) :
    ReadsAs Item.Proper line ↔
      ∀ items rest, line = tokens items ++ rest → ∀ item ∈ items, item.Proper := by
  constructor
  · intro hproper items rest hline
    -- the options that the reading goes through begin with these
    obtain ⟨items', rest', hitems', hline', hends⟩ : ∃ items' rest',
        (∀ item ∈ items', item.Proper) ∧ line = tokens items' ++ rest' ∧ Ends rest' := by
      obtain ⟨items₀, rest₀, hline₀, hends⟩ := exists_items line
      rcases hends with hstops | ⟨f, left, hflawed⟩
      · obtain ⟨-, -, items', hitems', hline', -⟩ :=
          hproper.returns _ rest₀ (hline₀ ▸ read_of_stops hstops items₀)
        exact ⟨items', rest₀, hitems', hline', .inl hstops⟩
      · obtain ⟨items', rest', hitems', hline', hflawed'⟩ :=
          (hproper.fails f left).mp (hline₀ ▸ read_of_flawed hflawed items₀)
        exact ⟨items', rest', hitems', hline', .inr ⟨f, left, hflawed'⟩⟩
    have hbegins := hends.items_prefix (hline'.symm.trans hline)
    exact fun item hitem => hitems' item (hbegins.subset hitem)
  · intro hproper
    have hall := readsAs line
    refine ⟨fun s rest hread => ?_, fun f left => (hall.fails f left).trans ?_⟩
    · obtain ⟨hsuffix, hrest, items, -, hline, hleaves⟩ := hall.returns s rest hread
      exact ⟨hsuffix, hrest, items, hproper items rest hline, hline, hleaves⟩
    · constructor
      · rintro ⟨items, rest, -, hline, hflawed⟩
        exact ⟨items, rest, hproper items rest hline, hline, hflawed⟩
      · rintro ⟨items, rest, -, hline, hflawed⟩
        exact ⟨items, rest, fun _ _ => trivial, hline, hflawed⟩

/-- **A line is read as the options in front of it**: they are taken away and nothing else, letters
are counted, the last file counts, and the reading fails at an option with a flaw. These are options
as they are meant to be, unless a line feed ends a verbosity token among them. -/
theorem read_takes_options (line : List Text) :
    ReadsAs (fun _ => True) line ∧
    (ReadsAs Item.Proper line ↔
      ∀ items rest, line = tokens items ++ rest → ∀ item ∈ items, item.Proper) :=
  ⟨readsAs line, readsAs_proper_iff line⟩

/-- A token that is no option, for the line feed at its end. -/
def endedVerbosity : Text := "-v\n"

/-- It is taken for one. -/
theorem read_takes_ended :
    read [endedVerbosity] = (⟨[("verbose_level", .int 2)], false⟩, [], .ok ()) ∧
    ¬ ReadsAs Item.Proper [endedVerbosity] := by
  refine ⟨rfl, fun hproper => ?_⟩
  have hended := (readsAs_proper_iff _).mp hproper [.verbosity 0 true] [] rfl
  exact absurd (hended _ (List.mem_singleton_self _)) (by decide)

end OtpRegistrar.GlobalOptions
