/-
What the options in front of a line set.

However long the line is, there are only a few things that its options do to the
variables that have been set so far, and `Sets` lists them.  What each of them keeps is
kept by the line, which is the induction that the facts about options are proved by.
-/
import OtpRegistrar.GlobalOptions
import OtpRegistrar.Proofs.ConfigFile

namespace OtpRegistrar.GlobalOptions

/-- What an option can set, behind what has been read so far. -/
inductive Sets (s : State) : Text → Value → Prop
  | levels (slot : Slot) : Sets s "debug_levels" (.dict (raiseLevel slot s.levels))
  | verbosity (n : Int) : Sets s "verbose_level" (.int n)
  | debug : Sets s "debug_enabled" (.bool true)
  | tracebacks : Sets s "print_tracebacks" (.bool true)
  | colors : Sets s "color_logs" (.bool true)
  | version : Sets s "show_version" (.bool true)
  | help : Sets s "show_help" (.bool true)
  | logfile (path : Text) : Sets s "logfile" (.text path)
  | logging : Sets s "file_logging" (.bool true)
  | configFile (path : Text) : Sets s "config_file" (.text path)

/-- No option takes a value away, and none stands for what a file holds. -/
theorem Sets.plain {s : State} {name : Text} {value : Value} (hsets : Sets s name value) :
    value ≠ .null ∧ name ≠ "main_config" := by
  cases hsets <;> exact ⟨by simp, by decide⟩

section

variable {P : ConfigFile.Entries → Prop} {s : State}
  (hset : ∀ (s : State) (name : Text) (value : Value), Sets s name value → P s.options →
    P (s.set name value).options)

include hset

theorem debug_induction (hs : P s.options) (slot : Slot) : P (s.debug slot).options := by
  have hlevels := hset s _ _ (.levels slot) hs
  cases slot with
  | base => exact hset _ _ _ .debug (hset _ _ _ (.verbosity 10) hlevels)
  | raiseExceptions => exact hset _ _ _ .tracebacks hlevels
  | moduleLoading | netTraffic | timestamps => exact hlevels

theorem debugAll_induction (hs : P s.options) (letters : Text) :
    P (s.debugAll letters).1.options := by
  induction letters generalizing s with
  | nil => exact hs
  | cons letter rest ih =>
      rw [State.debugAll]
      split
      · exact hs
      · exact ih (debug_induction hset hs _)

/-- **What every option keeps, a line keeps.** -/
theorem scan_induction (hs : P s.options) (line : List Text) : P (scan s line).1.options := by
  fun_induction scan s line with
  | case1 => exact hs
  | case2 s token rest hdebug s' hletters ih =>
      have hall := debugAll_induction hset hs (debugLetters token)
      rw [hletters] at hall
      exact ih hall
  | case3 s token rest hdebug s' e hletters =>
      have hall := debugAll_induction hset hs (debugLetters token)
      rw [hletters] at hall
      exact hall
  | case4 s token rest _ hverbose ih => exact ih (hset _ _ _ (.verbosity _) hs)
  | case5 s rest _ _ ih => exact ih (hset _ _ _ .colors hs)
  | case6 s rest _ _ _ ih => exact ih (hset _ _ _ .version hs)
  | case7 s token rest _ _ _ _ hhelp ih => exact ih (hset _ _ _ .help hs)
  | case8 => exact hs
  | case9 s value rest _ _ _ _ _ ih =>
      exact ih (hset _ _ _ .logging (hset _ _ _ (.logfile value) hs))
  | case10 => exact hs
  | case11 s value rest _ _ _ _ _ _ ih => exact ih (hset _ _ _ (.configFile value) hs)
  | case12 => exact hs

end

/-- Every variable is set once. -/
theorem nodup_read (line : List Text) : ((read line).1.options.map (·.1)).Nodup :=
  scan_induction (P := fun options => (options.map (·.1)).Nodup)
    (fun _ name value _ hs => ConfigFile.Entries.nodup_set hs name value) (by simp) line

/-- What a line sets is what an option can set. -/
theorem sets_of_mem {line : List Text} {option : Text × Value}
    (hmem : option ∈ (read line).1.options) : ∃ s, Sets s option.1 option.2 := by
  refine scan_induction (P := fun options => ∀ option ∈ options, ∃ s, Sets s option.1 option.2)
    (fun s name value hsets hs option hmem => ?_) (by simp) line option hmem
  rcases ConfigFile.Entries.mem_set hmem with rfl | hmem
  · exact ⟨s, hsets⟩
  · exact hs option hmem

/-- What is left of a line behind the options is its end. -/
theorem rest_suffix (s : State) (line : List Text) : (scan s line).2.1 <:+ line := by
  fun_induction scan s line with
  | case1 => exact List.suffix_rfl
  | case2 s token rest hdebug s' hletters ih => exact ih.trans (List.suffix_cons token rest)
  | case3 => exact List.suffix_rfl
  | case4 s token rest _ _ ih => exact ih.trans (List.suffix_cons token rest)
  | case5 s rest _ _ ih => exact ih.trans (List.suffix_cons _ rest)
  | case6 s rest _ _ _ ih => exact ih.trans (List.suffix_cons _ rest)
  | case7 s token rest _ _ _ _ _ ih => exact ih.trans (List.suffix_cons token rest)
  | case8 => exact List.nil_suffix
  | case9 s value rest _ _ _ _ _ ih =>
      exact (ih.trans (List.suffix_cons value rest)).trans (List.suffix_cons _ _)
  | case10 => exact List.nil_suffix
  | case11 s value rest _ _ _ _ _ _ ih =>
      exact (ih.trans (List.suffix_cons value rest)).trans (List.suffix_cons _ _)
  | case12 => exact List.suffix_rfl

end OtpRegistrar.GlobalOptions
