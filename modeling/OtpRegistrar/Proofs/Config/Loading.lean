/-
What loading the configuration comes to.

A load assigns the options, reads the file, stores what it has read, assigns what the
parameters stand for, and decides about tracebacks.  It can break off at each of these
but the last, and it leaves the configuration as far as it has come.  `Loading` lists the
ways in which it can go, each in terms of the configuration alone; that every load goes
in one of them is proved once, and what a load does to variables follows from the list.

An orderly configuration leaves no other way: what loading stores by itself is never
rejected.
-/
import OtpRegistrar.Proofs.Config.Failing
import OtpRegistrar.Proofs.Config.Orderly

namespace OtpRegistrar

/-- The variable that could not be set, where a fault tells of one. -/
def Fault.rejected? : Fault → Option Text
  | .config f => f.rejected?
  | _ => none

namespace Config

/-- What a configuration reads: the entries of the file that it names, and none where there is no
such file. -/
inductive Reads (c : Config) (files : FileTree) : ConfigFile.Entries → Prop
  | missing {path : Text} (hpath : c.get "config_file" = .text path)
      (hmissing : files.exists? path = false) : c.Reads files []
  | found {path : Text} {content : List UInt8} {t : Text} {entries : ConfigFile.Entries}
      (hpath : c.get "config_file" = .text path) (hthere : files.exists? path = true)
      (hcontent : files.read path = .ok content) (htext : Text.decodeFile content = .ok t)
      (hread : ConfigFile.read t = .ok entries) : c.Reads files entries

/-- What is read depends on one variable of the configuration. -/
theorem Reads.congr {c c' : Config} {files : FileTree} {entries : ConfigFile.Entries}
    (hreads : c.Reads files entries) (hsame : c'.get "config_file" = c.get "config_file") :
    c'.Reads files entries := by
  cases hreads with
  | missing hpath hmissing => exact .missing (hsame.trans hpath) hmissing
  | found hpath hthere hcontent htext hread =>
      exact .found (hsame.trans hpath) hthere hcontent htext hread

/-- Every parameter that is read has one value. -/
theorem Reads.nodup {c : Config} {files : FileTree} {entries : ConfigFile.Entries}
    (hreads : c.Reads files entries) :
    (entries.map (·.1)).Nodup := by
  cases hreads with
  | missing hpath hmissing => simp
  | found hpath hthere hcontent htext hread => exact ConfigFile.nodup_of_read hread

/-- Tracebacks are not shown if nothing has been said of them, and else nothing changes. -/
def Settles (c c' : Config) : Prop :=
  (c.get "print_tracebacks" = .null ∧ c.set "print_tracebacks" (.bool false) = .ok c') ∨
    (c.get "print_tracebacks" ≠ .null ∧ c' = c)

section

variable {c c' : Config} {name : Text}

theorem Settles.eq (hsettles : c.Settles c') : c' = { c with values := c'.values } := by
  rcases hsettles with ⟨-, hset⟩ | ⟨-, rfl⟩
  · rw [(eq_of_set hset).1]
  · rfl

theorem Settles.get?_eq (hsettles : c.Settles c')
    (hname : name = "print_tracebacks" → c.get name ≠ .null) : c'.get? name = c.get? name := by
  rcases hsettles with ⟨hnull, hset⟩ | ⟨-, rfl⟩
  · refine get?_set hset ?_
    rintro rfl
    exact hname rfl hnull
  · rfl

theorem Settles.get?_tracebacks (hsettles : c.Settles c')
    (hnull : c.get "print_tracebacks" = .null) :
    c'.get? "print_tracebacks" = some (.bool false) := by
  rcases hsettles with ⟨-, hset⟩ | ⟨hsome, -⟩
  · exact get?_set_self hset
  · exact absurd hnull hsome

end

/-- The ways in which a load can go, with what it ends with and the configuration that it leaves. -/
inductive Loading (c : Config) (files : FileTree) (options : List (Text × Value)) :
    Except Fault Unit → Config → Prop
  /-- An option is rejected. -/
  | refused {c' : Config} {f : Flaw} (hoptions : c.override options = (c', .error f)) :
      Loading c files options (.error (.config f)) c'
  /-- The file cannot be read. -/
  | unread {c' : Config} {f : Fault} (hoptions : c.override options = (c', .ok ()))
      (hf : f.rejected? = none) : Loading c files options (.error f) c'
  /-- A value of the file is rejected. -/
  | spoiled {c₁ c₂ c' : Config} {entries : ConfigFile.Entries} {unknown : List Text} {f : Flaw}
      (hoptions : c.override options = (c₁, .ok ())) (hreads : c₁.Reads files entries)
      (hmain : c₁.set "main_config" (Action.entriesValue entries) = .ok c₂)
      (hfile : c₂.applyFile entries = (c', unknown, .error f)) :
      Loading c files options (.error (.config f)) c'
  /-- Everything is set; the language of messages is left to be chosen. -/
  | applied {c₁ c₂ c₃ c' : Config} {entries : ConfigFile.Entries} {unknown : List Text}
      {r : Except Fault Unit} (hoptions : c.override options = (c₁, .ok ()))
      (hreads : c₁.Reads files entries)
      (hmain : c₁.set "main_config" (Action.entriesValue entries) = .ok c₂)
      (hfile : c₂.applyFile entries = (c₃, unknown, .ok ())) (hsettles : c₃.Settles c')
      (hr : ∀ f, r = .error f → f.rejected? = none) : Loading c files options r c'

end Config

/-- One host has the configuration and the files of another. -/
structure Host.Reads (h h' : Host) : Prop where
  config : h'.config = h.config
  files : h'.files = h.files

instance : IsPreorder Host Host.Reads where
  refl _ := ⟨rfl, rfl⟩
  trans _ _ _ hab hbc := ⟨hbc.config.trans hab.config, hbc.files.trans hab.files⟩

namespace Action

/-! ### Reading the file -/

theorem reads_readConfigText (path : Text) (quiet : Bool) :
    Keeps Host.Reads (readConfigText path quiet) := by
  have hsay : ∀ t, Keeps Host.Reads (say t) := fun t h => ⟨rfl, rfl⟩
  unfold readConfigText
  refine Keeps.bind (Keeps.read _) fun files => Keeps.bind (Keeps.orFail _ _) fun content => ?_
  cases quiet with
  | true => exact Keeps.orFail _ _
  | false => exact Keeps.bind (hsay _) fun _ => Keeps.orFail _ _

theorem reads_readConfigFile (quiet : Bool) : Keeps Host.Reads (readConfigFile quiet) := by
  unfold readConfigFile configPath
  refine Keeps.bind (Keeps.bind (Keeps.configured _) fun v => ?_) fun path => ?_
  · split
    · exact Keeps.pure _
    · exact Keeps.fail _
  refine Keeps.bind (Keeps.read _) fun h => Keeps.ite ?_ (Keeps.ite (Keeps.fail _) (Keeps.pure _))
  exact Keeps.bind (reads_readConfigText path quiet) fun t => Keeps.orFail _ _

/-- A file that cannot be read rejects no value. -/
theorem failsOnly_readConfigFile (quiet : Bool) :
    FailsOnly (fun f => f.rejected? = none) (readConfigFile quiet) := by
  have htext : ∀ path, FailsOnly (fun f => f.rejected? = none) (readConfigText path quiet) := by
    intro path
    unfold readConfigText
    refine FailsOnly.bind (FailsOnly.read _) fun files =>
      FailsOnly.bind (FailsOnly.orFail fun e _ => rfl) fun content => ?_
    cases quiet with
    | true => exact FailsOnly.orFail fun e _ => rfl
    | false =>
        exact FailsOnly.bind (FailsOnly.of_ok fun h => ⟨(), rfl⟩) fun _ =>
          FailsOnly.orFail fun e _ => rfl
  unfold readConfigFile configPath
  refine FailsOnly.bind (FailsOnly.bind (FailsOnly.configured _) fun v => ?_) fun path => ?_
  · split
    · exact FailsOnly.pure _
    · exact FailsOnly.fail rfl
  refine FailsOnly.bind (FailsOnly.read _) fun h => FailsOnly.ite ?_
    (FailsOnly.ite (FailsOnly.fail rfl) (FailsOnly.pure _))
  exact FailsOnly.bind (htext path) fun t => FailsOnly.orFail fun e _ => rfl

variable {h h' : Host}

theorem runOn_readConfigText_inv {path t : Text} {quiet : Bool}
    (hrun : (readConfigText path quiet).runOn h = (.ok t, h')) :
    ∃ content, h.files.read path = .ok content ∧ Text.decodeFile content = .ok t := by
  unfold readConfigText at hrun
  rw [runOn_bind_ok (runOn_read _ _)] at hrun
  obtain ⟨content, h₁, hcontent, hdecode⟩ := runOn_bind_inv hrun
  refine ⟨content, (runOn_orFail_inv hcontent).1, ?_⟩
  cases quiet with
  | true => exact (runOn_orFail_inv hdecode).1
  | false =>
      obtain ⟨_, h₂, -, hdecode⟩ := runOn_bind_inv hdecode
      exact (runOn_orFail_inv hdecode).1

theorem config_reads_of_runOn {entries : ConfigFile.Entries} {quiet : Bool}
    (hrun : (readConfigFile quiet).runOn h = (.ok entries, h')) :
    h.config.Reads h.files entries := by
  unfold readConfigFile configPath at hrun
  obtain ⟨path, h₁, hpath, hrun⟩ := runOn_bind_inv hrun
  obtain ⟨v, _, hv, hpath⟩ := runOn_bind_inv hpath
  cases hv
  split at hpath
  · rename_i path' hget
    cases hpath
    obtain ⟨_, _, hread, hrun⟩ := runOn_bind_inv hrun
    cases hread
    dsimp only [id] at hrun
    split at hrun
    · rename_i hthere
      obtain ⟨t, h₂, ht, hrun⟩ := runOn_bind_inv hrun
      obtain ⟨content, hcontent, htext⟩ := runOn_readConfigText_inv ht
      exact .found hget hthere hcontent htext (runOn_orFail_inv hrun).1
    · rename_i hmissing
      split at hrun
      · cases hrun
      · cases hrun
        exact .missing hget (Bool.eq_false_iff.mpr hmissing)
  · cases hpath

/-! ### Applying what has been read -/

theorem runOn_applyParameters (entries : ConfigFile.Entries) (h : Host) :
    ∃ h', (applyParameters entries).runOn h =
        ((h.config.applyFile entries).2.2.mapError .config, h') ∧
      h'.config = (h.config.applyFile entries).1 := by
  obtain ⟨h₁, hreport, -⟩ := runOn_reportAll (h.config.applyFile entries).2.1 h
  refine ⟨{ h₁ with config := (h.config.applyFile entries).1 }, ?_, rfl⟩
  unfold applyParameters
  rw [runOn_bind_ok (runOn_read _ _), runOn_bind_ok hreport, runOn_bind_ok (runOn_change _ _),
    runOn_orFail]

theorem runOn_settleTracebacks (horderly : h.config.Orderly) :
    ∃ h', settleTracebacks.runOn h = (.ok (), h') ∧ h.config.Settles h'.config := by
  unfold settleTracebacks
  rw [runOn_bind_ok (show (configured "print_tracebacks").runOn h = (.ok _, h) from rfl)]
  split
  · rename_i hnull
    obtain ⟨c, hset⟩ := Config.exists_set_of_accepts horderly.tracebacks
      (show VarType.bool.accepts (.bool false) = true from rfl)
    exact ⟨_, runOn_configure_ok hset, .inl ⟨hnull, hset⟩⟩
  · rename_i hsome
    exact ⟨h, rfl, .inr ⟨hsome, rfl⟩⟩

theorem runOn_useLanguage (v : Value) (h : Host) :
    ∃ r, (useLanguage v).runOn h = (r, h) ∧ ∀ f, r = .error f → f.rejected? = none := by
  unfold useLanguage
  split
  · exact ⟨.ok (), rfl, fun f hf => nomatch hf⟩
  · refine ⟨.error (.defect .missingAttribute), rfl, fun f hf => ?_⟩
    cases hf
    rfl

/-- **Every load of an orderly configuration goes in one of the ways that there are.** -/
theorem loading_of_runOn {options : List (Text × Value)} {quiet : Bool} {r : Except Fault Unit}
    (horderly : h.config.Orderly) (hrun : (loadConfig options quiet).runOn h = (r, h')) :
    h.config.Loading h.files options r h'.config := by
  unfold loadConfig at hrun
  rw [runOn_bind_ok (show (useLanguage (.text "en")).runOn h = (.ok (), h) from rfl)] at hrun
  have hoverride := runOn_override options h
  rcases hoptions : h.config.override options with ⟨c₁, outcome⟩
  rw [hoptions] at hoverride
  have horderly₁ := horderly.override hoptions
  cases outcome with
  | error f =>
      rw [runOn_bind_error hoverride] at hrun
      cases hrun
      exact .refused hoptions
  | ok _ =>
  rw [runOn_bind_ok hoverride] at hrun
  have hkept := reads_readConfigFile quiet { h with config := c₁ }
  rcases hfile : (readConfigFile quiet).runOn { h with config := c₁ } with ⟨outcome, h₂⟩
  rw [hfile] at hkept
  obtain rfl : h₂.config = c₁ := hkept.config
  cases outcome with
  | error f =>
      rw [runOn_bind_error hfile] at hrun
      cases hrun
      exact .unread hoptions (failsOnly_readConfigFile quiet _ f (by rw [hfile]))
  | ok entries =>
  rw [runOn_bind_ok hfile] at hrun
  have hreads : h₂.config.Reads h.files entries := config_reads_of_runOn hfile
  obtain ⟨c₂, hmain⟩ := Config.exists_set_of_accepts horderly₁.mainConfig
    (show VarType.dict.accepts (entriesValue entries) = true from rfl)
  rw [runOn_bind_ok (runOn_configure_ok hmain)] at hrun
  obtain ⟨h₃, happly, hconfig⟩ := runOn_applyParameters entries { h₂ with config := c₂ }
  dsimp only at happly hconfig
  rcases happlied : c₂.applyFile entries with ⟨c₃, unknown, outcome⟩
  rw [happlied] at happly hconfig
  have horderly₃ := (horderly₁.set hmain).applyFile happlied
  obtain rfl : h₃.config = c₃ := hconfig
  cases outcome with
  | error f =>
      rw [runOn_bind_error happly] at hrun
      cases hrun
      exact .spoiled hoptions hreads hmain happlied
  | ok _ =>
  rw [runOn_bind_ok happly] at hrun
  obtain ⟨h₄, hsettle, hsettles⟩ := runOn_settleTracebacks horderly₃
  rw [runOn_bind_ok hsettle,
    runOn_bind_ok (show (configured "language").runOn h₄ = (.ok _, h₄) from rfl)] at hrun
  obtain ⟨r', hlanguage, hr⟩ := runOn_useLanguage (h₄.config.get "language") h₄
  rw [hlanguage] at hrun
  cases hrun
  exact .applied hoptions hreads hmain happlied hsettles hr

end Action

end OtpRegistrar
