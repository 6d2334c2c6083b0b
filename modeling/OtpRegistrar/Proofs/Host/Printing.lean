/-
What is shown of a failure.

A run that fails may show errors, many of them, but it must not claim a success as
well.  So of the events between two hosts two things are asked: that none of them
is printed, and that a certain error is among them.  The first is kept by nearly
everything that a run does, and is the frame in which the second is stated.
-/
import OtpRegistrar.Proofs.Directory.Parallel
import OtpRegistrar.Password.Reading

namespace OtpRegistrar

namespace Host

/-- One host comes behind another with the events, and shows errors in the same way. -/
structure Adds (h : Host) (es : List Event) (h' : Host) : Prop where
  events : h'.events = h.events ++ es
  screen : h'.screen = h.screen

/-- Nothing but errors is shown between the hosts. -/
def Unprinted (h h' : Host) : Prop := ∃ es, h.Adds es h' ∧ ∀ t, Event.printed t ∉ es

/-- The event that an error with the text is shown. -/
def complaint (h : Host) (t : Text) : Event :=
  .reported (Action.errorText h.screen (.text t) ++ Text.newline)

/-- Between the hosts an error with the text is shown, and nothing but errors. -/
def Complains (h h' : Host) (t : Text) : Prop :=
  ∃ es, h.Adds es h' ∧ h.complaint t ∈ es ∧ ∀ t, Event.printed t ∉ es

variable {h h' h'' : Host} {es fs : List Event} {t : Text}

theorem Adds.refl (h : Host) : h.Adds [] h := ⟨(List.append_nil _).symm, rfl⟩

theorem Adds.trans (hes : h.Adds es h') (hfs : h'.Adds fs h'') : h.Adds (es ++ fs) h'' where
  events := by rw [hfs.events, hes.events, List.append_assoc]
  screen := hfs.screen.trans hes.screen

theorem adds_note (h : Host) (e : Event) : h.Adds [e] (h.note e) := ⟨rfl, rfl⟩

/-- What is emitted outward is among the events. -/
theorem Adds.subset (hadds : h.Adds es h') (hemits : h.Emits fs h') : fs ⊆ es := by
  have houtward := hemits.outward
  unfold outward at houtward
  rw [hadds.events, List.filter_append, List.append_cancel_left_eq] at houtward
  rw [← houtward]
  exact List.filter_sublist.subset

namespace Unprinted

theorem refl (h : Host) : h.Unprinted h := ⟨[], .refl h, fun _ hmem => nomatch hmem⟩

theorem trans (hab : h.Unprinted h') (hbc : h'.Unprinted h'') : h.Unprinted h'' := by
  obtain ⟨es, hes, hnone⟩ := hab
  obtain ⟨fs, hfs, hnone'⟩ := hbc
  refine ⟨es ++ fs, hes.trans hfs, fun t hmem => ?_⟩
  rcases List.mem_append.mp hmem with hmem | hmem
  · exact hnone t hmem
  · exact hnone' t hmem

theorem note (h : Host) {e : Event} (he : e.isPrinted = false) : h.Unprinted (h.note e) := by
  refine ⟨[e], h.adds_note e, fun t hmem => ?_⟩
  rw [← List.mem_singleton.mp hmem] at he
  cases he

/-- A change of the host that is no event and leaves the screen alone shows nothing. -/
theorem of_same (hevents : h'.events = h.events) (hscreen : h'.screen = h.screen) :
    h.Unprinted h' :=
  ⟨[], ⟨by rw [hevents, List.append_nil], hscreen⟩, fun _ hmem => nomatch hmem⟩

end Unprinted

instance : IsPreorder Host Unprinted where
  refl := Unprinted.refl
  trans _ _ _ hab hbc := hab.trans hbc

namespace Complains

theorem unprinted (hbc : h.Complains h' t) : h.Unprinted h' := by
  obtain ⟨es, hes, -, hnone⟩ := hbc
  exact ⟨es, hes, hnone⟩

/-- Errors that were shown before do not matter. -/
theorem after (hab : h.Unprinted h') (hbc : h'.Complains h'' t) : h.Complains h'' t := by
  obtain ⟨es, hes, hnone⟩ := hab
  obtain ⟨fs, hfs, htold, hnone'⟩ := hbc
  refine ⟨es ++ fs, hes.trans hfs, List.mem_append_right _ ?_, fun t hmem => ?_⟩
  · unfold complaint at htold ⊢
    rwa [hes.screen] at htold
  · rcases List.mem_append.mp hmem with hmem | hmem
    · exact hnone t hmem
    · exact hnone' t hmem

/-- Errors that are shown behind do not matter. -/
theorem before (hab : h.Complains h' t) (hbc : h'.Unprinted h'') : h.Complains h'' t := by
  obtain ⟨es, hes, htold, hnone⟩ := hab
  obtain ⟨fs, hfs, hnone'⟩ := hbc
  refine ⟨es ++ fs, hes.trans hfs, List.mem_append_left _ htold, fun t hmem => ?_⟩
  rcases List.mem_append.mp hmem with hmem | hmem
  · exact hnone t hmem
  · exact hnone' t hmem

end Complains

end Host

namespace Action

variable {α : Type}

/-- The action shows nothing but errors, on any host. -/
abbrev PrintsNothing (a : Action α) : Prop := Keeps Host.Unprinted a

theorem runOn_say (t : Text) (h : Host) :
    (say t).runOn h = (.ok (), h.note (.printed (t ++ Text.newline))) := rfl

theorem runOn_complain (t : Text) (h : Host) :
    (complain t).runOn h = (.ok (), h.note (h.complaint t)) := rfl

/-- An error that is shown is complained of. -/
theorem complains_complain (t : Text) (h : Host) : h.Complains ((complain t).runOn h).2 t := by
  rw [runOn_complain]
  refine ⟨[h.complaint t], h.adds_note _, List.mem_singleton_self _, fun t' hmem => ?_⟩
  cases List.mem_singleton.mp hmem

/-- Whatever a session does shows nothing but errors. -/
theorem runsTogether_unprinted (h₀ : Host) :
    Host.RunsTogether (Itself Host.Unprinted h₀) fun e e' => e' = e ∧ e.isPrinted = false :=
  .itself (fun h _ he => .note h he) (fun _ _ => .of_same rfl rfl) (fun _ _ => .of_same rfl rfl)
    (fun _ _ => .of_same rfl rfl) (fun _ _ => .of_same rfl rfl) h₀

theorem printsNothing_complain (t : Text) : PrintsNothing (complain t) :=
  fun h => (complains_complain t h).unprinted

theorem printsNothing_logger : PrintsNothing logger :=
  Keeps.of_respects fun h₀ => respects_runLogger (runsTogether_unprinted h₀)

theorem printsNothing_log (entries : Value) (level : LogLevel) (t : Text) :
    PrintsNothing (log entries level t) :=
  Keeps.of_respects fun h₀ => respects_entry (runsTogether_unprinted h₀) entries level t

theorem printsNothing_submit (r : DeviceRequest) : PrintsNothing (submit r) :=
  Keeps.of_respects fun h₀ => respects_submit (runsTogether_unprinted h₀) r

theorem printsNothing_session {s : Settings} {body : Action α} (hbody : PrintsNothing body) :
    PrintsNothing (session s body) := by
  unfold session
  refine Keeps.bind (Keeps.of_respects fun h₀ => respects_connect (runsTogether_unprinted h₀) s)
    fun _ => Keeps.bind hbody.attempt fun outcome => Keeps.bind ?_ fun _ => Keeps.settle _
  exact Keeps.of_respects fun h₀ => respects_close (runsTogether_unprinted h₀)

theorem printsNothing_readPassword (source : PasswordSource) :
    PrintsNothing (readPassword source) := by
  unfold readPassword
  cases source with
  | none => exact Keeps.pure _
  | inline t => exact Keeps.map (Keeps.orFail _ _) _
  | unsettled => exact Keeps.fail _
  | file path =>
      refine Keeps.map (fun h => ?_) _
      unfold readPasswordFile
      rw [runOn_ofFunction]
      dsimp only
      split
      · exact .note h rfl
      · split
        · exact .note h rfl
        · exact .note h rfl
  | prompt account question =>
      refine Keeps.map ?_ _
      unfold readPrompt
      refine Keeps.bind (Keeps.attempt fun h => ?_) fun outcome => ?_
      · have hnoted : h.Unprinted (h.note (.prompted question)) := .note h rfl
        unfold ask
        rw [runOn_ofFunction]
        dsimp only
        split
        · exact hnoted
        · exact hnoted.trans (.of_same rfl rfl)
        · exact hnoted.trans (.of_same rfl rfl)
      · split
        · exact Keeps.orFail _ _
        · exact Keeps.ite (Keeps.fail _) (Keeps.fail _)

end Action

end OtpRegistrar
