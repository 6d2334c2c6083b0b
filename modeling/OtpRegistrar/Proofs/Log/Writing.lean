/-
What is written of an entry, and what of it other loggers have a hand in.

An entry reaches the destinations of its logger as texts.  `Host.writes` lists them, each with where
it goes, and `runOn_logTo` says that writing the entry is putting these texts there, no more and no
less.  A destination that throws entries away gets none, and neither does the system log or a file
of an entry that is not UTF-8.

Setting up a logger changes no other logger.  But the banner is shared: a layout settles, when its
logger is set up, that there is a banner, and not which.  So what is written of an entry to another
logger is what it would have been with the new banner, and `setUpLogger_keeps_entries_iff` says when
that makes no difference.
-/
import OtpRegistrar.Proofs.Log.Parallel
import OtpRegistrar.Proofs.Log.Setup

namespace OtpRegistrar

variable {h h₀ h₁ h' : Host} {handler : LogHandler} {sink : LogSink} {level : LogLevel}
  {t name : Text} {q r : LogRequest} {others : List LogRequest}

/-! ### Texts and where they go -/

/-- Does a destination keep the text of an entry? -/
def LogSink.keeps (entry : Text) : LogSink → Bool
  | .file _ => (Text.encode (entry ++ Text.newline)).isOk
  | .syslog => (Text.encode entry).isOk
  | .discard => false
  | .stderr => true

/-- What a handler writes of an entry, with where it goes. -/
def LogHandler.writes (handler : LogHandler) (h : Host) (level : LogLevel) (t : Text) :
    Option (LogSink × Text) :=
  if handler.sink.keeps (handler.entry h level t) then
    some (handler.sink, handler.entry h level t)
  else none

namespace Host

/-- What is written of an entry to a logger, with where it goes.  Without any handler a warning, or
what matters more, is shown as it is. -/
def writes (h : Host) (name : Text) (level : LogLevel) (t : Text) : List (LogSink × Text) :=
  if (h.logs.get name).takes level = true then
    if (h.logs.get name).handlers.isEmpty = true then
      if LogLevel.warning.rank ≤ level.rank then [(.stderr, t)] else []
    else (h.logs.get name).handlers.filterMap fun handler => handler.writes h level t
  else []

/-- A text is put where it goes. -/
def write (h : Host) : LogSink × Text → Host
  | (.stderr, entry) => h.note (.reported (entry ++ Text.newline))
  | (.syslog, entry) => h.note (.syslogSent entry)
  | (.file place, entry) =>
    match Text.encode (entry ++ Text.newline) with
    | .ok bytes => { h with files := h.files.append place bytes }
    | .error _ => h
  | (.discard, _) => h

/-- The host with another banner in force. -/
def withBanner (h : Host) (banner : Option Text) : Host :=
  { h with logs := { h.logs with banner } }

end Host

/-- An entry is made of the time, of the banner in force and of the colours of the screen, whatever
else there is. -/
theorem LogHandler.entry_congr (htime : h'.time = h.time) (hscreen : h'.screen = h.screen)
    (hbanner : h'.logs.banner = h.logs.banner) (handler : LogHandler) (level : LogLevel)
    (t : Text) : handler.entry h' level t = handler.entry h level t := by
  unfold entry
  rw [htime, hscreen, hbanner]

theorem LogHandler.writes_congr (htime : h'.time = h.time) (hscreen : h'.screen = h.screen)
    (hbanner : h'.logs.banner = h.logs.banner) (handler : LogHandler) (level : LogLevel)
    (t : Text) : handler.writes h' level t = handler.writes h level t := by
  unfold writes
  rw [entry_congr htime hscreen hbanner]

/-- What is written depends on the logger itself, on the time, on the screen and on the banner in
force. -/
theorem Host.writes_congr (hlogger : h'.logs.get name = h.logs.get name) (htime : h'.time = h.time)
    (hscreen : h'.screen = h.screen) (hbanner : h'.logs.banner = h.logs.banner) (level : LogLevel)
    (t : Text) : h'.writes name level t = h.writes name level t := by
  unfold writes
  rw [hlogger]
  simp only [LogHandler.writes_congr htime hscreen hbanner]

theorem Host.writes_of_not_takes (htakes : ¬(h.logs.get name).takes level = true) :
    h.writes name level t = [] := if_neg htakes

/-- A logger without handlers writes the bare text of what matters enough. -/
theorem Host.writes_of_no_handlers (hhandlers : (h.logs.get name).handlers = [])
    (htakes : (h.logs.get name).takes level = true) :
    h.writes name level t =
      if LogLevel.warning.rank ≤ level.rank then [(.stderr, t)] else [] := by
  unfold writes
  rw [if_pos htakes, hhandlers]
  rfl

theorem Host.writes_of_handler (hhandlers : (h.logs.get name).handlers = [handler])
    (htakes : (h.logs.get name).takes level = true) :
    h.writes name level t = (handler.writes h level t).toList := by
  unfold writes
  rw [if_pos htakes, hhandlers, List.isEmpty_cons, if_neg Bool.false_ne_true]
  cases hwrites : handler.writes h level t <;> simp [hwrites]

namespace Action

theorem deliver_eq (level : LogLevel) (t : Text) (h : Host) (handler : LogHandler) :
    deliver level t h handler = (handler.writes h level t).toList.foldl Host.write h := by
  have hentry : handler.layout.render h.screen.palette h.time h.logs.banner level t =
      handler.entry h level t := rfl
  simp only [deliver, LogHandler.writes, hentry]
  cases hsink : handler.sink with
  | stderr => rfl
  | discard => rfl
  | syslog =>
      cases hbytes : Text.encode (handler.entry h level t) with
      | ok bytes => simp [LogSink.keeps, hbytes, Except.isOk, Except.toBool, Host.write]
      | error flaw => simp [LogSink.keeps, hbytes, Except.isOk, Except.toBool]
  | file place =>
      cases hbytes : Text.encode (handler.entry h level t ++ Text.newline) with
      | ok bytes => simp [LogSink.keeps, hbytes, Except.isOk, Except.toBool, Host.write]
      | error flaw => simp [LogSink.keeps, hbytes, Except.isOk, Except.toBool]

/-- One handler after the other writes as if it were alone. -/
theorem foldl_deliver (handlers : List LogHandler) (level : LogLevel) (t : Text) {g h : Host}
    (htime : g.time = h.time) (hscreen : g.screen = h.screen) (hlogs : g.logs = h.logs) :
    handlers.foldl (deliver level t) g =
      (handlers.filterMap fun handler => handler.writes h level t).foldl Host.write g := by
  induction handlers generalizing g with
  | nil => rfl
  | cons handler rest ih =>
      have hnext : rest.foldl (deliver level t) (deliver level t g handler) =
          (rest.filterMap fun handler => handler.writes h level t).foldl Host.write
            (deliver level t g handler) := by
        obtain ⟨files, events, hfirst⟩ := deliver_changes level t g handler
        rw [hfirst]
        exact ih htime hscreen hlogs
      rw [List.foldl_cons, hnext, deliver_eq, LogHandler.writes_congr htime hscreen (by rw [hlogs])]
      cases hwrites : handler.writes h level t <;> simp [hwrites]

/-- **Writing an entry is putting what is written of it where it goes.** -/
theorem runOn_logTo (name : Text) (level : LogLevel) (t : Text) (h : Host) :
    (logTo name level t).runOn h = (.ok (), (h.writes name level t).foldl Host.write
      (if (h.logs.get name).takes level = true then h.note (.logged level t) else h)) := by
  by_cases htakes : (h.logs.get name).takes level = true
  · unfold logTo Host.writes
    rw [runOn_change]
    simp only [if_pos htakes]
    unfold deliverTo lastResort
    split
    · split <;> rfl
    · rw [foldl_deliver (g := h.note (.logged level t)) (h := h) _ _ _ rfl rfl rfl]
  · rw [logTo_passes_over htakes, Host.writes_of_not_takes htakes, if_neg htakes]
    rfl

end Action

/-! ### The banner in an entry -/

/-- Two banners make the same entry if the layout shows none, or if they are shown as the same. -/
theorem LogLayout.render_eq_iff (l : LogLayout) (palette : Palette) (time : Text)
    (b b' : Option Text) (level : LogLevel) (t : Text) :
    l.render palette time b' level t = l.render palette time b level t ↔
      l.bannered = false ∨ (Value.ofText? b').shown = (Value.ofText? b).shown := by
  unfold render
  cases l.bannered with
  | false => simp
  | true => simp [List.append_assoc]

namespace LogHandler

variable {banner : Option Text}

theorem entry_withBanner_iff :
    handler.entry (h.withBanner banner) level t = handler.entry h level t ↔
      handler.layout.bannered = false ∨
      (Value.ofText? banner).shown = (Value.ofText? h.logs.banner).shown :=
  LogLayout.render_eq_iff _ _ _ _ _ _ _

theorem writes_withBanner (hbanner : handler.layout.bannered = false ∨
    (Value.ofText? banner).shown = (Value.ofText? h.logs.banner).shown) :
    handler.writes (h.withBanner banner) level t = handler.writes h level t := by
  unfold writes
  rw [entry_withBanner_iff.mpr hbanner]

theorem eq_of_writes {written : LogSink × Text}
    (hwrites : handler.writes h level t = some written) :
    written = (handler.sink, handler.entry h level t) := by
  unfold writes at hwrites
  split at hwrites
  · exact (Option.some.inj hwrites).symm
  · cases hwrites

end LogHandler

namespace LogRequest

/-- A banner that is not empty ends with a colon. -/
theorem fullBanner_ends {processId : Int} {banner : Text}
    (hbanner : r.fullBanner processId = some banner) :
    banner = [] ∨ banner.getLast? = some (.char ':') := by
  obtain ⟨title, -, rfl⟩ := Option.map_eq_some_iff.mp hbanner
  have hcolon : (":" : Text).getLast? = some (.char ':') := rfl
  have hclosed : ("]:" : Text).getLast? = some (.char ':') := rfl
  dsimp only
  split
  · rename_i hempty
    exact .inl (List.isEmpty_iff.mp hempty)
  · right
    split
    · rw [List.getLast?_append, hclosed, Option.some_or]
    · rw [List.getLast?_append, hcolon, Option.some_or]

/-- No banner is shown as one that is gone is. -/
theorem fullBanner_ne_gone {processId : Int} {banner : Text}
    (hbanner : r.fullBanner processId = some banner) : banner ≠ Value.null.shown := by
  have hgone : Value.null.shown.getLast? = some (.char 'e') := rfl
  rintro rfl
  rcases fullBanner_ends hbanner with hempty | hcolon
  · rw [hempty] at hgone
    cases hgone
  · rw [hgone] at hcolon
    exact absurd hcolon (by decide)

/-- Two banners that are shown as the same are the same. -/
theorem shown_fullBanner_iff {processId : Int} :
    (Value.ofText? (r.fullBanner processId)).shown
        = (Value.ofText? (q.fullBanner processId)).shown ↔
      r.fullBanner processId = q.fullBanner processId := by
  refine ⟨fun hshown => ?_, fun hsame => by rw [hsame]⟩
  cases hr : r.fullBanner processId with
  | none =>
      cases hq : q.fullBanner processId with
      | none => rfl
      | some banner =>
          rw [hr, hq] at hshown
          exact absurd hshown.symm (fullBanner_ne_gone hq)
  | some banner =>
      cases hq : q.fullBanner processId with
      | none =>
          rw [hr, hq] at hshown
          exact absurd hshown (fullBanner_ne_gone hr)
      | some banner' =>
          rw [hr, hq] at hshown
          exact congrArg some hshown

end LogRequest

/-! ### Set-ups of other loggers -/

namespace Action

/-- The time is the same on the two hosts, and so are the screen and the number of the process. -/
private def SameMoment (h h' : Host) : Prop :=
  h'.time = h.time ∧ h'.screen = h.screen ∧ h'.processId = h.processId

private instance : IsPreorder Host SameMoment where
  refl _ := ⟨rfl, rfl, rfl⟩
  trans _ _ _ hab hbc :=
    ⟨hbc.1.trans hab.1, hbc.2.1.trans hab.2.1, hbc.2.2.trans hab.2.2⟩

private theorem sameMoment_setUpLogger (r : LogRequest) : Keeps SameMoment (setUpLogger r) :=
  Keeps.of_respects fun h₀ => respects_setUpLogger
    (.itself (fun _ _ _ => ⟨rfl, rfl, rfl⟩) (fun _ _ => ⟨rfl, rfl, rfl⟩)
      (fun _ _ => ⟨rfl, rfl, rfl⟩) h₀) r

theorem time_setUpLogger (r : LogRequest) (h : Host) :
    ((setUpLogger r).runOn h).2.time = h.time := (sameMoment_setUpLogger r h).1

theorem screen_setUpLogger (r : LogRequest) (h : Host) :
    ((setUpLogger r).runOn h).2.screen = h.screen := (sameMoment_setUpLogger r h).2.1

theorem processId_setUpLogger (r : LogRequest) (h : Host) :
    ((setUpLogger r).runOn h).2.processId = h.processId := (sameMoment_setUpLogger r h).2.2

theorem banner_setUpLogger (r : LogRequest) (h : Host) :
    ((setUpLogger r).runOn h).2.logs.banner = r.fullBanner h.processId := by
  obtain ⟨l, -, hlogs⟩ := logs_setUpLogger r h
  rw [hlogs]
  rfl

theorem get_setUpLogger (hrun : (setUpLogger q).runOn h₀ = (.ok name, h₁)) :
    ∃ sink, h₁.logs.get name = q.logger sink := by
  obtain ⟨rfl, sink, opened, hopens, hannounce⟩ := setUpLogger_inv hrun
  have hready := q.get_ready h₀ opened sink
  obtain ⟨-, hlogs, -⟩ := announce_inv hready hopens.stands hannounce
  exact ⟨sink, hlogs ▸ hready⟩

/-- Whatever a set-up ends with, another logger is as it was. -/
theorem get_setUpLogger_of_ne (hother : LogRegistry.key name ≠ LogRegistry.key r.loggerName)
    (h : Host) : ((setUpLogger r).runOn h).2.logs.get name = h.logs.get name := by
  have hothers : ∀ o ∈ [r], LogRegistry.key name ≠ LogRegistry.key o.loggerName := by
    simpa using hother
  exact Host.get_afterSetUps_of_ne hothers h

/-- **What another logger writes is what it would have written with the new banner.** -/
theorem writes_setUpLogger_of_ne (hother : LogRegistry.key name ≠ LogRegistry.key r.loggerName)
    (h : Host) (level : LogLevel) (t : Text) :
    ((setUpLogger r).runOn h).2.writes name level t
      = (h.withBanner (r.fullBanner h.processId)).writes name level t :=
  Host.writes_congr (h := h.withBanner (r.fullBanner h.processId)) (get_setUpLogger_of_ne hother h)
    (time_setUpLogger r h) (screen_setUpLogger r h) (banner_setUpLogger r h) level t

end Action

namespace Host

theorem processId_afterSetUps (h : Host) (requests : List LogRequest) :
    (h.afterSetUps requests).processId = h.processId := by
  induction requests generalizing h with
  | nil => rfl
  | cons r rest ih => exact (ih _).trans (Action.processId_setUpLogger r h)

theorem banner_afterSetUps (hbanner : h.logs.banner = q.fullBanner h.processId)
    (requests : List LogRequest) :
    (h.afterSetUps requests).logs.banner
      = (requests.getLast?.getD q).fullBanner h.processId := by
  induction requests generalizing h q with
  | nil => exact hbanner
  | cons r rest ih =>
      have hprocess := Action.processId_setUpLogger r h
      have hnext : ((Action.setUpLogger r).runOn h).2.logs.banner
          = r.fullBanner ((Action.setUpLogger r).runOn h).2.processId := by
        rw [Action.banner_setUpLogger, hprocess]
      have hrest := ih hnext
      rw [hprocess] at hrest
      refine hrest.trans ?_
      rw [List.getLast?_cons, Option.getD_some]

theorem writes_of_logger (hlogger : h.logs.get name = q.logger sink)
    (htakes : (h.logs.get name).takes level = true) :
    h.writes name level t = ((q.handler sink).writes h level t).toList :=
  writes_of_handler (by rw [hlogger]; rfl) htakes

/-- Where anything is written, the entry is taken. -/
theorem takes_of_writes (hwritten : h.writes name level t ≠ []) :
    (h.logs.get name).takes level = true :=
  Decidable.byContradiction fun htakes => hwritten (writes_of_not_takes htakes)

/-- An entry that is written alike with another banner does not tell the two. -/
theorem banner_of_writes_eq (hlogger : h.logs.get name = q.logger sink) {banner : Option Text}
    (hwritten : h.writes name level t ≠ [])
    (halike : (h.withBanner banner).writes name level t = h.writes name level t) :
    q.bannered = false ∨ (Value.ofText? banner).shown = (Value.ofText? h.logs.banner).shown := by
  have htakes := takes_of_writes hwritten
  rw [writes_of_logger hlogger htakes] at hwritten halike
  rw [writes_of_logger (h := h.withBanner banner) hlogger htakes] at halike
  cases hfirst : (q.handler sink).writes h level t with
  | none => exact absurd (by rw [hfirst]; rfl) hwritten
  | some text =>
      rw [hfirst, Option.toList_some, Option.toList_eq_singleton_iff] at halike
      have hentry := (LogHandler.eq_of_writes halike).symm.trans (LogHandler.eq_of_writes hfirst)
      exact LogHandler.entry_withBanner_iff.mp (congrArg Prod.snd hentry)

/-- The banner in force makes a difference for a logger that shows one, as long as anything is
written at all. -/
theorem writes_withBanner_iff (hlogger : h.logs.get name = q.logger sink) (banner : Option Text) :
    (∀ level t, (h.withBanner banner).writes name level t = h.writes name level t) ↔
      q.bannered = false ∨
      (Value.ofText? banner).shown = (Value.ofText? h.logs.banner).shown ∨
      ∀ level t, h.writes name level t = [] ∧
        (h.withBanner banner).writes name level t = [] := by
  constructor
  · intro hsame
    by_cases hsilent : ∀ level t, h.writes name level t = []
    · exact .inr (.inr fun level t => ⟨hsilent level t, (hsame level t).trans (hsilent level t)⟩)
    · obtain ⟨level, hlevel⟩ := Classical.not_forall.mp hsilent
      obtain ⟨t, hwritten⟩ := Classical.not_forall.mp hlevel
      exact (banner_of_writes_eq hlogger hwritten (hsame level t)).imp_right .inl
  · intro hcases level t
    rw [← or_assoc] at hcases
    rcases hcases with hbanner | hsilent
    · by_cases htakes : (h.logs.get name).takes level = true
      · rw [writes_of_logger hlogger htakes,
          writes_of_logger (h := h.withBanner banner) hlogger htakes,
          LogHandler.writes_withBanner hbanner]
      · rw [writes_of_not_takes htakes, writes_of_not_takes (h := h.withBanner banner) htakes]
    · rw [(hsilent level t).1, (hsilent level t).2]

end Host

namespace Action

/-- **A set-up of another logger, whatever it ends with, leaves the entries of a logger that has
been set up as they are if and only if they show no banner, the last set-up had the same one, or
nothing is ever written of them.** -/
theorem setUpLogger_keeps_entries_iff (hrun : (setUpLogger q).runOn h₀ = (.ok name, h₁))
    (hothers : ∀ o ∈ others, LogRegistry.key name ≠ LogRegistry.key o.loggerName)
    (hother : LogRegistry.key name ≠ LogRegistry.key r.loggerName) :
    let before := h₁.afterSetUps others
    let after := ((setUpLogger r).runOn before).2
    after.logs.get name = before.logs.get name ∧
    (∀ level t, after.writes name level t
      = (before.withBanner (r.fullBanner h₀.processId)).writes name level t) ∧
    ((∀ level t, after.writes name level t = before.writes name level t) ↔
      q.bannered = false ∨
      r.fullBanner h₀.processId = (others.getLast?.getD q).fullBanner h₀.processId ∨
      ∀ level t, before.writes name level t = [] ∧ after.writes name level t = []) := by
  dsimp only
  obtain ⟨sink, hlogger⟩ := get_setUpLogger hrun
  have hprocess₁ : h₁.processId = h₀.processId := by
    have := processId_setUpLogger q h₀
    rwa [hrun] at this
  have hprocess := (h₁.processId_afterSetUps others).trans hprocess₁
  have hbanner₁ : h₁.logs.banner = q.fullBanner h₁.processId := by
    have := banner_setUpLogger q h₀
    rw [hrun] at this
    rw [hprocess₁]
    exact this
  have hbanner := Host.banner_afterSetUps hbanner₁ others
  rw [hprocess₁] at hbanner
  have hkept := (Host.get_afterSetUps_of_ne hothers h₁).trans hlogger
  have hwrites := writes_setUpLogger_of_ne hother (h₁.afterSetUps others)
  rw [hprocess] at hwrites
  refine ⟨get_setUpLogger_of_ne hother _, hwrites, ?_⟩
  simp only [hwrites]
  rw [Host.writes_withBanner_iff hkept, hbanner, LogRequest.shown_fullBanner_iff]

/-- A logger that writes to the error output, its name in front. -/
def bannerRequest : LogRequest :=
  { name := "Tool", level := .text "INFO", banner := .bool true, stderr := true }

/-- A logger that shows no banner. -/
def plainRequest : LogRequest := { name := "other", level := .text "INFO", stderr := true }

/-- A logger without a banner takes it out of the entries of the one before. -/
theorem setUpLogger_takes_banner_away :
    ∃ h₁, (setUpLogger bannerRequest).runOn quietHost = (.ok "tool", h₁) ∧
      LogRegistry.key "tool" ≠ LogRegistry.key plainRequest.loggerName ∧
      h₁.writes "tool" .info "hello" = [(LogSink.stderr, ("tool: INFO: hello" : Text))] ∧
      ((setUpLogger plainRequest).runOn h₁).2.writes "tool" .info "hello"
        = [(LogSink.stderr, ("None INFO: hello" : Text))] ∧
      ¬∀ level t, ((setUpLogger plainRequest).runOn h₁).2.writes "tool" level t
        = h₁.writes "tool" level t := by
  have hrun : (setUpLogger bannerRequest).runOn quietHost = (.ok "tool", _) := Prod.ext rfl rfl
  have hother : LogRegistry.key "tool" ≠ LogRegistry.key plainRequest.loggerName := by decide
  have hothers : ∀ o ∈ ([] : List LogRequest),
      LogRegistry.key "tool" ≠ LogRegistry.key o.loggerName := fun _ ho => nomatch ho
  obtain ⟨-, hwrites, hkeeps⟩ := setUpLogger_keeps_entries_iff hrun hothers hother
  refine ⟨_, hrun, hother, by decide, (hwrites .info "hello").trans (by decide), fun hsame => ?_⟩
  rcases hkeeps.mp hsame with hplain | hbanner | hsilent
  · exact absurd hplain (by decide)
  · exact absurd hbanner (by decide)
  · exact absurd (hsilent .info "hello").1 (by decide)

/-- The entries of a logger do change with the set-up of another one. -/
theorem entries_change_with_other_set_up :
    ¬∀ (q r : LogRequest) (h h₁ : Host) (name : Text),
      (setUpLogger q).runOn h = (.ok name, h₁) →
      LogRegistry.key name ≠ LogRegistry.key r.loggerName →
        ∀ level t, ((setUpLogger r).runOn h₁).2.writes name level t = h₁.writes name level t := by
  intro hall
  have hsame := hall bannerRequest plainRequest quietHost _ "tool" (Prod.ext rfl rfl) (by decide)
    .info "hello"
  exact absurd hsame (by decide)

end Action

end OtpRegistrar
