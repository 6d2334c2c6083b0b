/-
Entries on their way to a destination.

An entry that a logger takes goes to each of its handlers.  `Delivered` says for one handler what a
single delivery does to the host: the error output, the system log or the file has the entry behind
what was there before, and that is the whole difference.  A logger with one handler does this once
for each entry that it takes, and nothing at all for an entry below its level.

Neither the system log nor a file takes an entry that is not UTF-8.  Such an entry is handed over
like any other, and lost there.
-/
import OtpRegistrar.Log.Setup
import OtpRegistrar.Proofs.FileTree
import OtpRegistrar.Proofs.Host.Action

namespace OtpRegistrar

variable {h h' : Host} {handler : LogHandler} {level least : LogLevel} {t name : Text}

/-! ### One entry -/

theorem Logger.takes_iff {l : Logger} (hlevel : l.level = some least) (level : LogLevel) :
    l.takes level = true ↔ least.rank ≤ level.rank := by
  simp [takes, hlevel]

/-- An entry as the handler writes it. -/
def LogHandler.entry (handler : LogHandler) (h : Host) (level : LogLevel) (t : Text) : Text :=
  handler.layout.render h.screen.palette h.time h.logs.banner level t

/-- The file that the handler writes to is there. -/
def LogHandler.Stands (handler : LogHandler) (h : Host) : Prop :=
  ∀ place, handler.sink = .file place → ∃ content, h.files.node? place = some (.file content)

/-- An entry of a level goes to the handler once, and that is all that happens.  Neither the system
log nor a file takes an entry that is not UTF-8. -/
inductive Delivered (handler : LogHandler) (level : LogLevel) (t : Text) (h : Host) : Host → Prop
  | syslog {bytes : List UInt8} (hsink : handler.sink = .syslog)
      (hbytes : Text.encode (handler.entry h level t) = .ok bytes) :
      Delivered handler level t h
        ((h.note (.logged level t)).note (.syslogSent (handler.entry h level t)))
  | stderr (hsink : handler.sink = .stderr) :
      Delivered handler level t h
        ((h.note (.logged level t)).note (.reported (handler.entry h level t ++ Text.newline)))
  | file {place : Place} {files : FileTree} {content bytes : List UInt8}
      (hsink : handler.sink = .file place)
      (hbytes : Text.encode (handler.entry h level t ++ Text.newline) = .ok bytes)
      (hbefore : h.files.node? place = some (.file content))
      (hafter : files.node? place = some (.file (content ++ bytes)))
      (hother : ∀ p, p ≠ place → files.node? p = h.files.node? p) :
      Delivered handler level t h { h.note (.logged level t) with files }
  | unsendable {flaw : Text.EncodeFlaw} (hsink : handler.sink = .syslog)
      (hflaw : Text.encode (handler.entry h level t) = .error flaw) :
      Delivered handler level t h (h.note (.logged level t))
  | refused {place : Place} {flaw : Text.EncodeFlaw} (hsink : handler.sink = .file place)
      (hflaw : Text.encode (handler.entry h level t ++ Text.newline) = .error flaw) :
      Delivered handler level t h (h.note (.logged level t))
  | discarded (hsink : handler.sink = .discard) :
      Delivered handler level t h (h.note (.logged level t))

namespace Delivered

theorem logs (hdelivered : Delivered handler level t h h') : h'.logs = h.logs := by
  cases hdelivered <;> rfl

/-- The file is still there for the next entry. -/
theorem stands (hdelivered : Delivered handler level t h h') (hstands : handler.Stands h) :
    handler.Stands h' := by
  intro place hsink
  cases hdelivered with
  | file hsink' hbytes hbefore hafter hother =>
      rw [hsink] at hsink'
      cases hsink'
      exact ⟨_, hafter⟩
  | _ => exact hstands place hsink

end Delivered

namespace Action

/-- Delivering an entry changes files and notes events, and that is all. -/
theorem deliver_changes (level : LogLevel) (t : Text) (h : Host) (handler : LogHandler) :
    ∃ files events, deliver level t h handler = { h with files, events } := by
  unfold deliver
  dsimp only
  split
  · exact ⟨_, _, rfl⟩
  · split <;> exact ⟨_, _, rfl⟩
  · split <;> exact ⟨_, _, rfl⟩
  · exact ⟨_, _, rfl⟩

theorem deliverTo_changes (handlers : List LogHandler) (level : LogLevel) (t : Text) (h : Host) :
    ∃ files events, deliverTo handlers level t h = { h with files, events } := by
  have hall : ∀ h : Host,
      ∃ files events, handlers.foldl (deliver level t) h = { h with files, events } := by
    induction handlers with
    | nil => exact fun h => ⟨_, _, rfl⟩
    | cons handler rest ih =>
        intro h
        obtain ⟨files, events, hfirst⟩ := deliver_changes level t h handler
        obtain ⟨files', events', hrest⟩ := ih { h with files, events }
        exact ⟨files', events', by rw [List.foldl_cons, hfirst, hrest]⟩
  unfold deliverTo lastResort
  split
  · split <;> exact ⟨_, _, rfl⟩
  · exact hall h

/-- Writing an entry does not fail, and changes no more than files and events. -/
theorem logTo_changes (name : Text) (level : LogLevel) (t : Text) (h : Host) :
    ∃ files events, (logTo name level t).runOn h = (.ok (), { h with files, events }) := by
  unfold logTo
  rw [runOn_change]
  dsimp only
  split
  · obtain ⟨files, events, hto⟩ :=
      deliverTo_changes (h.logs.get name).handlers level t (h.note (.logged level t))
    exact ⟨files, events, by rw [hto]; rfl⟩
  · exact ⟨_, _, rfl⟩

theorem logs_logTo (name : Text) (level : LogLevel) (t : Text) (h : Host) :
    ((logTo name level t).runOn h).2.logs = h.logs := by
  obtain ⟨files, events, hrun⟩ := logTo_changes name level t h
  rw [hrun]

theorem delivered_deliver (hstands : handler.Stands h) :
    Delivered handler level t h (deliver level t (h.note (.logged level t)) handler) := by
  have hentry : handler.layout.render (h.note (.logged level t)).screen.palette
      (h.note (.logged level t)).time (h.note (.logged level t)).logs.banner level t =
        handler.entry h level t := rfl
  simp only [deliver, hentry]
  cases hsink : handler.sink with
  | syslog =>
      cases hbytes : Text.encode (handler.entry h level t) with
      | error flaw => exact .unsendable hsink hbytes
      | ok bytes => exact .syslog hsink hbytes
  | stderr => exact .stderr hsink
  | discard => exact .discarded hsink
  | file place =>
      cases hbytes : Text.encode (handler.entry h level t ++ Text.newline) with
      | error flaw => exact .refused hsink hbytes
      | ok bytes =>
          obtain ⟨content, hbefore⟩ := hstands place hsink
          refine .file hsink hbytes hbefore ?_ ?_
          · show (h.files.append place bytes).node? place = _
            simp [FileTree.node?_append, hbefore, FileNode.extended]
          · intro p hp
            show (h.files.append place bytes).node? p = _
            simp [FileTree.node?_append, hp]

/-- **A logger with one handler delivers an entry that it takes once.** -/
theorem logTo_delivers (hhandlers : (h.logs.get name).handlers = [handler])
    (hstands : handler.Stands h) (htakes : (h.logs.get name).takes level = true) (t : Text) :
    ∃ h', (logTo name level t).runOn h = (.ok (), h') ∧ Delivered handler level t h h' := by
  refine ⟨deliver level t (h.note (.logged level t)) handler, ?_, delivered_deliver hstands⟩
  unfold logTo
  rw [runOn_change]
  dsimp only
  rw [if_pos htakes, hhandlers]
  rfl

/-- What a logger does not take leaves no trace. -/
theorem logTo_passes_over (htakes : ¬(h.logs.get name).takes level = true) (t : Text) :
    (logTo name level t).runOn h = (.ok (), h) := by
  unfold logTo
  rw [runOn_change]
  dsimp only
  rw [if_neg htakes]

end Action

/-! ### Entries one after the other -/

/-- Those that are taken are delivered once each, in their order, and the others leave no trace. -/
inductive DeliveredAll (handler : LogHandler) (least : LogLevel) :
    List (LogLevel × Text) → Host → Host → Prop
  | nil (h : Host) : DeliveredAll handler least [] h h
  | taken {level : LogLevel} {t : Text} {entries : List (LogLevel × Text)} {h h₁ h₂ : Host}
      (htakes : least.rank ≤ level.rank) (hfirst : Delivered handler level t h h₁)
      (hrest : DeliveredAll handler least entries h₁ h₂) :
      DeliveredAll handler least ((level, t) :: entries) h h₂
  | passedOver {level : LogLevel} {t : Text} {entries : List (LogLevel × Text)} {h h₂ : Host}
      (hbelow : level.rank < least.rank) (hrest : DeliveredAll handler least entries h h₂) :
      DeliveredAll handler least ((level, t) :: entries) h h₂

namespace Action

/-- Writes entries one after the other. -/
def logAll (name : Text) (entries : List (LogLevel × Text)) : Action Unit :=
  entries.forM fun entry => logTo name entry.1 entry.2

theorem logAll_cons (name : Text) (level : LogLevel) (t : Text)
    (entries : List (LogLevel × Text)) :
    logAll name ((level, t) :: entries) = logTo name level t >>= fun _ => logAll name entries := rfl

/-- **Whatever is written to a logger with one handler, each entry that it takes is delivered
once.** -/
theorem logAll_delivers (hhandlers : (h.logs.get name).handlers = [handler])
    (hlevel : (h.logs.get name).level = some least) (hstands : handler.Stands h)
    (entries : List (LogLevel × Text)) :
    ∃ h', (logAll name entries).runOn h = (.ok (), h') ∧
      DeliveredAll handler least entries h h' := by
  induction entries generalizing h with
  | nil => exact ⟨h, rfl, .nil h⟩
  | cons entry entries ih =>
      obtain ⟨level, t⟩ := entry
      rw [logAll_cons]
      by_cases htakes : (h.logs.get name).takes level = true
      · obtain ⟨h₁, hrun, hfirst⟩ := logTo_delivers hhandlers hstands htakes t
        rw [← hfirst.logs] at hhandlers hlevel
        obtain ⟨h', hrest, hall⟩ := ih hhandlers hlevel (hfirst.stands hstands)
        rw [hfirst.logs] at hlevel
        refine ⟨h', ?_, .taken ((Logger.takes_iff hlevel level).mp htakes) hfirst hall⟩
        rw [runOn_bind_ok hrun, hrest]
      · obtain ⟨h', hrest, hall⟩ := ih hhandlers hlevel hstands
        have hrun := logTo_passes_over htakes t
        rw [Logger.takes_iff hlevel] at htakes
        refine ⟨h', ?_, .passedOver (Nat.lt_of_not_le htakes) hall⟩
        rw [runOn_bind_ok hrun, hrest]

end Action

end OtpRegistrar
