/-
What an action does outward.

A run reads password files, asks at a prompt and talks to the directory server;
these events are outward.  What it shows to its user and writes to its log is not.
Everything said about the order of a run is about the outward events alone, so the
many steps that only show and log have to drop out of the argument.

`Emits` is what is carried from step to step: which outward events came, and that
the host is otherwise one on which the rest of the run behaves the same - the
server, the homes, the bound variables and the configuration.  Of the
configuration one variable may change, the one that keeps the logger, and only as
long as there is no logger in it.  A step that emits nothing is `Quiet`.
-/
import OtpRegistrar.Directory.Session
import OtpRegistrar.Proofs.Log.Parallel

namespace OtpRegistrar

/-- Does an event reach a password file, the prompt or the directory server? -/
def Event.isOutward : Event → Bool
  | .passwordFileRead _ | .prompted _ => true
  | .serverMade _ _ _ | .connectionMade _ _ => true
  | .opened | .tlsStarted | .bound | .extendedSent _ _ | .unbound => true
  | _ => false

namespace Host

/-- The outward events of a host, in their order. -/
def outward (h : Host) : List Event := h.events.filter Event.isOutward

@[simp] theorem outward_note (h : Host) (e : Event) :
    (h.note e).outward = h.outward ++ if e.isOutward then [e] else [] := by
  unfold outward Host.note
  rw [List.filter_append]
  cases he : e.isOutward <;> simp [he]

/-- The variable of the configuration that keeps the logger. -/
def loggerVariable : Text := "_logger"

/-- A machine with a logger and the name of a server, on which everything succeeds. -/
def plain : Host :=
  { fresh (FileTree.empty "/home/tester") (.own "/home/tester") "/etc/tool.conf" false 1
      "12:00" with
    config := { Config.empty with
      values := [("_logger", .logger "tool"), ("ldap_host", .text "localhost")] } }

/-- Two hosts are the same in all that a run looks at outward, the logger aside. -/
structure Resembles (h h' : Host) : Prop where
  server : h'.server = h.server
  homes : h'.homes = h.homes
  bound : h'.bound = h.bound
  config : ∀ name, name ≠ loggerVariable → h'.config.get name = h.config.get name

theorem Resembles.refl (h : Host) : h.Resembles h := ⟨rfl, rfl, rfl, fun _ _ => rfl⟩

theorem Resembles.trans {h h' h'' : Host} (hab : h.Resembles h') (hbc : h'.Resembles h'') :
    h.Resembles h'' where
  server := hbc.server.trans hab.server
  homes := hbc.homes.trans hab.homes
  bound := hbc.bound.trans hab.bound
  config := fun name hname => (hbc.config name hname).trans (hab.config name hname)

/-- One host follows another with the given outward events; a logger that is there stays. -/
structure Emits (h : Host) (es : List Event) (h' : Host) : Prop extends Resembles h h' where
  outward : h'.outward = h.outward ++ es
  logger : (h.config.get loggerVariable).truthy = true →
    h'.config.get loggerVariable = h.config.get loggerVariable

namespace Emits

variable {h h' h'' : Host} {es fs : List Event}

theorem refl (h : Host) : h.Emits [] h := ⟨.refl h, (List.append_nil _).symm, fun _ => rfl⟩

theorem trans (hes : h.Emits es h') (hfs : h'.Emits fs h'') : h.Emits (es ++ fs) h'' where
  toResembles := hes.toResembles.trans hfs.toResembles
  outward := by rw [hfs.outward, hes.outward, List.append_assoc]
  logger := by
    intro hthere
    have hkept := hes.logger hthere
    rw [← hkept] at hthere ⊢
    exact hfs.logger hthere

/-- Nothing emitted before changes nothing. -/
theorem after (hq : h.Emits [] h') (hes : h'.Emits es h'') : h.Emits es h'' := hq.trans hes

/-- Nothing emitted behind changes nothing. -/
theorem before (hes : h.Emits es h') (hq : h'.Emits [] h'') : h.Emits es h'' := by
  have := hes.trans hq
  rwa [List.append_nil] at this

end Emits

instance : IsPreorder Host (fun h h' => h.Emits [] h') where
  refl := Emits.refl
  trans _ _ _ hab hbc := hab.after hbc

/-- A noted event is emitted if it is outward. -/
theorem emits_note (h : Host) (e : Event) : h.Emits (if e.isOutward then [e] else []) (h.note e) :=
  ⟨⟨rfl, rfl, rfl, fun _ _ => rfl⟩, outward_note h e, fun _ => rfl⟩

theorem emits_outward (h : Host) {e : Event} (he : e.isOutward = true) :
    h.Emits [e] (h.note e) := by
  have := h.emits_note e
  rwa [if_pos he] at this

/-- Files, loggers, prompts and the answer of the server are no outward matter. -/
theorem emits_nothing {h h' : Host} (events : h'.events = h.events) (server : h'.server = h.server)
    (homes : h'.homes = h.homes) (bound : h'.bound = h.bound) (config : h'.config = h.config) :
    h.Emits [] h' where
  server := server
  homes := homes
  bound := bound
  config := fun _ _ => by rw [config]
  outward := by rw [List.append_nil, outward, outward, events]
  logger := fun _ => by rw [config]

end Host

namespace Action

variable {α β : Type}

/-- The action emits nothing outward, on any host. -/
abbrev Quiet (a : Action α) : Prop := Keeps (fun h h' => h.Emits [] h') a

/-! ### Showing and logging -/

theorem quiet_note {e : Event} (he : e.isOutward = false) : Quiet (note e) := by
  intro h
  have := h.emits_note e
  rwa [he] at this

theorem quiet_display (v : Value) (style : Style) : Quiet (display v style) := by
  unfold display
  refine quiet_note ?_
  cases style.toErrors <;> rfl

theorem quiet_say (t : Text) : Quiet (say t) := quiet_display _ _

theorem quiet_complain (t : Text) : Quiet (complain t) :=
  Keeps.bind (Keeps.read _) fun _ => quiet_display _ _

/-- Logging is no outward matter. -/
theorem logsTogether_quiet (h₀ : Host) :
    Host.LogsTogether (Itself (fun h h' => h.Emits [] h') h₀) := by
  refine .itself (fun h e he => ?_) (fun h logs => ?_) (fun h files => ?_) h₀
  · have hinward : e.isOutward = false := by cases e <;> first | rfl | cases he
    have := h.emits_note e
    rwa [hinward] at this
  · exact Host.emits_nothing rfl rfl rfl rfl rfl
  · exact Host.emits_nothing rfl rfl rfl rfl rfl

theorem quiet_logTo (name : Text) (level : LogLevel) (t : Text) : Quiet (logTo name level t) :=
  Keeps.of_respects fun h₀ => respects_logTo (logsTogether_quiet h₀) name level t

theorem quiet_log (logger : Value) (level : LogLevel) (t : Text) : Quiet (log logger level t) :=
  Keeps.of_respects fun h₀ => respects_log (logsTogether_quiet h₀) logger level t

end Action

end OtpRegistrar
