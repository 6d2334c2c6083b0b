/-
Two runs side by side.

What a run does not depend on can only be said of two runs: they begin on hosts
that differ in it, and are the same otherwise.  `Agree` compares two actions on
all pairs of hosts in a relation.  They end alike, with values that are related or
with the same fault, and leave hosts that are in the relation again.  It is closed
under everything that actions are put together with, so that two long actions are
compared step by step.

A relation that only ever holds between a host and itself makes this a statement
about a single run, and that is how an invariant is proved by the same steps:
`Keeps.of_respects`.
-/
import OtpRegistrar.Proofs.Host.Action

namespace OtpRegistrar.Action

variable {α β γ δ : Type}

/-! ### Two ends -/

/-- Two actions end alike: with values that are related, or with the same fault. -/
inductive Alike (V : α → β → Prop) : Except Fault α → Except Fault β → Prop
  | ok {x : α} {y : β} (hvalues : V x y) : Alike V (.ok x) (.ok y)
  | error (f : Fault) : Alike V (.error f) (.error f)

namespace Alike

variable {V : α → β → Prop}

theorem mono {W : α → β → Prop} (hweaker : ∀ x y, V x y → W x y) {r : Except Fault α}
    {r' : Except Fault β} (halike : Alike V r r') : Alike W r r' := by
  cases halike with
  | ok hvalues => exact .ok (hweaker _ _ hvalues)
  | error f => exact .error f

theorem refl (r : Except Fault α) : Alike Eq r r := by
  cases r with
  | ok x => exact .ok rfl
  | error f => exact .error f

theorem eq {r r' : Except Fault α} (halike : Alike Eq r r') : r = r' := by
  cases halike with
  | ok hvalues => rw [hvalues]
  | error f => rfl

end Alike

/-! ### Two actions -/

/-- On any two hosts in the relation the actions end alike, and leave two in the relation. -/
def Agree (S : Host → Host → Prop) (V : α → β → Prop) (a : Action α) (a' : Action β) : Prop :=
  ∀ h h', S h h' → Alike V (a.runOn h).1 (a'.runOn h').1 ∧ S (a.runOn h).2 (a'.runOn h').2

/-- The action does the same on any two hosts in the relation, and leaves two in the relation. -/
abbrev Respects (S : Host → Host → Prop) (a : Action α) : Prop := Agree S Eq a a

namespace Agree

variable {S : Host → Host → Prop} {V : α → β → Prop} {W : γ → δ → Prop}

theorem mono {V' : α → β → Prop} {a : Action α} {a' : Action β} (ha : Agree S V a a')
    (hweaker : ∀ x y, V x y → V' x y) : Agree S V' a a' := by
  intro h h' hs
  obtain ⟨halike, hs'⟩ := ha h h' hs
  exact ⟨halike.mono hweaker, hs'⟩

theorem pure {x : α} {y : β} (hvalues : V x y) :
    Agree S V (Pure.pure x : Action α) (Pure.pure y : Action β) := fun _ _ hs => ⟨.ok hvalues, hs⟩

theorem fail (f : Fault) : Agree S V (Action.fail f : Action α) (Action.fail f : Action β) :=
  fun _ _ hs => ⟨.error f, hs⟩

theorem read {f : Host → α} {g : Host → β} (hvalues : ∀ h h', S h h' → V (f h) (g h')) :
    Agree S V (Action.read f) (Action.read g) := fun h h' hs => ⟨.ok (hvalues h h' hs), hs⟩

theorem change {f g : Host → Host} (hsteps : ∀ h h', S h h' → S (f h) (g h')) :
    Agree S Eq (Action.change f) (Action.change g) := fun h h' hs => ⟨.ok rfl, hsteps h h' hs⟩

theorem settle {r : Except Fault α} {r' : Except Fault β} (halike : Alike V r r') :
    Agree S V (Action.settle r) (Action.settle r') := fun _ _ hs => ⟨halike, hs⟩

theorem orFail {ε : Type} (r : Except ε α) (reason : ε → Fault) :
    Respects S (Action.orFail r reason) := settle (.refl _)

theorem attempt {a : Action α} {a' : Action β} (ha : Agree S V a a') :
    Agree S (Alike V) (Action.attempt a) (Action.attempt a') := by
  intro h h' hs
  obtain ⟨halike, hs'⟩ := ha h h' hs
  exact ⟨.ok halike, hs'⟩

theorem bind {a : Action α} {a' : Action β} {f : α → Action γ} {f' : β → Action δ}
    (ha : Agree S V a a') (hf : ∀ x y, V x y → Agree S W (f x) (f' y)) :
    Agree S W (a >>= f) (a' >>= f') := by
  intro h h' hs
  obtain ⟨halike, hs'⟩ := ha h h' hs
  rw [runOn_bind, runOn_bind]
  rcases hr : a.runOn h with ⟨r, h₁⟩
  rcases hr' : a'.runOn h' with ⟨r', h₁'⟩
  rw [hr, hr'] at halike hs'
  cases halike with
  | ok hvalues => exact hf _ _ hvalues h₁ h₁' hs'
  | error e => exact ⟨.error e, hs'⟩

theorem ite {c : Prop} [Decidable c] {a b : Action α} {a' b' : Action β} (ha : Agree S V a a')
    (hb : Agree S V b b') : Agree S V (if c then a else b) (if c then a' else b') := by
  split
  · exact ha
  · exact hb

/-- Two actions that give the same value are followed by the same. -/
theorem bind_eq {a a' : Action α} {f : α → Action γ} {f' : α → Action δ} (ha : Agree S Eq a a')
    (hf : ∀ x, Agree S W (f x) (f' x)) : Agree S W (a >>= f) (a' >>= f') :=
  ha.bind fun x _ hxy => hxy ▸ hf x

/-- What is done behind two tried actions depends on their values only if there are any. -/
theorem attempt_bind {a : Action α} {a' : Action β} {f : Except Fault α → Action γ}
    {f' : Except Fault β → Action δ} (ha : Agree S V a a')
    (hok : ∀ x y, V x y → Agree S W (f (.ok x)) (f' (.ok y)))
    (herror : ∀ e, Agree S W (f (.error e)) (f' (.error e))) :
    Agree S W (Action.attempt a >>= f) (Action.attempt a' >>= f') := by
  refine (attempt ha).bind fun r r' halike => ?_
  cases halike with
  | ok hvalues => exact hok _ _ hvalues
  | error e => exact herror e

end Agree

theorem Respects.map {S : Host → Host → Prop} {a : Action α} (ha : Respects S a) (g : α → β) :
    Respects S (g <$> a) := by
  rw [map_eq_pure_bind]
  exact ha.bind_eq fun _ => Agree.pure rfl

/-! ### One run -/

/-- A host and itself, as long as it is related to the one that a run began on. -/
def Itself (R : Host → Host → Prop) (h₀ h h' : Host) : Prop := h' = h ∧ R h₀ h

/-- An action that does the same on a host and itself keeps what it respects. -/
theorem Keeps.of_respects {R : Host → Host → Prop} [Std.Refl R] {a : Action α}
    (ha : ∀ h₀, Respects (Itself R h₀) a) : Keeps R a :=
  fun h => (ha h h h ⟨rfl, Std.Refl.refl h⟩).2.2

end OtpRegistrar.Action
