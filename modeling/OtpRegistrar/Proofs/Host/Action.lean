/-
Running composed actions.

An action is a function on hosts, and what it does is told by `runOn` alone.  The
equations below say what each way of putting actions together does to `runOn`, so
that no later proof has to look inside the monad.

Two things are asked of whole actions again and again: that the host they leave
is related to the one they were given, and that whatever they fail with is of
some kind.  `Keeps` and `FailsOnly` are these, and each carries over from the parts of
an action to the action.  A relation has to be a preorder for that: an action may
do nothing, and it may do two things after another.  Where what an action fails with
depends on the host that it is run on, `ComesTo` says both of one host.
-/
import OtpRegistrar.Host.Basic
import Mathlib.Order.Defs.Unbundled

namespace OtpRegistrar.Action

variable {α β : Type}

/-! ### What each combinator does -/

theorem runOn_bind (a : Action α) (f : α → Action β) (h : Host) :
    (a >>= f).runOn h =
      match a.runOn h with
      | (.ok x, h') => (f x).runOn h'
      | (.error e, h') => (.error e, h') := by
  show (ExceptT.run (a >>= f)).run h = _
  unfold runOn
  rw [ExceptT.run_bind, StateT.run_bind]
  rcases (ExceptT.run a).run h with ⟨r, h'⟩
  cases r <;> rfl

theorem runOn_bind_ok {a : Action α} {f : α → Action β} {h h' : Host} {x : α}
    (ha : a.runOn h = (.ok x, h')) : (a >>= f).runOn h = (f x).runOn h' := by
  rw [runOn_bind, ha]

theorem runOn_bind_error {a : Action α} {f : α → Action β} {h h' : Host} {e : Fault}
    (ha : a.runOn h = (.error e, h')) : (a >>= f).runOn h = (.error e, h') := by
  rw [runOn_bind, ha]

/-- A value in the end means that both parts have given one. -/
theorem runOn_bind_inv {a : Action α} {f : α → Action β} {h h'' : Host} {y : β}
    (hrun : (a >>= f).runOn h = (.ok y, h'')) :
    ∃ x h', a.runOn h = (.ok x, h') ∧ (f x).runOn h' = (.ok y, h'') := by
  rw [runOn_bind] at hrun
  rcases ha : a.runOn h with ⟨r, h'⟩
  rw [ha] at hrun
  cases r with
  | error e => cases hrun
  | ok x => exact ⟨x, h', rfl, hrun⟩

@[simp] theorem runOn_map (g : α → β) (a : Action α) (h : Host) :
    (g <$> a).runOn h = ((a.runOn h).1.map g, (a.runOn h).2) := by
  rw [map_eq_pure_bind, runOn_bind]
  rcases a.runOn h with ⟨r, h'⟩
  cases r <;> rfl

@[simp] theorem runOn_read (f : Host → α) (h : Host) : (read f).runOn h = (.ok (f h), h) := rfl

@[simp] theorem runOn_change (f : Host → Host) (h : Host) :
    (change f).runOn h = (.ok (), f h) := rfl

@[simp] theorem runOn_orFail {ε : Type} (r : Except ε α) (reason : ε → Fault) (h : Host) :
    (orFail r reason).runOn h = (r.mapError reason, h) := rfl

@[simp] theorem runOn_attempt (a : Action α) (h : Host) :
    (attempt a).runOn h = (.ok (a.runOn h).1, (a.runOn h).2) := rfl

@[simp] theorem runOn_ofFunction (f : Host → Except Fault α × Host) (h : Host) :
    (ofFunction f).runOn h = f h := rfl

theorem runOn_configure_ok {name : Text} {value : Value} {h : Host} {config : Config}
    (hset : h.config.set name value = .ok config) :
    (configure name value).runOn h = (.ok (), { h with config }) := by
  unfold configure
  rw [runOn_ofFunction, hset]

theorem runOn_configure_error {name : Text} {value : Value} {h : Host} {f : Config.Flaw}
    (hset : h.config.set name value = .error f) :
    (configure name value).runOn h = (.error (.config f), h) := by
  unfold configure
  rw [runOn_ofFunction, hset]

theorem runOn_orFail_of_ok {ε : Type} {r : Except ε α} {reason : ε → Fault} {x : α}
    (hr : r = .ok x) (h : Host) : (orFail r reason).runOn h = (.ok x, h) := by
  rw [runOn_orFail, hr]
  rfl

theorem runOn_orFail_inv {ε : Type} {r : Except ε α} {reason : ε → Fault} {h h' : Host} {x : α}
    (hrun : (orFail r reason).runOn h = (.ok x, h')) : r = .ok x ∧ h' = h := by
  rw [runOn_orFail] at hrun
  cases r with
  | error e => cases hrun
  | ok y =>
      cases hrun
      exact ⟨rfl, rfl⟩

/-- What comes behind a tried action is run on the host that it leaves. -/
theorem runOn_attempt_bind (a : Action α) (f : Except Fault α → Action β) (h : Host) :
    (attempt a >>= f).runOn h = (f (a.runOn h).1).runOn (a.runOn h).2 :=
  runOn_bind_ok (runOn_attempt a h)

/-- The action ends with a value on the host. -/
def Succeeds (a : Action α) (h : Host) : Prop := ∃ x, (a.runOn h).1 = .ok x

theorem eq_ok_of_toOption {ε : Type} {r : Except ε α} {x : α} (hr : r.toOption = some x) :
    r = .ok x := by
  cases r with
  | error e => cases hr
  | ok y => rw [Option.some.inj hr]

theorem succeeds_of_isSome {a : Action α} {h : Host} (ha : (a.runOn h).1.toOption.isSome = true) :
    a.Succeeds h := by
  obtain ⟨x, hx⟩ := Option.isSome_iff_exists.mp ha
  exact ⟨x, eq_ok_of_toOption hx⟩

/-! ### The host that an action leaves -/

/-- On every host the one left behind is related to it. -/
def Keeps (R : Host → Host → Prop) (a : Action α) : Prop := ∀ h, R h (a.runOn h).2

namespace Keeps

variable {R : Host → Host → Prop}

/-- An action that leaves the host as it is keeps whatever is reflexive. -/
theorem of_same [Std.Refl R] {a : Action α} (ha : ∀ h, (a.runOn h).2 = h) : Keeps R a := by
  intro h
  rw [ha]
  exact Std.Refl.refl h

theorem pure [Std.Refl R] (x : α) : Keeps R (Pure.pure x : Action α) := of_same fun _ => rfl

theorem read [Std.Refl R] (f : Host → α) : Keeps R (Action.read f) := of_same fun _ => rfl

theorem fail [Std.Refl R] (f : Fault) : Keeps R (Action.fail f : Action α) := of_same fun _ => rfl

theorem settle [Std.Refl R] (r : Except Fault α) : Keeps R (Action.settle r) :=
  of_same fun _ => rfl

theorem orFail [Std.Refl R] {ε : Type} (r : Except ε α) (reason : ε → Fault) :
    Keeps R (Action.orFail r reason) := of_same fun _ => rfl

theorem configured [Std.Refl R] (name : Text) : Keeps R (Action.configured name) :=
  of_same fun _ => rfl

theorem attempt {a : Action α} (ha : Keeps R a) : Keeps R (Action.attempt a) := ha

theorem map {a : Action α} (ha : Keeps R a) (g : α → β) : Keeps R (g <$> a) := by
  intro h
  rw [runOn_map]
  exact ha h

theorem bind [IsTrans Host R] {a : Action α} {f : α → Action β} (ha : Keeps R a)
    (hf : ∀ x, Keeps R (f x)) : Keeps R (a >>= f) := by
  intro h
  have hstep := ha h
  rw [runOn_bind]
  rcases hr : a.runOn h with ⟨r, h'⟩
  rw [hr] at hstep
  cases r with
  | error e => exact hstep
  | ok x => exact IsTrans.trans _ _ _ hstep (hf x h')

theorem ite {c : Prop} [Decidable c] {a b : Action α} (ha : Keeps R a) (hb : Keeps R b) :
    Keeps R (if c then a else b) := by
  split
  · exact ha
  · exact hb

theorem forM [IsPreorder Host R] {f : α → Action Unit} (hf : ∀ x, Keeps R (f x)) (xs : List α) :
    Keeps R (xs.forM f) := by
  induction xs with
  | nil => exact Keeps.pure _
  | cons x rest ih => exact Keeps.bind (hf x) fun _ => ih

end Keeps

/-! ### What an action fails with -/

/-- Every failure of the action is of the kind `P`. -/
def FailsOnly (P : Fault → Prop) (a : Action α) : Prop := ∀ h f, (a.runOn h).1 = .error f → P f

namespace FailsOnly

variable {P : Fault → Prop}

/-- An action that always ends with a value never fails. -/
theorem of_ok {a : Action α} (ha : ∀ h, Succeeds a h) : FailsOnly P a := by
  intro h f hf
  obtain ⟨x, hx⟩ := ha h
  rw [hx] at hf
  cases hf

theorem pure (x : α) : FailsOnly P (Pure.pure x : Action α) := of_ok fun _ => ⟨_, rfl⟩

theorem read (f : Host → α) : FailsOnly P (Action.read f) := of_ok fun _ => ⟨_, rfl⟩

theorem configured (name : Text) : FailsOnly P (Action.configured name) := of_ok fun _ => ⟨_, rfl⟩

theorem change (f : Host → Host) : FailsOnly P (Action.change f) := of_ok fun _ => ⟨_, rfl⟩

theorem fail {f : Fault} (hf : P f) : FailsOnly P (Action.fail f : Action α) := by
  intro h f' hf'
  cases hf'
  exact hf

theorem orFail {ε : Type} {r : Except ε α} {reason : ε → Fault}
    (hr : ∀ e, r = .error e → P (reason e)) : FailsOnly P (Action.orFail r reason) := by
  intro h f hf
  rw [runOn_orFail] at hf
  cases r with
  | ok x => cases hf
  | error e =>
      cases hf
      exact hr e rfl

theorem bind {a : Action α} {f : α → Action β} (ha : FailsOnly P a)
    (hf : ∀ x, FailsOnly P (f x)) : FailsOnly P (a >>= f) := by
  intro h e he
  rw [runOn_bind] at he
  rcases hr : a.runOn h with ⟨r, h'⟩
  rw [hr] at he
  cases r with
  | error e' =>
      cases he
      exact ha h e (by rw [hr])
  | ok x => exact hf x h' e he

theorem ite {c : Prop} [Decidable c] {a b : Action α} (ha : FailsOnly P a) (hb : FailsOnly P b) :
    FailsOnly P (if c then a else b) := by
  split
  · exact ha
  · exact hb

end FailsOnly

/-! ### What an action comes to on one host -/

/-- On the host the action comes to a value and a host of which `Q` holds, or to a failure of which
`P` holds. -/
def ComesTo (Q : α → Host → Prop) (P : Fault → Prop) (a : Action α) (h : Host) : Prop :=
  match a.runOn h with
  | (.ok x, h') => Q x h'
  | (.error f, _) => P f

namespace ComesTo

variable {Q Q' : α → Host → Prop} {R : β → Host → Prop} {P P' : Fault → Prop} {h h' : Host}

theorem of_ok {a : Action α} {x : α} (hrun : a.runOn h = (.ok x, h')) (hx : Q x h') :
    ComesTo Q P a h := by
  unfold ComesTo
  rw [hrun]
  exact hx

theorem of_error {a : Action α} {f : Fault} (hrun : a.runOn h = (.error f, h')) (hf : P f) :
    ComesTo Q P a h := by
  unfold ComesTo
  rw [hrun]
  exact hf

theorem ok {a : Action α} {x : α} (ha : ComesTo Q P a h) (hrun : a.runOn h = (.ok x, h')) :
    Q x h' := by
  unfold ComesTo at ha
  rwa [hrun] at ha

theorem error {a : Action α} {f : Fault} (ha : ComesTo Q P a h)
    (hrun : a.runOn h = (.error f, h')) : P f := by
  unfold ComesTo at ha
  rwa [hrun] at ha

theorem congr {a b : Action α} {g : Host} (hsame : a.runOn h = b.runOn g)
    (hb : ComesTo Q P b g) : ComesTo Q P a h := by
  unfold ComesTo
  rw [hsame]
  exact hb

theorem mono {a : Action α} (ha : ComesTo Q P a h) (hvalues : ∀ x h', Q x h' → Q' x h')
    (hfaults : ∀ f, P f → P' f) : ComesTo Q' P' a h := by
  rcases hrun : a.runOn h with ⟨r, h'⟩
  cases r with
  | ok x => exact of_ok hrun (hvalues x h' (ha.ok hrun))
  | error f => exact of_error hrun (hfaults f (ha.error hrun))

theorem bind {a : Action α} {f : α → Action β} (ha : ComesTo Q P a h)
    (hf : ∀ x h', Q x h' → ComesTo R P (f x) h') : ComesTo R P (a >>= f) h := by
  rcases hrun : a.runOn h with ⟨r, h'⟩
  cases r with
  | ok x =>
      have hrest := hf x h' (ha.ok hrun)
      unfold ComesTo at hrest ⊢
      rwa [runOn_bind_ok hrun]
  | error e => exact of_error (runOn_bind_error hrun) (ha.error hrun)

/-- What the action keeps is known of the host that it leaves with a value. -/
theorem keeping {a : Action α} (ha : ComesTo Q P a h) {S : Host → Host → Prop}
    (hkeeps : Keeps S a) :
    ComesTo (fun x h' => Q x h' ∧ S h h') P a h := by
  have hleft := hkeeps h
  rcases hrun : a.runOn h with ⟨r, h'⟩
  rw [hrun] at hleft
  cases r with
  | ok x => exact of_ok hrun ⟨ha.ok hrun, hleft⟩
  | error f => exact of_error hrun (ha.error hrun)

/-- What comes behind a part that ends with a value is run on the host that it leaves. -/
theorem after {a : Action α} {f : α → Action β} {x : α} (hrun : a.runOn h = (.ok x, h'))
    (hf : ComesTo R P (f x) h') : ComesTo R P (a >>= f) h := by
  unfold ComesTo at hf ⊢
  rwa [runOn_bind_ok hrun]

/-- Whatever a tried action comes to, what is behind it goes on from there. -/
theorem attempt_bind {a : Action α} {f : Except Fault α → Action β} (ha : ComesTo Q P a h)
    (hok : ∀ x h', Q x h' → ComesTo R P' (f (.ok x)) h')
    (herror : ∀ e h', P e → ComesTo R P' (f (.error e)) h') :
    ComesTo R P' (Action.attempt a >>= f) h := by
  unfold ComesTo
  rw [runOn_attempt_bind]
  rcases hrun : a.runOn h with ⟨r, h'⟩
  cases r with
  | ok x => exact hok x h' (ha.ok hrun)
  | error e => exact herror e h' (ha.error hrun)

theorem orFail {ε : Type} {r : Except ε α} {reason : ε → Fault} (hok : ∀ x, r = .ok x → Q x h)
    (herror : ∀ e, r = .error e → P (reason e)) : ComesTo Q P (Action.orFail r reason) h := by
  cases r with
  | ok x => exact of_ok rfl (hok x rfl)
  | error e => exact of_error rfl (herror e rfl)

end ComesTo

end OtpRegistrar.Action
