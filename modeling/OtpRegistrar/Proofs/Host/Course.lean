/-
Courses: what a run may do outward, in order.

A course is the list of steps that a run takes as far as it comes.  Each step has
its event, and a condition under which the run goes on behind it: the file could be
read, the server agreed.  A run `Follows` a course if its events are those of the
first steps, and every step but the last one has passed.

Stating an order in this way makes it compose.  The course of a whole run is put
together from those of its parts, and whatever is to be known about one event is
read off the place of its step: the events in front of it are exactly those of the
steps in front, and all of these have passed.

A run may follow a course and end anywhere, since more can go wrong than its steps.
Where nothing else can, the course itself `Stops` the run, at a step that does not
pass; then the events also tell which steps must have come.
-/
import OtpRegistrar.Host.Basic

namespace OtpRegistrar

/-- A place in two lists put together is in the first or in the second. -/
theorem split_append {α : Type} {xs ys past future : List α} {x : α}
    (hsplit : xs ++ ys = past ++ x :: future) :
    (∃ rest, xs = past ++ x :: rest) ∨
    ∃ between, past = xs ++ between ∧ ys = between ++ x :: future := by
  rcases List.append_eq_append_iff.mp hsplit with ⟨between, hpast, hys⟩ | ⟨rest, hxs, hrest⟩
  · exact .inr ⟨between, hpast, hys⟩
  · cases rest with
    | nil =>
        rw [List.append_nil] at hxs
        exact .inr ⟨[], by rw [List.append_nil, hxs], hrest.symm⟩
    | cons y rest =>
        obtain ⟨rfl, -⟩ := List.cons.inj hrest
        exact .inl ⟨rest, hxs⟩

/-- A list of one has one place. -/
theorem split_singleton {α : Type} {x y : α} {past future : List α}
    (hsplit : [y] = past ++ x :: future) : past = [] ∧ x = y := by
  rcases List.singleton_eq_append_iff.mp hsplit with ⟨hpast, hrest⟩ | ⟨-, hrest⟩
  · exact ⟨hpast, (List.cons.inj hrest).1⟩
  · cases hrest

/-- A step outward, and the condition under which a run goes on behind it. -/
structure Step where
  event : Event
  passed : Prop

namespace Step

/-- The events of a course that is followed to its end. -/
def events (course : List Step) : List Event := course.map event

@[simp] theorem events_nil : events [] = [] := rfl

@[simp] theorem events_cons (step : Step) (course : List Step) :
    events (step :: course) = step.event :: events course := rfl

@[simp] theorem events_append (course course' : List Step) :
    events (course ++ course') = events course ++ events course' := List.map_append

@[simp] theorem events_ite {c : Prop} [Decidable c] (course course' : List Step) :
    events (if c then course else course') = if c then events course else events course' :=
  apply_ite events c course course'

/-- Every step of the course has passed. -/
def AllPassed (course : List Step) : Prop := ∀ step ∈ course, step.passed

theorem AllPassed.nil : AllPassed [] := fun _ h => nomatch h

theorem AllPassed.cons {step : Step} {course : List Step} (hstep : step.passed)
    (hcourse : AllPassed course) : AllPassed (step :: course) :=
  List.forall_mem_cons.mpr ⟨hstep, hcourse⟩

theorem AllPassed.append {course course' : List Step} (h : AllPassed course)
    (h' : AllPassed course') : AllPassed (course ++ course') :=
  List.forall_mem_append.mpr ⟨h, h'⟩

end Step

/-- The events are those of a run that follows the course, as far as it comes. -/
inductive Follows : List Step → List Event → Prop
  | stop (course : List Step) : Follows course []
  | halt (step : Step) (course : List Step) : Follows (step :: course) [step.event]
  | pass {step : Step} {course : List Step} {es : List Event} (hstep : step.passed)
      (hrest : Follows course es) : Follows (step :: course) (step.event :: es)

namespace Follows

variable {course course' : List Step} {es : List Event}

/-- A course whose steps have passed may be followed to its end and on into another. -/
theorem append (hpassed : Step.AllPassed course) (hes : Follows course' es) :
    Follows (course ++ course') (Step.events course ++ es) := by
  induction course with
  | nil => exact hes
  | cons step rest ih =>
      obtain ⟨hstep, hrest⟩ := List.forall_mem_cons.mp hpassed
      exact .pass hstep (ih hrest)

theorem whole (hpassed : Step.AllPassed course) : Follows course (Step.events course) := by
  have := append hpassed (.stop [])
  rwa [List.append_nil, List.append_nil] at this

/-- What follows a course follows it still when more is put behind. -/
theorem extend (hes : Follows course es) (more : List Step) : Follows (course ++ more) es := by
  induction hes with
  | stop course => exact .stop _
  | halt step course => exact .halt _ _
  | pass hstep hrest ih => exact .pass hstep ih

/-- Only events of the course come in following it. -/
theorem subset (hes : Follows course es) : es ⊆ Step.events course := by
  induction hes with
  | stop course => exact List.nil_subset _
  | halt step course => exact List.cons_subset_cons _ (List.nil_subset _)
  | pass hstep hrest ih => exact List.cons_subset_cons _ ih

/-- **An event of a run has its step in the course: the events before it are those of the steps in
front, all of which have passed.** -/
theorem place {past future : List Event} {e : Event} (hes : Follows course es)
    (hsplit : es = past ++ e :: future) :
    ∃ before step after, course = before ++ step :: after ∧ step.event = e ∧
      Step.events before = past ∧ Step.AllPassed before := by
  induction hes generalizing past with
  | stop course => simp at hsplit
  | halt step course =>
      cases past with
      | nil =>
          simp only [List.nil_append, List.cons.injEq] at hsplit
          exact ⟨[], step, course, rfl, hsplit.1, rfl, .nil⟩
      | cons e' past => simp at hsplit
  | @pass step course es hstep hrest ih =>
      cases past with
      | nil =>
          simp only [List.nil_append, List.cons.injEq] at hsplit
          exact ⟨[], step, course, rfl, hsplit.1, rfl, .nil⟩
      | cons e' past =>
          simp only [List.cons_append, List.cons.injEq] at hsplit
          obtain ⟨before, step', after, hcourse, hevent, hpast, hpassed⟩ := ih hsplit.2
          refine ⟨step :: before, step', after, by rw [hcourse]; rfl, hevent, ?_, ?_⟩
          · rw [Step.events_cons, hpast, hsplit.1]
          · exact .cons hstep hpassed

end Follows

/-- The events are those of a run that the course stops, at its first step that does not pass. -/
inductive Stops : List Step → List Event → Prop
  | here {step : Step} {course : List Step} (hstep : ¬step.passed) :
      Stops (step :: course) [step.event]
  | pass {step : Step} {course : List Step} {es : List Event} (hstep : step.passed)
      (hrest : Stops course es) : Stops (step :: course) (step.event :: es)

namespace Stops

variable {course course' : List Step} {es : List Event}

theorem follows (hes : Stops course es) : Follows course es := by
  induction hes with
  | here hstep => exact .halt _ _
  | pass hstep hrest ih => exact .pass hstep ih

theorem append (hpassed : Step.AllPassed course) (hes : Stops course' es) :
    Stops (course ++ course') (Step.events course ++ es) := by
  induction course with
  | nil => exact hes
  | cons step rest ih =>
      obtain ⟨hstep, hrest⟩ := List.forall_mem_cons.mp hpassed
      exact .pass hstep (ih hrest)

theorem extend (hes : Stops course es) (more : List Step) : Stops (course ++ more) es := by
  induction hes with
  | here hstep => exact .here hstep
  | pass hstep hrest ih => exact .pass hstep ih

/-- A run that is stopped has come to every step that only steps which pass stand before. -/
theorem reaches {before after : List Step} {step : Step}
    (hes : Stops (before ++ step :: after) es) (hpassed : Step.AllPassed before) :
    step.event ∈ es := by
  induction before generalizing es with
  | nil => cases hes <;> exact List.mem_cons_self
  | cons first before ih =>
      obtain ⟨hfirst, hrest⟩ := List.forall_mem_cons.mp hpassed
      cases hes with
      | here hstep => exact absurd hfirst hstep
      | pass _ hes => exact List.mem_cons_of_mem _ (ih hes hrest)

end Stops

end OtpRegistrar
