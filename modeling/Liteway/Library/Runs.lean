import Mathlib.Data.List.Basic

/-!
# Runs of a state machine

A machine is a step function on states.  `Guarded` says that every event of a
run met a condition on the state it happened in; an invariant that guarded steps
keep holds after every guarded run.
-/

namespace Liteway.Library

variable {State Event : Type}

def runAll (step : State → Event → State) (start : State) (events : List Event) : State :=
  events.foldl step start

@[simp] theorem runAll_nil (step : State → Event → State) (start : State) :
    runAll step start [] = start := rfl

@[simp] theorem runAll_cons (step : State → Event → State) (start : State) (event : Event)
    (events : List Event) :
    runAll step start (event :: events) = runAll step (step start event) events := rfl

theorem runAll_append (step : State → Event → State) (start : State) (before after : List Event) :
    runAll step start (before ++ after) = runAll step (runAll step start before) after :=
  List.foldl_append

/-- Every event of the run meets the guard in the state it is applied to. -/
def Guarded (step : State → Event → State) (guard : State → Event → Prop) :
    State → List Event → Prop
  | _, [] => True
  | state, event :: events => guard state event ∧ Guarded step guard (step state event) events

theorem guarded_append {step : State → Event → State} {guard : State → Event → Prop}
    {start : State} {before after : List Event} :
    Guarded step guard start (before ++ after) ↔
      Guarded step guard start before ∧ Guarded step guard (runAll step start before) after := by
  induction before generalizing start with
  | nil => simp [Guarded]
  | cons event rest ih => simp [Guarded, ih, and_assoc]

theorem guarded_before {step : State → Event → State} {guard : State → Event → Prop}
    {start : State} {before events : List Event} (hbefore : before <+: events)
    (h : Guarded step guard start events) : Guarded step guard start before := by
  obtain ⟨rest, rfl⟩ := hbefore
  exact (guarded_append.mp h).1

theorem guarded_cons_of_step {step : State → Event → State} {guard : State → Event → Prop}
    {start next last : State} {event : Event} {events : List Event} (hstep : step start event = next)
    (hguard : guard start event)
    (hrest : Guarded step guard next events ∧ runAll step next events = last) :
    Guarded step guard start (event :: events) ∧ runAll step start (event :: events) = last := by
  subst hstep
  exact ⟨⟨hguard, hrest.1⟩, hrest.2⟩

/-- What every guarded step keeps, every guarded run keeps. -/
theorem guarded_invariant {step : State → Event → State} {guard : State → Event → Prop}
    {Inv : State → Prop} (hstep : ∀ state event, Inv state → guard state event →
      Inv (step state event)) {start : State} {events : List Event} (hstart : Inv start)
    (hguard : Guarded step guard start events) : Inv (runAll step start events) := by
  induction events generalizing start with
  | nil => exact hstart
  | cons event rest ih => exact ih (hstep start event hstart hguard.1) hguard.2

/-- Where a guard says exactly which steps keep the invariant, the guarded runs
are those in which it holds all along. -/
theorem guarded_iff_prefixes {step : State → Event → State} {guard : State → Event → Prop}
    {Inv : State → Prop} (hstep : ∀ state event, Inv state →
      (guard state event ↔ Inv (step state event))) {start : State} {events : List Event}
    (hstart : Inv start) :
    Guarded step guard start events ↔
      ∀ before, before <+: events → Inv (runAll step start before) := by
  induction events generalizing start with
  | nil =>
      refine ⟨fun _ before hbefore => ?_, fun _ => trivial⟩
      rw [List.prefix_nil.mp hbefore]
      exact hstart
  | cons event rest ih =>
      constructor
      · rintro ⟨hguard, hrest⟩ before hbefore
        cases before with
        | nil => exact hstart
        | cons first before =>
            obtain ⟨rfl, htail⟩ := List.cons_prefix_cons.mp hbefore
            exact (ih ((hstep start first hstart).mp hguard)).mp hrest before htail
      · intro hall
        have hnext : Inv (step start event) :=
          hall [event] (List.cons_prefix_cons.mpr ⟨rfl, List.nil_prefix⟩)
        refine ⟨(hstep start event hstart).mpr hnext, (ih hnext).mpr fun before hbefore => ?_⟩
        exact hall (event :: before) (List.cons_prefix_cons.mpr ⟨rfl, hbefore⟩)

theorem runAll_invariant {step : State → Event → State} {Inv : State → Prop}
    (hstep : ∀ state event, Inv state → Inv (step state event)) {start : State}
    (hstart : Inv start) (events : List Event) : Inv (runAll step start events) := by
  induction events generalizing start with
  | nil => exact hstart
  | cons event rest ih => exact ih (hstep start event hstart)

end Liteway.Library
