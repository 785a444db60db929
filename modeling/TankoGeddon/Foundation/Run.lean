import Mathlib.Data.List.Induction
import Mathlib.Order.Basic

/-! Finite runs of a partial transition function with outputs.

A run is kept as the list of its steps, each with the states around it, so that
a law about every step, every state or every pair of steps is a statement about
list membership. A step the function does not offer is not in any run.
-/

set_option autoImplicit false

namespace Foundation

/-- One step of a run: the event, what the step showed, the states around it. -/
structure Step (S E O : Type) where
  before : S
  event : E
  output : O
  after : S

variable {S E O : Type}

/-- Oldest step first. -/
inductive Run (step : S → E → Option (S × O)) : S → List (Step S E O) → S → Prop where
  | nil (s : S) : Run step s [] s
  | cons {s middle final : S} {event : E} {output : O} {trace : List (Step S E O)} :
      step s event = some (middle, output) → Run step middle trace final →
      Run step s (⟨s, event, output, middle⟩ :: trace) final

namespace Run

variable {step : S → E → Option (S × O)} {start middle final : S}
  {trace early late : List (Step S E O)}

theorem single {event : E} {output : O} (taken : step start event = some (final, output)) :
    Run step start [⟨start, event, output, final⟩] final :=
  .cons taken (.nil final)

theorem append (first : Run step start early middle) (rest : Run step middle late final) :
    Run step start (early ++ late) final := by
  induction first with
  | nil => exact rest
  | cons taken _ ih => exact .cons taken (ih rest)

theorem split (run : Run step start (early ++ late) final) :
    ∃ middle, Run step start early middle ∧ Run step middle late final := by
  induction early generalizing start with
  | nil => exact ⟨start, .nil start, run⟩
  | cons first rest ih =>
      cases run with
      | cons taken run =>
          obtain ⟨middle, before, after⟩ := ih run
          exact ⟨middle, .cons taken before, after⟩

/-- A step of a run was offered by the transition function. -/
theorem taken (run : Run step start trace final) {t : Step S E O} (member : t ∈ trace) :
    step t.before t.event = some (t.after, t.output) := by
  induction run with
  | nil => cases member
  | cons taken _ ih =>
      rcases List.mem_cons.mp member with rfl | member
      · exact taken
      · exact ih member

/-- The run cut at one of its steps. -/
theorem cut {t : Step S E O} (run : Run step start (early ++ t :: late) final) :
    Run step start early t.before ∧ Run step t.after late final := by
  obtain ⟨middle, before, after⟩ := run.split
  cases after with
  | cons taken rest => exact ⟨before, rest⟩

theorem snoc {t : Step S E O} (run : Run step start trace t.before)
    (taken : step t.before t.event = some (t.after, t.output)) :
    Run step start (trace ++ [t]) t.after :=
  run.append (single taken)

/-- Grow a run at its end. The trace read so far is available to the motive, so
a quantity summed over the trace can be compared with the state reached. -/
theorem growing {motive : List (Step S E O) → S → Prop} (run : Run step start trace final)
    (nil : motive [] start)
    (snoc : ∀ trace t, Run step start trace t.before →
      step t.before t.event = some (t.after, t.output) → motive trace t.before →
      motive (trace ++ [t]) t.after) :
    motive trace final := by
  induction trace using List.reverseRecOn generalizing final with
  | nil => cases run; exact nil
  | append_singleton early t ih =>
      obtain ⟨before, rest⟩ := run.cut
      cases rest
      exact snoc early t before (run.taken (by simp)) (ih before)

/-- The invariant rule. Preservation is asked only of the steps the run takes,
so a condition on those steps can be used while proving it. -/
theorem invariant (run : Run step start trace final) (Inv : S → Prop) (initial : Inv start)
    (keeps : ∀ t ∈ trace, step t.before t.event = some (t.after, t.output) →
      Inv t.before → Inv t.after) :
    Inv final ∧ ∀ t ∈ trace, Inv t.before ∧ Inv t.after := by
  induction run with
  | nil => exact ⟨initial, fun t member => by cases member⟩
  | cons taken rest ih =>
      have next : Inv _ := keeps _ List.mem_cons_self taken initial
      obtain ⟨last, each⟩ := ih next fun t member => keeps t (List.mem_cons_of_mem _ member)
      refine ⟨last, fun t member => ?_⟩
      rcases List.mem_cons.mp member with rfl | member
      · exact ⟨initial, next⟩
      · exact each t member

/-- The first bad step. Where a good step keeps the invariant, and where from an
invariant state the law holds of a step exactly when the step is good, a run
keeps the law throughout exactly when all its steps are good. -/
theorem forall_iff (run : Run step start trace final) (Inv : S → Prop)
    (Law Good : Step S E O → Prop) (initial : Inv start)
    (keeps : ∀ t : Step S E O, step t.before t.event = some (t.after, t.output) →
      Inv t.before → Good t → Inv t.after)
    (exactly : ∀ t : Step S E O, step t.before t.event = some (t.after, t.output) →
      Inv t.before → (Law t ↔ Good t)) :
    (∀ t ∈ trace, Law t) ↔ ∀ t ∈ trace, Good t := by
  induction run with
  | nil => simp
  | @cons s middle final event output trace taken rest ih =>
      have here := exactly ⟨s, event, output, middle⟩ taken initial
      simp only [List.forall_mem_cons]
      constructor
      · rintro ⟨law, laws⟩
        have good := here.mp law
        exact ⟨good, (ih (keeps _ taken initial good)).mp laws⟩
      · rintro ⟨good, goods⟩
        exact ⟨here.mpr good, (ih (keeps _ taken initial good)).mpr goods⟩

/-- What does not hold at the start and holds at the end was brought about by a step, and
has held ever since. -/
theorem rise (run : Run step start trace final) (Holds : S → Prop) (low : ¬ Holds start) (high : Holds final) :
    ∃ early t late, trace = early ++ t :: late ∧ ¬ Holds t.before ∧ Holds t.after ∧ ∀ u ∈ late, Holds u.after := by
  refine run.growing (motive := fun trace s => Holds s → ∃ early t late, trace = early ++ t :: late ∧
    ¬ Holds t.before ∧ Holds t.after ∧ ∀ u ∈ late, Holds u.after) ?nil ?snoc high
  case nil => exact fun high => absurd high low
  case snoc =>
    intro trace t _ _ ih high
    by_cases held : Holds t.before
    · obtain ⟨early, u, late, rfl, raised⟩ := ih held
      refine ⟨early, u, late ++ [t], by simp, raised.1, raised.2.1, ?_⟩
      intro v member
      rcases List.mem_append.mp member with inside | last
      · exact raised.2.2 v inside
      · rw [List.mem_singleton.mp last]
        exact high
    · exact ⟨trace, t, [], rfl, held, high, fun _ member => by cases member⟩

end Run

/-- Run a list of events, stopping at the first that is not offered. -/
def perform (step : S → E → Option (S × O)) : S → List E → List (Step S E O) × S
  | s, [] => ([], s)
  | s, event :: events =>
      match step s event with
      | some (next, output) =>
          let rest := perform step next events
          (⟨s, event, output, next⟩ :: rest.1, rest.2)
      | none => ([], s)

theorem perform_run (step : S → E → Option (S × O)) (start : S) (events : List E) :
    Run step start (perform step start events).1 (perform step start events).2 := by
  induction events generalizing start with
  | nil => exact .nil start
  | cons event events ih =>
      unfold perform
      cases offered : step start event with
      | none => exact .nil start
      | some next => exact .cons offered (ih next.1)

theorem perform_event (step : S → E → Option (S × O)) (start : S) (events : List E) (t : Step S E O)
    (n : Nat) (found : (perform step start events).1[n]? = some t) : events[n]? = some t.event := by
  induction events generalizing start n with
  | nil => cases found
  | cons event events ih =>
      unfold perform at found
      cases offered : step start event with
      | none =>
          rw [offered] at found
          cases found
      | some next =>
          rw [offered] at found
          cases n with
          | zero =>
              cases found
              rfl
          | succ n => exact ih next.1 n found

/-- The largest value a measure takes on the states of a run. -/
def peak (measure : S → Nat) (start : S) (trace : List (Step S E O)) : Nat :=
  trace.foldl (fun most t => max most (measure t.after)) (measure start)

@[simp] theorem peak_nil (measure : S → Nat) (start : S) :
    peak measure start ([] : List (Step S E O)) = measure start := rfl

@[simp] theorem peak_snoc (measure : S → Nat) (start : S) (trace : List (Step S E O))
    (t : Step S E O) :
    peak measure start (trace ++ [t]) = max (peak measure start trace) (measure t.after) := by
  simp [peak, List.foldl_append]

theorem peak_le {measure : S → Nat} {start : S} {trace : List (Step S E O)} {bound : Nat}
    (first : measure start ≤ bound) (each : ∀ t ∈ trace, measure t.after ≤ bound) :
    peak measure start trace ≤ bound := by
  induction trace using List.reverseRecOn with
  | nil => exact first
  | append_singleton early t ih =>
      rw [peak_snoc]
      have before := ih fun u member => each u (List.mem_append_left _ member)
      exact Nat.max_le.mpr ⟨before, each t (by simp)⟩

end Foundation
