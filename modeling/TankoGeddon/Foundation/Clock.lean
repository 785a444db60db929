import Mathlib.Algebra.Order.Field.Basic
import Mathlib.Algebra.Order.Group.Defs
import TankoGeddon.Foundation.Run

/-! A transition system under the clock of a frame loop.

The system itself only says what each event does to its timer handles. The clock
keeps the time at which each pending handle is due: a callback runs at that time or
later, in any order among those that are due, and a frame only passes when no callback
is overdue. How late a callback can be is then the length of one frame.
-/

set_option autoImplicit false

namespace Foundation

variable {S E O H T : Type}

/-- What a step does to one handle. `again` is the expiry of a looping timer, which
counts from the time it was due and not from the time it ran. -/
inductive Setting (T : Type) where
  | kept
  | cleared
  | after (delay : T)
  | again (period : T)
  deriving DecidableEq, Repr

/-- How a system uses its timers: the handle whose expiry an event is, what a step does
to each handle, and which handles are pending in a state. -/
structure Timing (S E O H T : Type) where
  expires : E → Option H
  sets : Step S E O → H → Setting T
  pending : S → H → Bool
  handles : S → List H

structure Clocked (S H T : Type) where
  state : S
  now : T
  due : H → Option T

/-- A frame of some length, or an event of the system. -/
inductive Beat (E T : Type) where
  | tick (elapsed : T)
  | act (event : E)

section

variable [Field T] [LinearOrder T]

namespace Setting

/-- When the handle is due next. -/
def apply (now : T) (due : Option T) : Setting T → Option T
  | .kept => due
  | .cleared => none
  | .after delay => if 0 < delay then some (now + delay) else none
  | .again period => due.map (· + period)

/-- Whether the handle is pending after the step. -/
def leaves (pending : Bool) : Setting T → Bool
  | .kept | .again _ => pending
  | .cleared => false
  | .after delay => decide (0 < delay)

theorem apply_isSome (now : T) (due : Option T) (setting : Setting T) :
    (setting.apply now due).isSome = setting.leaves due.isSome := by
  cases setting with
  | kept => rfl
  | cleared => rfl
  | after delay =>
      simp only [apply, leaves]
      split
      · next positive => simp [positive]
      · next stopped => simp [stopped]
  | again period => simp [apply, leaves]

end Setting

namespace Timing

variable (timing : Timing S E O H T) (step : S → E → Option (S × O))

/-- The clock with the system: time passes when no callback is overdue, and a callback
runs when its time has come. -/
def clock (c : Clocked S H T) : Beat E T → Option (Clocked S H T × Option (Step S E O))
  | .tick elapsed =>
      if 0 ≤ elapsed ∧ ∀ h ∈ timing.handles c.state, ∀ d ∈ c.due h, c.now ≤ d then
        some ({ c with now := c.now + elapsed }, none)
      else none
  | .act event =>
      if ∀ h ∈ timing.expires event, ∃ d ∈ c.due h, d ≤ c.now then
        (step c.state event).map fun next =>
          let t : Step S E O := ⟨c.state, event, next.2, next.1⟩
          (⟨next.1, c.now, fun h => (timing.sets t h).apply c.now (c.due h)⟩, some t)
      else none

/-- The rules of the clock know what the system says is pending, and a looping timer
does not run backwards. `Inv` is what holds of the states of the system. -/
structure Lawful (Inv : S → Prop) : Prop where
  keeps : ∀ t : Step S E O, step t.before t.event = some (t.after, t.output) → Inv t.before → Inv t.after
  agrees : ∀ t : Step S E O, step t.before t.event = some (t.after, t.output) → Inv t.before →
    ∀ h, timing.pending t.after h = (timing.sets t h).leaves (timing.pending t.before h)
  listed : ∀ s h, timing.pending s h = true → h ∈ timing.handles s
  forth : ∀ t : Step S E O, step t.before t.event = some (t.after, t.output) → Inv t.before →
    ∀ h period, timing.sets t h = .again period → 0 ≤ period

/-- The clock has a time for exactly the handles that are pending. -/
def Agrees (c : Clocked S H T) : Prop := ∀ h, (c.due h).isSome = timing.pending c.state h

/-- No callback is later than the given delay. -/
def Punctual (late : T) (c : Clocked S H T) : Prop := ∀ h, ∀ d ∈ c.due h, c.now ≤ d + late

variable {timing step} {c c' : Clocked S H T}

theorem clock_tick {elapsed : T} {shown : Option (Step S E O)}
    (taken : timing.clock step c (.tick elapsed) = some (c', shown)) :
    0 ≤ elapsed ∧ (∀ h ∈ timing.handles c.state, ∀ d ∈ c.due h, c.now ≤ d) ∧
      c' = { c with now := c.now + elapsed } ∧ shown = none := by
  simp only [clock] at taken
  split at taken
  · next able =>
    cases taken
    exact ⟨able.1, able.2, rfl, rfl⟩
  · cases taken

theorem clock_act {event : E} {shown : Option (Step S E O)}
    (taken : timing.clock step c (.act event) = some (c', shown)) :
    ∃ t : Step S E O, t.before = c.state ∧ t.event = event ∧ step t.before t.event = some (t.after, t.output) ∧
      (∀ h ∈ timing.expires event, ∃ d ∈ c.due h, d ≤ c.now) ∧
      c' = ⟨t.after, c.now, fun h => (timing.sets t h).apply c.now (c.due h)⟩ ∧ shown = some t := by
  simp only [clock] at taken
  split at taken
  · next able =>
    obtain ⟨next, offered, same⟩ := Option.map_eq_some_iff.mp taken
    cases same
    exact ⟨⟨c.state, event, next.2, next.1⟩, rfl, rfl, offered, able, rfl, rfl⟩
  · cases taken

/-- A step of the clock is a frame or a step of the system. -/
theorem clock_cases {t : Step (Clocked S H T) (Beat E T) (Option (Step S E O))}
    (taken : timing.clock step t.before t.event = some (t.after, t.output)) :
    (∃ elapsed, t.event = .tick elapsed ∧ 0 ≤ elapsed ∧
      (∀ h ∈ timing.handles t.before.state, ∀ d ∈ t.before.due h, t.before.now ≤ d) ∧
      t.after = { t.before with now := t.before.now + elapsed } ∧ t.output = none) ∨
    ∃ u : Step S E O, t.output = some u ∧ t.event = .act u.event ∧ u.before = t.before.state ∧
      u.after = t.after.state ∧ step u.before u.event = some (u.after, u.output) ∧
      (∀ h ∈ timing.expires u.event, ∃ d ∈ t.before.due h, d ≤ t.before.now) ∧
      t.after.now = t.before.now ∧
      ∀ h, t.after.due h = (timing.sets u h).apply t.before.now (t.before.due h) := by
  cases beat : t.event with
  | tick elapsed =>
      rw [beat] at taken
      obtain ⟨forward, quiet, after, shown⟩ := clock_tick taken
      exact .inl ⟨elapsed, rfl, forward, quiet, after, shown⟩
  | act event =>
      rw [beat] at taken
      obtain ⟨u, before, named, offered, able, after, shown⟩ := clock_act taken
      refine .inr ⟨u, shown, by rw [named], before, by rw [after], offered, ?_, by rw [after], ?_⟩
      · rw [named]
        exact able
      · intro h
        rw [after]

/-- The run of the system under the clock. -/
def untimed (trace : List (Step (Clocked S H T) (Beat E T) (Option (Step S E O)))) : List (Step S E O) :=
  trace.filterMap (·.output)

variable {trace : List (Step (Clocked S H T) (Beat E T) (Option (Step S E O)))}

theorem run_untimed (run : Run (timing.clock step) c trace c') :
    Run step c.state (untimed trace) c'.state := by
  refine run.growing (motive := fun trace final => Run step c.state (untimed trace) final.state) (.nil _) ?_
  intro trace t _ taken ih
  rw [untimed, List.filterMap_append, List.filterMap_cons, List.filterMap_nil]
  rcases clock_cases taken with ⟨_, _, _, _, after, shown⟩ | ⟨u, shown, _, before, next, offered, _⟩
  · rw [shown, after, List.append_nil]
    exact ih
  · rw [shown, ← next]
    rw [← before] at ih
    exact ih.snoc offered

theorem Lawful.step_agrees {Inv : S → Prop} (lawful : timing.Lawful step Inv)
    {t : Step (Clocked S H T) (Beat E T) (Option (Step S E O))}
    (taken : timing.clock step t.before t.event = some (t.after, t.output))
    (before : Inv t.before.state ∧ timing.Agrees t.before) : Inv t.after.state ∧ timing.Agrees t.after := by
  obtain ⟨inv, agrees⟩ := before
  rcases clock_cases taken with ⟨_, _, _, _, after, _⟩ | ⟨u, _, _, here, next, offered, _, _, due⟩
  · rw [after]
    exact ⟨inv, agrees⟩
  · rw [← here] at inv
    refine ⟨by rw [← next]; exact lawful.keeps u offered inv, ?_⟩
    intro h
    rw [due, Setting.apply_isSome, agrees h, ← next, ← here]
    exact (lawful.agrees u offered inv h).symm

theorem Lawful.run_agrees {Inv : S → Prop} (lawful : timing.Lawful step Inv) (inv : Inv c.state)
    (agrees : timing.Agrees c) (run : Run (timing.clock step) c trace c') :
    (Inv c'.state ∧ timing.Agrees c') ∧
      ∀ t ∈ trace, (Inv t.before.state ∧ timing.Agrees t.before) ∧ Inv t.after.state ∧ timing.Agrees t.after :=
  run.invariant (fun c => Inv c.state ∧ timing.Agrees c) ⟨inv, agrees⟩
    fun _ _ taken before => lawful.step_agrees taken before

/-- No frame of the run is longer than the given time. -/
def Frames (late : T) (trace : List (Step (Clocked S H T) (Beat E T) (Option (Step S E O)))) : Prop :=
  ∀ t ∈ trace, ∀ elapsed, t.event = .tick elapsed → elapsed ≤ late

/-- The frames of a run that is performed are those of its list of beats. -/
theorem frames_of_beats {late : T} {beats : List (Beat E T)} (short : ∀ elapsed, .tick elapsed ∈ beats → elapsed ≤ late) :
    Frames late (perform (timing.clock step) c beats).1 := by
  intro t member elapsed beat
  obtain ⟨n, found⟩ := List.getElem?_of_mem member
  have offered := List.mem_of_getElem? (perform_event _ _ _ t n found)
  rw [beat] at offered
  exact short elapsed offered

variable [IsStrictOrderedRing T]

theorem Lawful.step_punctual {Inv : S → Prop} (lawful : timing.Lawful step Inv) {late : T} (nonneg : 0 ≤ late)
    {t : Step (Clocked S H T) (Beat E T) (Option (Step S E O))}
    (taken : timing.clock step t.before t.event = some (t.after, t.output)) (inv : Inv t.before.state)
    (agrees : timing.Agrees t.before) (frame : ∀ elapsed, t.event = .tick elapsed → elapsed ≤ late)
    (punctual : Punctual late t.before) : Punctual late t.after := by
  rcases clock_cases taken with ⟨elapsed, beat, _, quiet, after, _⟩ | ⟨u, _, _, here, _, offered, _, now, due⟩
  · intro h d pending
    rw [after] at pending ⊢
    have known : timing.pending t.before.state h = true := by
      rw [← agrees h, Option.isSome_iff_exists]
      exact ⟨d, pending⟩
    have first := quiet h (lawful.listed _ h known) d pending
    exact add_le_add first (frame elapsed beat)
  · intro h d pending
    rw [due] at pending
    rw [now]
    rw [← here] at inv
    cases setting : timing.sets u h with
    | kept =>
        rw [setting] at pending
        exact punctual h d pending
    | cleared =>
        rw [setting] at pending
        cases pending
    | after delay =>
        rw [setting, Setting.apply] at pending
        split at pending
        · next positive =>
          obtain rfl := Option.some.inj pending
          rw [add_assoc]
          exact le_add_of_nonneg_right (add_nonneg positive.le nonneg)
        · cases pending
    | again period =>
        rw [setting] at pending
        obtain ⟨first, known, rfl⟩ := Option.map_eq_some_iff.mp pending
        have forth := lawful.forth u offered inv h period setting
        have bound := punctual h first known
        rw [add_right_comm]
        exact le_add_of_le_of_nonneg bound forth

/-- No callback of a run is later than one frame. -/
theorem Lawful.run_punctual {Inv : S → Prop} (lawful : timing.Lawful step Inv) {late : T} (nonneg : 0 ≤ late)
    (inv : Inv c.state) (agrees : timing.Agrees c) (punctual : Punctual late c) (frames : Frames late trace)
    (run : Run (timing.clock step) c trace c') :
    Punctual late c' ∧ ∀ t ∈ trace, Punctual late t.before ∧ Punctual late t.after := by
  have known := lawful.run_agrees inv agrees run
  exact run.invariant (Punctual late) punctual fun t member taken before =>
    lawful.step_punctual nonneg taken (known.2 t member).1.1 (known.2 t member).1.2 (frames t member) before

/-- Time does not run backwards. -/
theorem run_forward (run : Run (timing.clock step) c trace c') :
    c.now ≤ c'.now ∧ ∀ t ∈ trace, c.now ≤ t.before.now ∧ c.now ≤ t.after.now := by
  refine run.invariant (fun s => c.now ≤ s.now) le_rfl ?_
  intro t _ taken before
  rcases clock_cases taken with ⟨elapsed, _, forward, _, after, _⟩ | ⟨_, _, _, _, _, _, _, now, _⟩
  · rw [after]
    exact le_add_of_le_of_nonneg before forward
  · rw [now]
    exact before

end Timing

end

end Foundation
