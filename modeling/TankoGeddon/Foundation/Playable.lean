import Mathlib.Algebra.Order.Archimedean.Basic
import TankoGeddon.Foundation.Clock

/-! A clocked system that never stands still.

Where each pending callback can run and does something to its own handle, what is overdue
can be worked off one handle at a time, and then a frame can pass. A looping callback runs
once for each period it is behind, which is finitely often. An event may carry what the
environment answers to it; `Answers` says what is answered in a state.
-/

set_option autoImplicit false

namespace Foundation

variable {S E O H T : Type}

namespace Timing

/-- The lengths of the frames of a run. -/
def ticks (trace : List (Step (Clocked S H T) (Beat E T) (Option (Step S E O)))) : List T :=
  trace.filterMap fun u => match u.event with
    | .tick elapsed => some elapsed
    | .act _ => none

/-- Besides its frames the run consists of callbacks, answered as given. -/
def CallbacksOnly (timing : Timing S E O H T) (Answers : S → E → Prop)
    (trace : List (Step (Clocked S H T) (Beat E T) (Option (Step S E O)))) : Prop :=
  ∀ u ∈ trace, ∀ event, u.event = .act event →
    (timing.expires event).isSome = true ∧ Answers u.before.state event

theorem ticks_append (early late : List (Step (Clocked S H T) (Beat E T) (Option (Step S E O)))) :
    ticks (early ++ late) = ticks early ++ ticks late := List.filterMap_append

theorem CallbacksOnly.append {timing : Timing S E O H T} {Answers : S → E → Prop}
    {early late : List (Step (Clocked S H T) (Beat E T) (Option (Step S E O)))}
    (first : timing.CallbacksOnly Answers early) (rest : timing.CallbacksOnly Answers late) :
    timing.CallbacksOnly Answers (early ++ late) := by
  intro u member
  rcases List.mem_append.mp member with inside | inside
  · exact first u inside
  · exact rest u inside

variable [Field T] [LinearOrder T] (timing : Timing S E O H T) (step : S → E → Option (S × O))
  (Answers : S → E → Prop)

/-- The callback should have run before now. -/
def Overdue (c : Clocked S H T) (h : H) : Prop := ∃ d ∈ c.due h, d < c.now

/-- Every pending callback can run, whatever is answered to it. It clears its handle, sets
it anew, or is that of a looping timer, whose period it leaves. -/
structure Runs (Inv : S → Prop) (period : S → H → T) : Prop where
  offered : ∀ s h, Inv s → timing.pending s h = true → ∃ event next output, timing.expires event = some h ∧
    Answers s event ∧ step s event = some (next, output) ∧
    (timing.sets ⟨s, event, output, next⟩ h = .cleared ∨
      (∃ delay, timing.sets ⟨s, event, output, next⟩ h = .after delay) ∨
      0 < period s h ∧ timing.sets ⟨s, event, output, next⟩ h = .again (period s h) ∧ period next h = period s h)

/-- Callbacks from one state of the clock to another, at one time. -/
structure Works (c c' : Clocked S H T)
    (trace : List (Step (Clocked S H T) (Beat E T) (Option (Step S E O)))) : Prop where
  run : Run (timing.clock step) c trace c'
  only : timing.CallbacksOnly Answers trace
  still : ticks trace = []
  now : c'.now = c.now
  overdue : ∀ h, Overdue c' h → Overdue c h

variable {timing step Answers} {Inv : S → Prop} {period : S → H → T} {c : Clocked S H T}

theorem Works.refl (c : Clocked S H T) : Works timing step Answers c c [] :=
  ⟨.nil c, by simp [CallbacksOnly], rfl, rfl, fun _ => id⟩

theorem Works.trans {c₁ c₂ : Clocked S H T} {early late : List (Step (Clocked S H T) (Beat E T) (Option (Step S E O)))}
    (first : Works timing step Answers c c₁ early) (rest : Works timing step Answers c₁ c₂ late) :
    Works timing step Answers c c₂ (early ++ late) where
  run := first.run.append rest.run
  only := first.only.append rest.only
  still := by rw [ticks_append, first.still, rest.still, List.append_nil]
  now := rest.now.trans first.now
  overdue := fun h late => first.overdue h (rest.overdue h late)

/-- The time is the sum of the frames. -/
theorem run_now {c' : Clocked S H T} {trace : List (Step (Clocked S H T) (Beat E T) (Option (Step S E O)))}
    (run : Run (timing.clock step) c trace c') : c'.now = c.now + (ticks trace).sum := by
  refine run.growing (motive := fun trace s => s.now = c.now + (ticks trace).sum) (by simp [ticks]) ?_
  intro trace u _ taken before
  rw [ticks_append, List.sum_append, ← add_assoc, ← before]
  rcases clock_cases taken with ⟨elapsed, beat, _, _, after, _⟩ | ⟨t, _, beat, _, _, _, _, now, _⟩
  · rw [after]
    simp [ticks, beat]
  · rw [now]
    simp [ticks, beat]

variable [IsStrictOrderedRing T]

theorem not_overdue_after (now : T) {delay : T} (due : Option T) :
    ∀ d ∈ (Setting.after delay).apply now due, now ≤ d := by
  intro d pending
  rw [Setting.apply] at pending
  split at pending
  · next positive =>
    obtain rfl := Option.some.inj pending
    exact le_add_of_nonneg_right positive.le
  · cases pending

/-- No step makes a callback overdue. -/
theorem Lawful.overdue_of_step (lawful : timing.Lawful step Inv) {t : Step S E O} (inv : Inv t.before)
    (offered : step t.before t.event = some (t.after, t.output)) {h : H} {now : T} {due : Option T}
    (late : ∃ d ∈ (timing.sets t h).apply now due, d < now) : ∃ d ∈ due, d < now := by
  obtain ⟨d, pending, behind⟩ := late
  cases setting : timing.sets t h with
  | kept =>
      rw [setting] at pending
      exact ⟨d, pending, behind⟩
  | cleared =>
      rw [setting] at pending
      cases pending
  | after delay =>
      rw [setting] at pending
      exact absurd behind (not_lt_of_ge (not_overdue_after now due d pending))
  | again period =>
      rw [setting] at pending
      obtain ⟨first, known, rfl⟩ := Option.map_eq_some_iff.mp pending
      have forth := lawful.forth t offered inv h period setting
      exact ⟨first, known, lt_of_le_of_lt (le_add_of_nonneg_right forth) behind⟩

/-- An overdue callback runs: after it the handle is in time, or one period less behind. -/
theorem Runs.once (lawful : timing.Lawful step Inv) (runs : timing.Runs step Answers Inv period) (inv : Inv c.state)
    (agrees : timing.Agrees c) {h : H} {d : T} (pending : c.due h = some d) (behind : d < c.now) :
    ∃ c' trace, Works timing step Answers c c' trace ∧ Inv c'.state ∧ timing.Agrees c' ∧
      (¬ Overdue c' h ∨ 0 < period c.state h ∧ period c'.state h = period c.state h ∧
        c'.due h = some (d + period c.state h)) := by
  have armed : timing.pending c.state h = true := by
    rw [← agrees h, pending]
    rfl
  obtain ⟨event, next, output, expires, answered, offered, effect⟩ := runs.offered c.state h inv armed
  let t : Step S E O := ⟨c.state, event, output, next⟩
  let c' : Clocked S H T := ⟨next, c.now, fun h => (timing.sets t h).apply c.now (c.due h)⟩
  have taken : timing.clock step c (.act event) = some (c', some t) := by
    have able : ∀ h ∈ timing.expires event, ∃ d ∈ c.due h, d ≤ c.now := by
      intro h' named
      obtain rfl := Option.some.inj (expires.symm.trans named)
      exact ⟨d, pending, behind.le⟩
    simp only [clock, if_pos able, offered, Option.map_some]
    rfl
  have kept := lawful.step_agrees (t := ⟨c, .act event, some t, c'⟩) taken ⟨inv, agrees⟩
  refine ⟨c', [⟨c, .act event, some t, c'⟩], ⟨.single taken, ?_, rfl, rfl, ?_⟩, kept.1, kept.2, ?_⟩
  · intro u member event' named
    obtain rfl := List.mem_singleton.mp member
    cases named
    exact ⟨by rw [expires]; rfl, answered⟩
  · intro h' late
    exact lawful.overdue_of_step (t := t) inv offered late
  · rcases effect with cleared | ⟨delay, set⟩ | ⟨positive, again, left⟩
    · refine .inl ?_
      rintro ⟨d', known, _⟩
      rw [show c'.due h = (timing.sets t h).apply c.now (c.due h) from rfl, cleared] at known
      cases known
    · refine .inl ?_
      rintro ⟨d', known, early⟩
      rw [show c'.due h = (timing.sets t h).apply c.now (c.due h) from rfl, set] at known
      exact absurd early (not_lt_of_ge (not_overdue_after c.now (c.due h) d' known))
    · refine .inr ⟨positive, left, ?_⟩
      rw [show c'.due h = (timing.sets t h).apply c.now (c.due h) from rfl, again, pending]
      rfl

/-- So many runs are enough for a looping callback to catch up. -/
theorem Runs.catchUp (lawful : timing.Lawful step Inv) (runs : timing.Runs step Answers Inv period) {h : H} (n : Nat)
    (inv : Inv c.state) (agrees : timing.Agrees c) (enough : ∀ d ∈ c.due h, c.now ≤ d + n • period c.state h) :
    ∃ c' trace, Works timing step Answers c c' trace ∧ Inv c'.state ∧ timing.Agrees c' ∧ ¬ Overdue c' h := by
  induction n generalizing c with
  | zero =>
      refine ⟨c, [], .refl c, inv, agrees, ?_⟩
      rintro ⟨d, pending, behind⟩
      have bound := enough d pending
      rw [zero_nsmul, add_zero] at bound
      exact absurd behind (not_lt_of_ge bound)
  | succ n ih =>
      by_cases late : Overdue c h
      · obtain ⟨d, pending, behind⟩ := late
        obtain ⟨c₁, first, works, inv₁, agrees₁, settled | ⟨_, same, due⟩⟩ := runs.once lawful inv agrees pending behind
        · exact ⟨c₁, first, works, inv₁, agrees₁, settled⟩
        · have fewer : ∀ d₁ ∈ c₁.due h, c₁.now ≤ d₁ + n • period c₁.state h := by
            intro d₁ pending₁
            obtain rfl := Option.some.inj (due.symm.trans pending₁)
            have bound := enough d pending
            rw [works.now, same, add_assoc, ← succ_nsmul']
            exact bound
          obtain ⟨c₂, rest, more, inv₂, agrees₂, settled⟩ := ih inv₁ agrees₁ fewer
          exact ⟨c₂, first ++ rest, works.trans more, inv₂, agrees₂, settled⟩
      · exact ⟨c, [], .refl c, inv, agrees, late⟩

variable [Archimedean T]

/-- One handle at a time. -/
theorem Runs.settle (lawful : timing.Lawful step Inv) (runs : timing.Runs step Answers Inv period) (inv : Inv c.state)
    (agrees : timing.Agrees c) (h : H) :
    ∃ c' trace, Works timing step Answers c c' trace ∧ Inv c'.state ∧ timing.Agrees c' ∧ ¬ Overdue c' h := by
  by_cases late : Overdue c h
  · obtain ⟨d, pending, behind⟩ := late
    obtain ⟨c₁, first, works, inv₁, agrees₁, settled | ⟨positive, _⟩⟩ := runs.once lawful inv agrees pending behind
    · exact ⟨c₁, first, works, inv₁, agrees₁, settled⟩
    · obtain ⟨n, enough⟩ := Archimedean.arch (c.now - d) positive
      apply runs.catchUp lawful n inv agrees
      intro d' known
      obtain rfl := Option.some.inj (pending.symm.trans known)
      exact sub_le_iff_le_add'.mp enough
  · exact ⟨c, [], .refl c, inv, agrees, late⟩

theorem Runs.workOff (lawful : timing.Lawful step Inv) (runs : timing.Runs step Answers Inv period) (handles : List H)
    (inv : Inv c.state) (agrees : timing.Agrees c) (all : ∀ h, Overdue c h → h ∈ handles) :
    ∃ c' trace, Works timing step Answers c c' trace ∧ Inv c'.state ∧ timing.Agrees c' ∧ ∀ h, ¬ Overdue c' h := by
  induction handles generalizing c with
  | nil =>
      refine ⟨c, [], .refl c, inv, agrees, ?_⟩
      intro h late
      cases all h late
  | cons h handles ih =>
      obtain ⟨c₁, first, works, inv₁, agrees₁, settled⟩ := runs.settle lawful inv agrees h
      have others : ∀ h', Overdue c₁ h' → h' ∈ handles := by
        intro h' late
        rcases List.mem_cons.mp (all h' (works.overdue h' late)) with rfl | member
        · exact absurd late settled
        · exact member
      obtain ⟨c₂, rest, more, inv₂, agrees₂, done⟩ := ih inv₁ agrees₁ others
      exact ⟨c₂, first ++ rest, works.trans more, inv₂, agrees₂, done⟩

/-- Whatever the frames are to be, the system can be played on through all of them,
with nothing but its callbacks in between. -/
theorem Runs.playOn (lawful : timing.Lawful step Inv) (runs : timing.Runs step Answers Inv period) (inv : Inv c.state)
    (agrees : timing.Agrees c) {frames : List T} (forward : ∀ elapsed ∈ frames, 0 ≤ elapsed) :
    ∃ c' trace, Run (timing.clock step) c trace c' ∧ timing.CallbacksOnly Answers trace ∧ ticks trace = frames ∧
      Inv c'.state ∧ timing.Agrees c' := by
  induction frames generalizing c with
  | nil => exact ⟨c, [], .nil c, by simp [CallbacksOnly], rfl, inv, agrees⟩
  | cons elapsed frames ih =>
      have listed : ∀ h, Overdue c h → h ∈ timing.handles c.state := by
        rintro h ⟨d, pending, _⟩
        apply lawful.listed
        rw [← agrees h, pending]
        rfl
      obtain ⟨c₁, first, works, inv₁, agrees₁, done⟩ := runs.workOff lawful _ inv agrees listed
      let c₂ : Clocked S H T := { c₁ with now := c₁.now + elapsed }
      have quiet : 0 ≤ elapsed ∧ ∀ h ∈ timing.handles c₁.state, ∀ d ∈ c₁.due h, c₁.now ≤ d := by
        refine ⟨forward elapsed List.mem_cons_self, ?_⟩
        intro h _ d pending
        exact le_of_not_gt fun behind => done h ⟨d, pending, behind⟩
      have taken : timing.clock step c₁ (.tick elapsed) = some (c₂, none) := if_pos quiet
      obtain ⟨c₃, rest, run, only, ticked, inv₃, agrees₃⟩ :=
        @ih c₂ inv₁ agrees₁ fun later member => forward later (List.mem_cons_of_mem _ member)
      refine ⟨c₃, first ++ ⟨c₁, .tick elapsed, none, c₂⟩ :: rest, works.run.append (.cons taken run), ?_, ?_, inv₃,
        agrees₃⟩
      · apply works.only.append
        intro u member event named
        rcases List.mem_cons.mp member with rfl | member
        · cases named
        · exact only u member event named
      · rw [ticks_append, works.still, List.nil_append, ticks, List.filterMap_cons, ← ticks, ticked]

end Timing

end Foundation
