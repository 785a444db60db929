import TankoGeddon.Cannon.Ammo
import TankoGeddon.Cannon.ReloadGate

/-! What keeps a cannon from getting stuck, over all its editable values.

A burst ends on an equality test and continues through a timer, a closed gate opens
through a timer, and a timer set at rate zero never runs. `BurstFireRate` may also be
written while a burst is under way.
-/

set_option autoImplicit false

namespace TankoGeddon.Cannon

open Foundation (Timer Run Step perform perform_run)

variable {c c' : Cannon}

/-- The calls of a cannon, and a write to its rate. -/
inductive Operation where
  | call (event : Event)
  | setBurstFireRate (burstFireRate : Int)
  deriving DecidableEq

def operate (c : Cannon) : Operation → Option (Cannon × Option Outcome)
  | .call event => (c.step event).map fun next => (next.1, some next.2)
  | .setBurstFireRate burstFireRate =>
      if InInt32 burstFireRate then some ({ c with burstFireRate }, none) else none

/-- The callbacks of `BurstFireTimer` alone, at most `bound` of them, up to the one
that takes the completion branch. -/
def burstChain : Nat → Cannon → Option Cannon
  | 0, _ => none
  | bound + 1, c =>
      match c.step .burstFireTimer with
      | some (next, .burstCompleted) => some next
      | some (next, _) => burstChain bound next
      | none => none

/-- The burst under way comes to its end in the callbacks it has left. -/
def Completes (c : Cannon) : Prop :=
  ∃ final, burstChain ((max 0 (c.burstFireRate - c.currentShot)).toNat + 1) c = some final ∧
    final.currentShot = 0 ∧ final.burstFireTimer = none

structure Unstuck (c : Cannon) : Prop where
  burst : 0 < c.currentShot → c.Completes
  reload : c.bMainCanFire = false → c.reloadTimer = some .main

/-- The operations after which something waits for a callback that never comes: a
single shot without a reload time, a burst begun without an interval or with a
negative rate, a rate written below the shots already fired. -/
def Sticks (c : Cannon) : Operation → Prop
  | .call .fire => c.bMainCanFire = true ∧ c.HasAmmo ∧
      if c.cannonType = .fireMultiProjectile then
        c.currentShot = 0 ∧ (c.burstFireRate < 0 ∨ 0 < c.burstFireRate ∧ c.burstFireInterval ≤ 0)
      else c.reloadTime ≤ 0
  | .setBurstFireRate burstFireRate => 0 < c.currentShot ∧ burstFireRate < c.currentShot
  | _ => False

instance (c : Cannon) : (operation : Operation) → Decidable (c.Sticks operation)
  | .call .fire => inferInstanceAs (Decidable (c.bMainCanFire = true ∧ c.HasAmmo ∧
      if c.cannonType = .fireMultiProjectile then
        c.currentShot = 0 ∧ (c.burstFireRate < 0 ∨ 0 < c.burstFireRate ∧ c.burstFireInterval ≤ 0)
      else c.reloadTime ≤ 0))
  | .setBurstFireRate burstFireRate =>
      inferInstanceAs (Decidable (0 < c.currentShot ∧ burstFireRate < c.currentShot))
  | .call .alternateFire | .call .reloadTimer | .call .burstFireTimer | .call (.increaseAmmoValue _) =>
      inferInstanceAs (Decidable False)

/-! The chain of callbacks. -/

theorem burstChain_final {bound : Nat} {final : Cannon} (ends : burstChain bound c = some final) :
    final.currentShot = 0 ∧ final.burstFireTimer = none := by
  induction bound generalizing c with
  | zero => cases ends
  | succ bound ih =>
      unfold burstChain at ends
      split at ends
      · next next taken =>
        obtain rfl := Option.some.inj ends
        generalize shown : Outcome.burstCompleted = outcome at taken
        generalize expired : Event.burstFireTimer = event at taken
        cases step_transition taken with
        | timerDone => exact ⟨rfl, rfl⟩
        | pressDone which => cases which <;> cases expired
        | shot _ _ _ _ _ how => subst shown; simp at how
        | _ => cases shown
      · exact ih ends
      · cases ends

theorem burstChain_done (pending : c.burstFireTimer = some ()) (last : c.currentShot = c.burstFireRate)
    (bound : Nat) : (burstChain (bound + 1) c).isSome = true := by
  have taken : c.step .burstFireTimer = some ({ c with burstFireTimer := none }.endBurst, .burstCompleted) := by
    simp [step, pending, burstFire, last]
  simp [burstChain, taken]

theorem burstChain_more (pending : c.burstFireTimer = some ()) (more : c.currentShot ≠ c.burstFireRate)
    (bound : Nat) : burstChain (bound + 1) c = burstChain bound c.nextShot := by
  have taken : c.step .burstFireTimer = some (c.nextShot, .burstShot) := by
    simp [step, pending, burstFire, more, nextShot]
  simp [burstChain, taken]

theorem burstChain_idle (idle : c.burstFireTimer = none) (bound : Nat) : burstChain bound c = none := by
  cases bound with
  | zero => rfl
  | succ bound =>
      have refused : c.step .burstFireTimer = none := by simp [step, idle]
      simp [burstChain, refused]

/-- The chain counts the shots that are left. -/
theorem burstChain_iff (bound : Nat) :
    (burstChain bound c).isSome = true ↔ c.burstFireTimer = some () ∧ c.currentShot ≤ c.burstFireRate ∧
      c.burstFireRate < c.currentShot + bound ∧
      (c.currentShot = c.burstFireRate ∨ 0 < c.burstFireInterval) := by
  induction bound generalizing c with
  | zero =>
      simp only [burstChain, Option.isSome_none, Bool.false_eq_true, false_iff]
      omega
  | succ bound ih =>
      cases pending : c.burstFireTimer with
      | none => simp [burstChain_idle pending]
      | some _ =>
          have armed : c.burstFireTimer = some () := pending
          by_cases last : c.currentShot = c.burstFireRate
          · have ends := burstChain_done armed last bound
            simp only [ends, last, true_iff, true_and, true_or, and_true, Int.le_refl]
            omega
          · rw [burstChain_more armed last, ih]
            by_cases interval : 0 < c.burstFireInterval
            · simp only [nextShot, Timer.set_pos interval, interval, or_true, and_true, true_and]
              omega
            · simp [nextShot, Timer.set, last, interval]

theorem completes_iff : c.Completes ↔ c.burstFireTimer = some () ∧
    c.currentShot ≤ c.burstFireRate ∧ (c.currentShot = c.burstFireRate ∨ 0 < c.burstFireInterval) := by
  have chain := burstChain_iff (c := c) ((max 0 (c.burstFireRate - c.currentShot)).toNat + 1)
  have reads : c.Completes ↔
      (burstChain ((max 0 (c.burstFireRate - c.currentShot)).toNat + 1) c).isSome = true := by
    rw [Option.isSome_iff_exists]
    constructor
    · rintro ⟨final, ends, _⟩
      exact ⟨final, ends⟩
    · rintro ⟨final, ends⟩
      exact ⟨final, ends, burstChain_final ends⟩
  rw [reads, chain]
  constructor
  · rintro ⟨pending, within, _, how⟩
    exact ⟨pending, within, how⟩
  · rintro ⟨pending, within, how⟩
    exact ⟨pending, within, by omega, how⟩

/-! What a run keeps as long as no operation sticks. -/

structure Moving (c : Cannon) : Prop where
  only : c.BurstOnlyMulti
  opened : c.OpenMulti
  nonneg : 0 ≤ c.currentShot
  during : 0 < c.currentShot → c.burstFireTimer = some () ∧ c.currentShot ≤ c.burstFireRate
  pending : c.burstFireTimer = some () → 0 < c.currentShot ∧ 0 < c.burstFireInterval
  reload : c.bMainCanFire = false → c.reloadTimer = some .main

theorem BegunPlay.moving (begun : c.BegunPlay) : c.Moving where
  only := begun.burstOnlyMulti
  opened := begun.openMulti
  nonneg := by simp [begun.shot]
  during := by simp [begun.shot]
  pending := by simp [begun.burst]
  reload := by simp [begun.main]

theorem Moving.unstuck (moving : c.Moving) : c.Unstuck where
  burst := by
    intro under
    obtain ⟨pending, within⟩ := moving.during under
    exact completes_iff.mpr ⟨pending, within, .inr (moving.pending pending).2⟩
  reload := moving.reload

/-- One more shot of a burst that has some left. -/
theorem Moving.nextShot (moving : c.Moving) (interval : 0 < c.burstFireInterval)
    (left : c.currentShot < c.burstFireRate) :
    c.nextShot.currentShot ≤ c.nextShot.burstFireRate ∧ 0 < c.nextShot.currentShot ∧
      c.nextShot.burstFireTimer = some () := by
  have nonneg := moving.nonneg
  refine ⟨?_, ?_, ?_⟩
  · simp only [Cannon.nextShot]
    omega
  · simp only [Cannon.nextShot]
    omega
  · simp [Cannon.nextShot, Timer.set_pos interval]

/-- A press that does not stick finds the burst with an interval and a shot left. -/
theorem Moving.left_of_press (moving : c.Moving) (multi : c.cannonType = .fireMultiProjectile)
    (ready : c.bMainCanFire = true) (ammo : c.HasAmmo) (more : c.currentShot ≠ c.burstFireRate)
    (free : ¬ c.Sticks (.call .fire)) : 0 < c.burstFireInterval ∧ c.currentShot < c.burstFireRate := by
  have nonneg := moving.nonneg
  by_cases under : 0 < c.currentShot
  · obtain ⟨pending, within⟩ := moving.during under
    exact ⟨(moving.pending pending).2, by omega⟩
  · have idle : c.currentShot = 0 := by omega
    have configured : ¬ (c.burstFireRate < 0 ∨ 0 < c.burstFireRate ∧ c.burstFireInterval ≤ 0) := by
      intro bad
      exact free ⟨ready, ammo, by simp [multi, idle, bad]⟩
    have positive : 0 < c.burstFireRate := by omega
    refine ⟨?_, by omega⟩
    by_contra dropped
    exact configured (.inr ⟨positive, not_lt.mp dropped⟩)

theorem Transition.moving {event : Event} {outcome : Outcome} (move : Transition c event c' outcome)
    (main : event ≠ .alternateFire) (moving : c.Moving) (free : ¬ c.Sticks (.call event)) : c'.Moving := by
  have only := move.burstOnlyMulti moving.only
  have opened := move.openMulti moving.opened
  cases move with
  | refused => exact moving
  | resupply => exact ⟨only, opened, moving.nonneg, moving.during, moving.pending, moving.reload⟩
  | shot which _ single ready ammo =>
      cases which with
      | alternate => exact absurd rfl main
      | main =>
          refine ⟨only, opened, moving.nonneg, moving.during, moving.pending, fun _ => ?_⟩
          have positive : 0 < c.reloadTime := by
            by_contra never
            exact free ⟨ready, ammo, by simpa [single] using never⟩
          exact Timer.set_pos positive _
  | pressShot which multi ready ammo more =>
      cases which with
      | alternate => exact absurd rfl main
      | main =>
          obtain ⟨interval, left⟩ := moving.left_of_press multi ready ammo more free
          obtain ⟨within, under, pending⟩ := moving.nextShot interval left
          refine ⟨only, opened, le_of_lt under, fun _ => ⟨pending, within⟩, fun _ => ⟨under, interval⟩, ?_⟩
          intro closed
          cases ready.symm.trans closed
  | timerShot pending more =>
      obtain ⟨under, interval⟩ := moving.pending pending
      have within := (moving.during under).2
      obtain ⟨within', under', pending'⟩ := moving.nextShot interval (by omega)
      exact ⟨only, opened, le_of_lt under', fun _ => ⟨pending', within'⟩, fun _ => ⟨under', interval⟩,
        moving.reload⟩
  | pressDone | timerDone =>
      refine ⟨only, opened, le_refl 0, ?_, ?_, ?_⟩
      · intro under
        exact absurd under (lt_irrefl 0)
      · intro pending
        cases pending
      · intro closed
        cases closed
  | reload which pending =>
      cases which with
      | main => exact ⟨only, opened, moving.nonneg, moving.during, moving.pending, fun closed => by cases closed⟩
      | alternate =>
          refine ⟨only, opened, moving.nonneg, moving.during, moving.pending, ?_⟩
          intro closed
          cases pending.symm.trans (moving.reload closed)

theorem Moving.operate {operation : Operation} {shown : Option Outcome} (moving : c.Moving)
    (taken : c.operate operation = some (c', shown)) (main : operation ≠ .call .alternateFire)
    (free : ¬ c.Sticks operation) : c'.Moving := by
  cases operation with
  | call event =>
      obtain ⟨next, acted, same⟩ := Option.map_eq_some_iff.mp taken
      cases same
      exact (step_transition acted).moving (fun pressed => main (congrArg Operation.call pressed)) moving free
  | setBurstFireRate burstFireRate =>
      simp only [Cannon.operate] at taken
      split at taken <;> cases taken
      have kept : 0 < c.currentShot → c.currentShot ≤ burstFireRate := fun under =>
        not_lt.mp fun below => free ⟨under, below⟩
      exact ⟨moving.only, moving.opened, moving.nonneg, fun under => ⟨(moving.during under).1, kept under⟩,
        moving.pending, moving.reload⟩

/-- A press that sticks: no reload for the flag it cleared, or a burst that cannot end. -/
theorem Transition.stuck {event : Event} {outcome : Outcome} (move : Transition c event c' outcome)
    (fires : event = .fire) (sticks : c.Sticks (.call .fire)) : ¬ c'.Unstuck := by
  obtain ⟨ready, ammo, how⟩ := sticks
  intro unstuck
  cases move with
  | refused which shut =>
      cases which with
      | alternate => cases fires
      | main =>
          rcases shut with closed | empty
          · cases ready.symm.trans closed
          · exact absurd ammo empty
  | shot which _ single =>
      cases which with
      | alternate => cases fires
      | main =>
          rw [if_neg single] at how
          have back := unstuck.reload rfl
          simp [armReload, closeGate, pay, Timer.set, not_lt.mpr how] at back
  | pressShot which multi _ _ more =>
      rw [if_pos multi] at how
      obtain ⟨idle, how⟩ := how
      have under : 0 < (c.nextShot.armReload which).currentShot := by
        simp [armReload, Cannon.nextShot, idle]
      obtain ⟨pending, within, _⟩ := completes_iff.mp (unstuck.burst under)
      rcases how with negative | ⟨_, dropped⟩
      · simp only [armReload, Cannon.nextShot, idle] at within
        omega
      · simp [armReload, Cannon.nextShot, Timer.set, not_lt.mpr dropped] at pending
  | pressDone which multi _ _ last =>
      rw [if_pos multi] at how
      obtain ⟨idle, how⟩ := how
      omega
  | timerShot | timerDone | reload | resupply => cases fires

/-- An operation that sticks does so at once. -/
theorem stuck_of_sticks {operation : Operation} {shown : Option Outcome}
    (taken : c.operate operation = some (c', shown)) (sticks : c.Sticks operation) : ¬ c'.Unstuck := by
  cases operation with
  | setBurstFireRate burstFireRate =>
      obtain ⟨under, below⟩ := sticks
      simp only [Cannon.operate] at taken
      split at taken <;> cases taken
      intro unstuck
      have within := (completes_iff.mp (unstuck.burst under)).2.1
      exact absurd within (not_le.mpr below)
  | call event =>
      obtain ⟨next, acted, same⟩ := Option.map_eq_some_iff.mp taken
      cases same
      cases event with
      | alternateFire | reloadTimer | burstFireTimer | increaseAmmoValue => exact sticks.elim
      | fire => exact (step_transition acted).stuck rfl sticks

/-- A cannon that only sees `Fire` never gets stuck, whatever its fields, exactly when
none of its operations sticks. -/
theorem unstuck_iff {start final : Cannon} {trace : List (Step Cannon Operation (Option Outcome))}
    (begun : start.BegunPlay) (run : Run operate start trace final)
    (main : ∀ t ∈ trace, t.event ≠ .call .alternateFire) :
    (start.Unstuck ∧ ∀ t ∈ trace, t.after.Unstuck) ↔ ∀ t ∈ trace, ¬ t.before.Sticks t.event := by
  -- The restriction to `Fire` goes with the steps, on both sides.
  have exactly : (∀ t ∈ trace, t.event ≠ .call .alternateFire ∧ t.after.Unstuck) ↔
      ∀ t ∈ trace, t.event ≠ .call .alternateFire ∧ ¬ t.before.Sticks t.event := by
    refine run.forall_iff Moving _ _ begun.moving ?_ ?_
    · rintro t taken before ⟨main, free⟩
      exact before.operate taken main free
    · intro t taken before
      constructor
      · rintro ⟨main, unstuck⟩
        exact ⟨main, fun sticks => stuck_of_sticks taken sticks unstuck⟩
      · rintro ⟨main, free⟩
        exact ⟨main, (before.operate taken main free).unstuck⟩
  constructor
  · rintro ⟨_, unstuck⟩ t member
    exact (exactly.mp (fun t member => ⟨main t member, unstuck t member⟩) t member).2
  · intro free
    exact ⟨begun.moving.unstuck, fun t member =>
      (exactly.mpr (fun t member => ⟨main t member, free t member⟩) t member).2⟩

-- The defaults: a burst of three, its rate raised after the first shot.
theorem unstuck_iff_burst :
    (ready .fireMultiProjectile 10 3).BegunPlay ∧
    ∀ t ∈ (perform operate (ready .fireMultiProjectile 10 3)
      [.call .fire, .setBurstFireRate 4, .call .burstFireTimer, .call .fire, .call .burstFireTimer,
        .call .burstFireTimer]).1, t.after.Unstuck :=
  ⟨ready_begun _ _ _,
    ((unstuck_iff (ready_begun _ _ _) (perform_run _ _ _) (by decide +kernel)).mpr (by decide +kernel)).2⟩

-- Two shots fired, then the rate is written to one: the counter has passed it.
theorem lowered_rate_sticks :
    ¬ ∀ (start final : Cannon) (trace : List (Step Cannon Operation (Option Outcome))), start.BegunPlay →
      0 ≤ start.burstFireInterval → 0 ≤ start.reloadTime → Run operate start trace final →
      (∀ t ∈ trace, t.event ≠ .call .alternateFire) → start.Unstuck ∧ ∀ t ∈ trace, t.after.Unstuck := by
  intro claim
  have unstuck := claim (ready .fireMultiProjectile 10 3) _ _ (ready_begun _ _ _) (by decide +kernel)
    (by decide +kernel) (perform_run operate _ [.call .fire, .call .burstFireTimer, .setBurstFireRate 1])
    (by decide +kernel)
  have within := (completes_iff.mp
    ((unstuck.2 _ (List.getLast_mem (by decide +kernel))).burst (by decide +kernel))).2.1
  exact absurd within (by decide +kernel)

end TankoGeddon.Cannon
