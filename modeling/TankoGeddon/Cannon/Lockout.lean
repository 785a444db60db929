import TankoGeddon.Cannon.ReloadGate

/-! Both triggers on one cannon: when a cleared flag comes back.

The triggers keep a flag each but share one `ReloadTimer`, so the reload of the
press that comes second replaces the reload of the first, and two of the branches
of `AlternateFire` clear the flag of the main trigger. A run stays free of
lock-outs exactly when no press crosses the other trigger in one of these ways.
-/

set_option autoImplicit false

namespace TankoGeddon.Cannon

open Foundation (Timer Run Step perform perform_run)

variable {c c' : Cannon} {event : Event} {outcome : Outcome}

/-- A cleared flag has a pending timer that sets it again. -/
def Recovers (c : Cannon) : Prop :=
  (c.bMainCanFire = false → c.reloadTimer = some .main ∨ c.burstFireTimer.isSome = true) ∧
  (c.bAlternateCanFire = false → c.reloadTimer = some .alternate ∨ c.burstFireTimer.isSome = true)

instance (c : Cannon) : Decidable c.Recovers :=
  inferInstanceAs (Decidable ((_ → _) ∧ (_ → _)))

/-- The press takes a single shot and leaves a flag down that its reload, now the
only one pending, does not raise. -/
def Crosses (c : Cannon) (event : Event) : Prop :=
  c.cannonType ≠ .fireMultiProjectile ∧ c.HasAmmo ∧
  match event with
  | .fire => c.bMainCanFire = true ∧ c.bAlternateCanFire = false
  | .alternateFire =>
      c.bAlternateCanFire = true ∧ (c.cannonType = .fireProjectile → c.bMainCanFire = false)
  | _ => False

instance (c : Cannon) (event : Event) : Decidable (c.Crosses event) :=
  match event with
  | .fire => inferInstanceAs (Decidable (_ ∧ _ ∧ _ ∧ _))
  | .alternateFire => inferInstanceAs (Decidable (_ ∧ _ ∧ _ ∧ (_ → _)))
  | .reloadTimer | .burstFireTimer | .increaseAmmoValue _ => .isFalse fun crosses => crosses.2.2

/-- A flag is down only while the reload that raises it is the one pending. -/
structure Timed (c : Cannon) : Prop where
  main : c.bMainCanFire = false → c.reloadTimer = some .main
  alternate : c.bAlternateCanFire = false → c.reloadTimer = some .alternate

theorem Timed.recovers (timed : c.Timed) : c.Recovers :=
  ⟨fun down => .inl (timed.main down), fun down => .inl (timed.alternate down)⟩

theorem OpenMulti.timed (opened : c.OpenMulti) (multi : c.cannonType = .fireMultiProjectile) :
    c.Timed :=
  ⟨by simp [(opened multi).1], by simp [(opened multi).2]⟩

-- The other flag cannot be down as well: its own reload would have to be pending too.
theorem Timed.reloadBy (timed : c.Timed) (which : Reload) (pending : c.reloadTimer = some which) :
    (c.reloadBy which).Timed := by
  cases which with
  | main =>
      have up : c.bAlternateCanFire = true := by
        by_contra down
        have other := timed.alternate (by simpa using down)
        rw [pending] at other
        cases other
      exact ⟨by simp [Cannon.reloadBy, mainReload], by simp [Cannon.reloadBy, mainReload, up]⟩
  | alternate =>
      have up : c.bMainCanFire = true := by
        by_contra down
        have other := timed.main (by simpa using down)
        rw [pending] at other
        cases other
      exact ⟨by simp [Cannon.reloadBy, alternateReload, up], by simp [Cannon.reloadBy, alternateReload]⟩

theorem shot_timed {which : Reload} (single : c.cannonType ≠ .fireMultiProjectile)
    (ready : c.gate which = true) (ammo : c.HasAmmo) (positive : 0 < c.reloadTime)
    (straight : ¬ c.Crosses (press which)) : ((c.pay.closeGate which).armReload which).Timed := by
  cases which with
  | main =>
      have up : c.bAlternateCanFire = true := by
        by_contra down
        exact straight ⟨single, ammo, ready, by simpa using down⟩
      exact ⟨by simp [armReload, closeGate, pay, Timer.set_pos positive],
        by simp [armReload, closeGate, pay, up]⟩
  | alternate =>
      have own : c.cannonType = .fireProjectile ∧ c.bMainCanFire = true := by
        by_contra other
        refine straight ⟨single, ammo, ready, fun kind => ?_⟩
        by_contra up
        exact other ⟨kind, by simpa using up⟩
      exact ⟨by simp [armReload, closeGate, pay, own],
        by simp [armReload, closeGate, pay, own, Timer.set_pos positive]⟩

/-- What a cannon keeps as long as no press has crossed. -/
structure Uncrossed (c : Cannon) : Prop where
  only : c.BurstOnlyMulti
  opened : c.OpenMulti
  timed : c.Timed
  positive : 0 < c.reloadTime

theorem BegunPlay.uncrossed (begun : c.BegunPlay) (positive : 0 < c.reloadTime) : c.Uncrossed where
  only := begun.burstOnlyMulti
  opened := begun.openMulti
  timed := ⟨by simp [begun.main], by simp [begun.alternate]⟩
  positive := positive

theorem Transition.uncrossed (move : Transition c event c' outcome) (uncrossed : c.Uncrossed)
    (straight : ¬ c.Crosses event) : c'.Uncrossed where
  only := move.burstOnlyMulti uncrossed.only
  opened := move.openMulti uncrossed.opened
  positive := by rw [congrArg CannonClass.reloadTime move.config]; exact uncrossed.positive
  timed := by
    by_cases multi : c.cannonType = .fireMultiProjectile
    · refine (move.openMulti uncrossed.opened).timed ?_
      rw [congrArg CannonClass.cannonType move.config]
      exact multi
    cases move with
    | refused | resupply => exact ⟨uncrossed.timed.main, uncrossed.timed.alternate⟩
    | shot which _ single ready ammo => exact shot_timed single ready ammo uncrossed.positive straight
    | pressShot _ burst | pressDone _ burst => exact absurd burst multi
    | timerShot pending | timerDone pending =>
        exact absurd (uncrossed.only.multi_of_pending pending) multi
    | reload which pending => exact uncrossed.timed.reloadBy which pending

/-- A crossing press locks a trigger out at once. -/
theorem Transition.locked_of_crosses (move : Transition c event c' outcome) (only : c.BurstOnlyMulti)
    (positive : 0 < c.reloadTime) (crosses : c.Crosses event) : ¬ c'.Recovers := by
  obtain ⟨single, ammo, how⟩ := crosses
  have idle := (only single).2
  cases move with
  | refused which shut =>
      rcases shut with closed | empty
      · cases which <;> simp_all [press, gate]
      · exact absurd ammo empty
  | pressShot _ multi | pressDone _ multi => exact absurd multi single
  | timerShot | timerDone | reload | resupply => exact how.elim
  | shot which =>
      cases which with
      | main =>
          intro recovers
          have back := recovers.2 (by simp [armReload, closeGate, pay, how.2])
          simp [armReload, closeGate, pay, Timer.set_pos positive, idle] at back
      | alternate =>
          intro recovers
          -- Either way the main flag is down and only `AlternateReload` is pending.
          have back := recovers.1 (by
            simp only [closeGate]
            split
            next kind => exact how.2 kind
            next => rfl)
          simp only [closeGate] at back
          split at back <;> simp [armReload, pay, Timer.set_pos positive, idle] at back

/-- A run is free of lock-outs exactly when none of its presses crosses the other
trigger. -/
theorem recovers_iff {start final : Cannon} {trace : List (Step Cannon Event Outcome)}
    (begun : start.BegunPlay) (reload : 0 < start.reloadTime) (run : Run step start trace final) :
    (∀ t ∈ trace, t.after.Recovers) ↔ ∀ t ∈ trace, ¬ t.before.Crosses t.event := by
  refine run.forall_iff Uncrossed _ _ (begun.uncrossed reload) ?_ ?_
  · intro t taken before straight
    exact (step_transition taken).uncrossed before straight
  · intro t taken before
    have move := step_transition taken
    constructor
    · intro recovers crosses
      exact move.locked_of_crosses before.only before.positive crosses recovers
    · intro straight
      exact (move.uncrossed before straight).timed.recovers

-- The triggers taken in turn, each after the reload of the other.
theorem recovers_iff_in_turn :
    (ready .fireProjectile 10 3).BegunPlay ∧
    ∀ t ∈ (perform step (ready .fireProjectile 10 3)
      [.fire, .reloadTimer, .alternateFire, .reloadTimer, .fire]).1, t.after.Recovers :=
  ⟨ready_begun _ _ _,
    (recovers_iff (ready_begun _ _ _) (by decide +kernel) (perform_run _ _ _)).mpr (by decide +kernel)⟩

-- The alternate trigger inside the reload window of the main one.
theorem alternateFire_locks_main :
    ¬ ∀ (start final : Cannon) (trace : List (Step Cannon Event Outcome)), start.BegunPlay →
      0 < start.reloadTime → 0 < start.burstFireInterval → Run step start trace final →
      ∀ t ∈ trace, t.after.Recovers := by
  intro claim
  have recovers := claim (ready .fireProjectile 120 3) _ _ (ready_begun _ _ _) (by decide +kernel)
    (by decide +kernel) (perform_run step _ [.fire, .alternateFire])
  exact absurd recovers (by decide +kernel)

end TankoGeddon.Cannon
