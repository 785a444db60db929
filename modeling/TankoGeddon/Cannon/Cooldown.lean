import TankoGeddon.Cannon.Ammo
import TankoGeddon.World.Clock

/-! The cooldown of a single-shot weapon behind one trigger.

Where the trigger closes its own gate, the gate is closed exactly while the reload it
armed is pending. The main trigger always does; the alternate one only for
`FireProjectile`.
-/

set_option autoImplicit false

namespace TankoGeddon.Cannon

open Foundation (Timer Setting Run Step)

variable {y y' : Cannon} {event : Event} {outcome : Outcome} {which : Reload}

/-- A single-shot type whose trigger closes the gate it tests, with a reload that takes
time: at a `ReloadTime` of zero no timer is set and nothing reopens the gate. -/
structure Guarded (y : Cannon) (which : Reload) : Prop where
  single : y.cannonType ≠ .fireMultiProjectile
  own : which = .main ∨ y.cannonType = .fireProjectile
  reload : 0 < y.reloadTime

/-- The gate is open and nothing is pending, or it is closed until the reload. -/
inductive Cool (y : Cannon) (which : Reload) : Prop where
  | ready (gate : y.gate which = true) (timer : y.reloadTimer = none)
  | waiting (gate : y.gate which = false) (timer : y.reloadTimer = some which)

/-- What a step is to the cooldown. -/
inductive Cools (y : Cannon) (which : Reload) (event : Event) (y' : Cannon) (outcome : Outcome) : Prop where
  | fired (pressed : event = press which) (shot : outcome.discharges = true) (before : y.gate which = true)
      (gate : y'.gate which = false) (timer : y'.reloadTimer = some which)
      (sets : y.setsReload event = .after y.reloadTime)
  | reloaded (expired : event = .reloadTimer) (silent : outcome.discharges = false) (before : y.gate which = false)
      (gate : y'.gate which = true) (timer : y'.reloadTimer = none)
  | kept (silent : outcome.discharges = false) (gate : y'.gate which = y.gate which)
      (timer : y'.reloadTimer = y.reloadTimer) (sets : y.setsReload event = .kept)

theorem Guarded.of_config (guarded : y.Guarded which) (same : y'.toCannonClass = y.toCannonClass) :
    y'.Guarded which := by
  obtain ⟨single, own, reload⟩ := guarded
  refine ⟨?_, ?_, ?_⟩
  · rw [congrArg CannonClass.cannonType same]
    exact single
  · rw [congrArg CannonClass.cannonType same]
    exact own
  · rw [congrArg CannonClass.reloadTime same]
    exact reload

theorem gate_closeGate (guarded : y.Guarded which) : ((y.pay.closeGate which).armReload which).gate which = false := by
  cases which with
  | main => rfl
  | alternate =>
      have kind : y.pay.cannonType = .fireProjectile := guarded.own.resolve_left (by simp)
      simp [closeGate, kind, armReload, gate]

theorem step_cools (guarded : y.Guarded which) (only : y.BurstOnlyMulti) (cool : y.Cool which)
    (mine : ∀ other, event = press other → other = which) (acted : y.step event = some (y', outcome)) :
    Cools y which event y' outcome := by
  cases step_transition acted with
  | refused other =>
      obtain rfl := mine other rfl
      exact .kept rfl rfl rfl (by rw [setsReload_press acted, if_pos rfl])
  | shot other _ _ ready _ how =>
      obtain rfl := mine other rfl
      have shot : outcome.discharges = true := by rcases how with rfl | rfl | rfl <;> rfl
      have rate : (y.pay.closeGate other).reloadTime = y.reloadTime := by
        cases other with
        | main => rfl
        | alternate => simp only [closeGate]; split <;> rfl
      refine .fired rfl shot ready (gate_closeGate guarded) ?_ ?_
      · simp only [armReload, rate]
        exact Timer.set_pos guarded.reload other
      · rw [setsReload_press acted, if_neg (single_outcome how).1]
  | pressShot _ multi | pressDone _ multi => exact absurd multi guarded.single
  | timerShot pending | timerDone pending => exact absurd (only.multi_of_pending pending) guarded.single
  | reload other pending =>
      cases cool with
      | ready _ timer => cases timer.symm.trans pending
      | waiting gate timer =>
          obtain rfl := Option.some.inj (timer.symm.trans pending)
          refine .reloaded rfl rfl gate ?_ ?_ <;> cases which <;> rfl
  | resupply => exact .kept rfl (by cases which <;> rfl) rfl rfl

theorem Fresh.cool (fresh : y.Fresh) (which : Reload) : y.Cool which := by
  refine .ready ?_ fresh.1.reload
  cases which with
  | main => exact fresh.1.main
  | alternate => exact fresh.1.alternate

/-- A cannon of another type never has a burst, through its whole history. -/
theorem undergo_burstOnlyMulti {act : Deed} {shown : Option Outcome} (only : y.BurstOnlyMulti)
    (taken : y.undergo act = some (y', shown)) : y'.BurstOnlyMulti := by
  cases act with
  | call event =>
      obtain ⟨next, acted, same⟩ := Option.map_eq_some_iff.mp taken
      obtain ⟨rfl, _⟩ := Prod.mk.inj same
      exact (step_transition acted).burstOnlyMulti only
  | destroy =>
      simp only [undergo] at taken
      split at taken <;> cases taken
      intro single
      exact ⟨(only single).1, rfl⟩

end TankoGeddon.Cannon
