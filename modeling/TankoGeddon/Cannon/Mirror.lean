import TankoGeddon.Cannon.Transitions

/-! The alternate trigger against the main one.

`swap` exchanges the ready flags and what a pending reload is bound to. It carries
`Fire` to `AlternateFire` wherever the alternate branch clears the flag of its own
trigger.
-/

set_option autoImplicit false

namespace TankoGeddon

open Foundation (Timer)

def Reload.swap : Reload → Reload
  | .main => .alternate
  | .alternate => .main

def Outcome.swap : Outcome → Outcome
  | .reloaded which => .reloaded which.swap
  | outcome => outcome

namespace Cannon

def swap (c : Cannon) : Cannon :=
  { c with
    bMainCanFire := c.bAlternateCanFire
    bAlternateCanFire := c.bMainCanFire
    reloadTimer := c.reloadTimer.map Reload.swap }

def Event.swap : Event → Event
  | .fire => .alternateFire
  | .alternateFire => .fire
  | event => event

/-- A shot of the main trigger of which the alternate branch clears the other flag. -/
def Slips (c : Cannon) : Prop :=
  (c.cannonType = .fireSPProjectile ∨ c.cannonType = .fireTrace) ∧ c.bMainCanFire = true ∧ c.HasAmmo

instance (c : Cannon) : Decidable c.Slips :=
  inferInstanceAs (Decidable ((c.cannonType = .fireSPProjectile ∨ c.cannonType = .fireTrace) ∧
    c.bMainCanFire = true ∧ c.HasAmmo))

variable {c : Cannon}

theorem swap_endBurst (c : Cannon) : c.endBurst.swap = c.swap.endBurst := rfl

theorem swap_nextShot (c : Cannon) : c.nextShot.swap = c.swap.nextShot := rfl

theorem swap_armReload (c : Cannon) (which : Reload) :
    (c.armReload which).swap = c.swap.armReload which.swap := by
  unfold armReload swap
  simp only [Timer.set]
  split <;> rfl

theorem swap_burstFire (c : Cannon) : c.swap.burstFire = (c.burstFire.1.swap, c.burstFire.2) := by
  unfold burstFire
  by_cases last : c.currentShot = c.burstFireRate
  · rw [if_pos last, if_pos (show c.swap.currentShot = c.swap.burstFireRate from last), swap_endBurst]
  · rw [if_neg last, if_neg (show ¬ c.swap.currentShot = c.swap.burstFireRate from last), swap_nextShot]

/-- One call of each trigger. -/
theorem alternateFire_swap (regular : ¬ c.Slips) : c.swap.alternateFire = (c.fire.1.swap, c.fire.2) := by
  unfold fire alternateFire
  by_cases closed : c.bMainCanFire = false
  · rw [if_pos closed, if_pos (show c.swap.bAlternateCanFire = false from closed)]
  rw [if_neg closed, if_neg (show ¬ c.swap.bAlternateCanFire = false from closed)]
  have ready : c.bMainCanFire = true := by simpa using closed
  have same : c.swap.cannonType = c.cannonType := rfl
  have rounds : c.swap.currentAmmo = c.currentAmmo := rfl
  cases kind : c.cannonType with
  | fireProjectile =>
      simp only [same, kind, rounds]
      split
      · rfl
      · simp only [swap_armReload]
        rfl
  | fireSPProjectile =>
      have empty : c.currentAmmo < 2 := by
        by_contra ammo
        exact regular ⟨.inl kind, ready, by simp [HasAmmo, kind, roundCost]; omega⟩
      simp only [same, kind, rounds, if_pos empty]
  | fireTrace =>
      have empty : c.currentAmmo < 10 := by
        by_contra ammo
        exact regular ⟨.inr kind, ready, by simp [HasAmmo, kind, roundCost]; omega⟩
      simp only [same, kind, rounds, if_pos empty]
  | fireMultiProjectile =>
      simp only [same, kind, rounds]
      split
      · rfl
      · rw [swap_burstFire, swap_armReload]
        rfl

/-- The alternate trigger of a slipping cannon stays ready. -/
theorem alternateFire_slips (slips : c.Slips) :
    c.swap.alternateFire.1.bAlternateCanFire = true ∧ c.fire.1.bMainCanFire = false := by
  obtain ⟨kind, ready, ammo⟩ := slips
  have closed : ¬ c.bMainCanFire = false := by simp [ready]
  have closed' : ¬ c.swap.bAlternateCanFire = false := closed
  unfold fire alternateFire
  rw [if_neg closed, if_neg closed']
  have same : c.swap.cannonType = c.cannonType := rfl
  have rounds : c.swap.currentAmmo = c.currentAmmo := rfl
  rcases kind with kind | kind
  · simp only [HasAmmo, kind, roundCost, reduceCtorEq, if_false] at ammo
    have enough : ¬ c.currentAmmo < 2 := by omega
    simp only [same, kind, rounds, if_neg enough]
    exact ⟨ready, rfl⟩
  · simp only [HasAmmo, kind, roundCost, reduceCtorEq, if_false] at ammo
    have enough : ¬ c.currentAmmo < 10 := by omega
    simp only [same, kind, rounds, if_neg enough]
    exact ⟨ready, rfl⟩

/-- A trigger reloads nothing. -/
theorem Transition.outcome_swap {event : Event} {c' : Cannon} {outcome : Outcome}
    (move : Transition c event c' outcome) (acts : event ≠ .reloadTimer) : outcome.swap = outcome := by
  cases move with
  | shot _ _ _ _ _ how => rcases how with rfl | rfl | rfl <;> rfl
  | reload => exact absurd rfl acts
  | _ => rfl

/-- Every step but the alternate trigger's own has its mirror image. -/
theorem step_swap {event : Event} (main : event ≠ .alternateFire) (regular : event = .fire → ¬ c.Slips) :
    c.swap.step event.swap = (c.step event).map fun next => (next.1.swap, next.2.swap) := by
  cases event with
  | fire =>
      have mirrored := alternateFire_swap (regular rfl)
      have plain := (fire_transition c).outcome_swap (by simp)
      simp only [step, Event.swap, Option.map_some, mirrored, plain]
  | alternateFire => exact absurd rfl main
  | reloadTimer =>
      cases pending : c.reloadTimer with
      | none => simp [step, Event.swap, swap, pending]
      | some which => cases which <;> simp [step, Event.swap, swap, pending, Reload.swap, mainReload,
          alternateReload, Outcome.swap]
  | burstFireTimer =>
      cases pending : c.burstFireTimer with
      | none => simp [step, Event.swap, swap, pending]
      | some _ =>
          have mirrored := swap_burstFire { c with burstFireTimer := none }
          have plain : (burstFire { c with burstFireTimer := none }).2.swap =
              (burstFire { c with burstFireTimer := none }).2 := by
            unfold burstFire
            split <;> rfl
          have there : c.swap.burstFireTimer = some () := pending
          simp only [step, Event.swap, pending, there, Option.map_some, plain]
          exact congrArg some mirrored
  | increaseAmmoValue ammoValue =>
      have rounds : c.swap.currentAmmo = c.currentAmmo := rfl
      simp only [step, Event.swap, rounds]
      split <;> rfl

end Cannon

end TankoGeddon
