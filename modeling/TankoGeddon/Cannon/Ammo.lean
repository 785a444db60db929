import TankoGeddon.Cannon.Burst

/-! The magazine: ammo never leaves its bounds.

A burst tests the ammo when it is pressed and pays when it completes, so the
bound alone is not inductive. What carries it is that a burst in progress still
has the three rounds it will be charged.
-/

set_option autoImplicit false

namespace TankoGeddon.Cannon

open Foundation (Timer Run Step perform perform_run)

variable {c c' : Cannon} {event : Event} {outcome : Outcome}

/-- Not a pick-up that takes rounds away. -/
def Event.Supplies : Event → Prop
  | .increaseAmmoValue ammoValue => 0 ≤ ammoValue
  | _ => True

instance (event : Event) : Decidable event.Supplies :=
  match event with
  | .increaseAmmoValue ammoValue => inferInstanceAs (Decidable (0 ≤ ammoValue))
  | .fire | .alternateFire | .reloadTimer | .burstFireTimer => .isTrue trivial

structure MagazineSafe (c : Cannon) : Prop where
  nonneg : 0 ≤ c.currentAmmo
  le_max : c.currentAmmo ≤ c.maxAmmo
  shot_nonneg : 0 ≤ c.currentShot
  paid : 0 < c.currentShot → 3 ≤ c.currentAmmo
  running : c.burstFireTimer = some () → 0 < c.currentShot

theorem BegunPlay.magazineSafe (begun : c.BegunPlay) (magazine : 0 ≤ c.maxAmmo) : c.MagazineSafe where
  nonneg := by rw [begun.ammo]; exact magazine
  le_max := begun.ammo.le
  shot_nonneg := by rw [begun.shot]
  paid := by simp [begun.shot]
  running := by simp [begun.burst]

theorem HasAmmo.multi (ammo : c.HasAmmo) (multi : c.cannonType = .fireMultiProjectile) :
    3 ≤ c.currentAmmo := by
  simpa [HasAmmo, multi, roundCost] using ammo

theorem HasAmmo.cost_le (ammo : c.HasAmmo) (nonneg : 0 ≤ c.currentAmmo) :
    roundCost c.cannonType ≤ c.currentAmmo := by
  unfold HasAmmo at ammo
  split at ammo
  next kind => rw [kind, roundCost]; omega
  next => exact ammo

theorem roundCost_pos (kind : ECannonType) : 0 < roundCost kind := by
  cases kind <;> decide

namespace MagazineSafe

theorem nextShot (safe : c.MagazineSafe) (ammo : 3 ≤ c.currentAmmo) : c.nextShot.MagazineSafe where
  nonneg := safe.nonneg
  le_max := safe.le_max
  shot_nonneg := by have := safe.shot_nonneg; simp only [Cannon.nextShot]; omega
  paid := fun _ => ammo
  running := fun _ => by have := safe.shot_nonneg; simp only [Cannon.nextShot]; omega

theorem endBurst (safe : c.MagazineSafe) (ammo : 3 ≤ c.currentAmmo) : c.endBurst.MagazineSafe where
  nonneg := by simp only [Cannon.endBurst]; omega
  le_max := by have := safe.le_max; simp only [Cannon.endBurst]; omega
  shot_nonneg := Int.le_refl 0
  paid := by simp [Cannon.endBurst]
  running := by simp [Cannon.endBurst]

theorem armReload (safe : c.MagazineSafe) (which : Reload) : (c.armReload which).MagazineSafe :=
  ⟨safe.nonneg, safe.le_max, safe.shot_nonneg, safe.paid, safe.running⟩

-- No burst is under way here, so only the bounds are at stake.
theorem shot (safe : c.MagazineSafe) (idle : c.currentShot = 0 ∧ c.burstFireTimer = none)
    (ammo : c.HasAmmo) (which : Reload) : (c.pay.closeGate which).MagazineSafe := by
  have cost := ammo.cost_le safe.nonneg
  have positive := roundCost_pos c.cannonType
  have paid : c.pay.MagazineSafe := {
    nonneg := by simp only [pay]; omega
    le_max := by have := safe.le_max; simp only [pay]; omega
    shot_nonneg := safe.shot_nonneg
    paid := fun burst => absurd burst (by simp [pay, idle.1])
    running := fun pending => absurd pending (by simp [pay, idle.2]) }
  cases which with
  | main => exact ⟨paid.nonneg, paid.le_max, paid.shot_nonneg, paid.paid, paid.running⟩
  | alternate =>
      simp only [closeGate]
      split <;> exact ⟨paid.nonneg, paid.le_max, paid.shot_nonneg, paid.paid, paid.running⟩

theorem resupply (safe : c.MagazineSafe) {ammoValue : Int} (supplies : 0 ≤ ammoValue) :
    (c.increaseAmmoValue ammoValue).MagazineSafe := by
  have bounds := safe.le_max
  have nonneg := safe.nonneg
  simp only [increaseAmmoValue]
  split
  · exact ⟨by simp only; omega, Int.le_refl _, safe.shot_nonneg,
      fun burst => Int.le_trans (safe.paid burst) bounds, safe.running⟩
  · exact ⟨by simp only; omega, by simp only; omega, safe.shot_nonneg,
      fun burst => by have := safe.paid burst; simp only; omega, safe.running⟩

end MagazineSafe

theorem Transition.magazineSafe (move : Transition c event c' outcome) (only : c.BurstOnlyMulti)
    (safe : c.MagazineSafe) (supplies : event.Supplies) : c'.MagazineSafe := by
  cases move with
  | refused => exact safe
  | shot which _ single _ ammo => exact (safe.shot (only single) ammo which).armReload which
  | pressShot which multi _ ammo => exact (safe.nextShot (ammo.multi multi)).armReload which
  | pressDone which multi _ ammo => exact (safe.endBurst (ammo.multi multi)).armReload which
  | timerShot pending => exact safe.nextShot (safe.paid (safe.running pending))
  | timerDone pending => exact safe.endBurst (safe.paid (safe.running pending))
  | reload which =>
      cases which <;> exact ⟨safe.nonneg, safe.le_max, safe.shot_nonneg, safe.paid, safe.running⟩
  | resupply => exact safe.resupply supplies

/-- Whatever the presses, callbacks and pick-ups, after every step the ammo is
between nothing and the full magazine. -/
theorem currentAmmo_bounded {start final : Cannon} {trace : List (Step Cannon Event Outcome)}
    (begun : start.BegunPlay) (magazine : 0 ≤ start.maxAmmo) (run : Run step start trace final)
    (supplies : ∀ t ∈ trace, t.event.Supplies) :
    ∀ t ∈ trace, 0 ≤ t.after.currentAmmo ∧ t.after.currentAmmo ≤ start.maxAmmo := by
  have safe := run.invariant (fun c => c.BurstOnlyMulti ∧ c.MagazineSafe)
    ⟨begun.burstOnlyMulti, begun.magazineSafe magazine⟩ fun t member taken before =>
      ⟨(step_transition taken).burstOnlyMulti before.1,
        (step_transition taken).magazineSafe before.1 before.2 (supplies t member)⟩
  intro t member
  have after := (safe.2 t member).2.2
  have config := ((run_config run).2 t member).2
  exact ⟨after.nonneg, by rw [← congrArg CannonClass.maxAmmo config]; exact after.le_max⟩

/-- A cannon of the given type as it stands after `BeginPlay`, without a pool. -/
def ready (cannonType : ECannonType) (maxAmmo burstFireRate : Int) : Cannon :=
  (spawn { cannonType, maxAmmo, burstFireRate, projectileClass := some {}, projectilePoolClass := none }
    none none).beginPlay none

theorem ready_begun (cannonType : ECannonType) (maxAmmo burstFireRate : Int) :
    (ready cannonType maxAmmo burstFireRate).BegunPlay :=
  beginPlay_begun _ none none none

-- A burst of two, pressed again while it runs, with a pick-up before it is paid.
theorem currentAmmo_bounded_burst :
    (ready .fireMultiProjectile 4 2).BegunPlay ∧
    ∀ t ∈ (perform step (ready .fireMultiProjectile 4 2)
        [.fire, .alternateFire, .increaseAmmoValue 3, .burstFireTimer, .fire]).1,
      0 ≤ t.after.currentAmmo ∧ t.after.currentAmmo ≤ 4 :=
  ⟨ready_begun _ _ _,
    currentAmmo_bounded (ready_begun _ _ _) (by decide) (perform_run _ _ _) (by decide +kernel)⟩

end TankoGeddon.Cannon
