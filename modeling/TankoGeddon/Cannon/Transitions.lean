import TankoGeddon.Cannon.Basic

/-! Everything a step of a cannon can do, said once.

`Transition` lists the cases with their guards; the invariants of the other
modules are case analyses over it and never unfold the two triggers.
-/

set_option autoImplicit false

namespace TankoGeddon.Cannon

open Foundation (Timer)

/-- Rounds a press costs; a burst is charged at its end. -/
def roundCost : ECannonType → Int
  | .fireProjectile => 1
  | .fireSPProjectile => 2
  | .fireTrace => 10
  | .fireMultiProjectile => 3

/-- The ammo test of the branch for the cannon's type. -/
def HasAmmo (c : Cannon) : Prop :=
  if c.cannonType = .fireProjectile then c.currentAmmo ≠ 0 else roundCost c.cannonType ≤ c.currentAmmo

instance (c : Cannon) : Decidable c.HasAmmo :=
  inferInstanceAs (Decidable (if c.cannonType = .fireProjectile then c.currentAmmo ≠ 0
    else roundCost c.cannonType ≤ c.currentAmmo))

/-- The ready flag a trigger tests. -/
def gate (c : Cannon) : Reload → Bool
  | .main => c.bMainCanFire
  | .alternate => c.bAlternateCanFire

def press : Reload → Event
  | .main => .fire
  | .alternate => .alternateFire

/-- The flag a single shot clears: the alternate trigger clears its own only for
`FireProjectile`. -/
def closeGate (c : Cannon) : Reload → Cannon
  | .main => { c with bMainCanFire := false }
  | .alternate =>
      if c.cannonType = .fireProjectile then { c with bAlternateCanFire := false }
      else { c with bMainCanFire := false }

def pay (c : Cannon) : Cannon := { c with currentAmmo := c.currentAmmo - roundCost c.cannonType }

/-- The expiry of `ReloadTimer`: the handle is empty, then the bound method runs. -/
def reloadBy (c : Cannon) : Reload → Cannon
  | .main => { c with reloadTimer := none }.mainReload
  | .alternate => { c with reloadTimer := none }.alternateReload

inductive Transition (c : Cannon) : Event → Cannon → Outcome → Prop where
  | refused (which : Reload) (shut : c.gate which = false ∨ ¬ c.HasAmmo) :
      Transition c (press which) c .refused
  | shot (which : Reload) (outcome : Outcome) (single : c.cannonType ≠ .fireMultiProjectile)
      (ready : c.gate which = true) (ammo : c.HasAmmo)
      (how : outcome = .spawned ∨ outcome = .pooled ∨ outcome = .traced) :
      Transition c (press which) ((c.pay.closeGate which).armReload which) outcome
  | pressShot (which : Reload) (multi : c.cannonType = .fireMultiProjectile)
      (ready : c.gate which = true) (ammo : c.HasAmmo) (more : c.currentShot ≠ c.burstFireRate) :
      Transition c (press which) (c.nextShot.armReload which) .burstShot
  | pressDone (which : Reload) (multi : c.cannonType = .fireMultiProjectile)
      (ready : c.gate which = true) (ammo : c.HasAmmo) (last : c.currentShot = c.burstFireRate) :
      Transition c (press which) (c.endBurst.armReload which) .burstCompleted
  | timerShot (pending : c.burstFireTimer = some ()) (more : c.currentShot ≠ c.burstFireRate) :
      Transition c .burstFireTimer c.nextShot .burstShot
  | timerDone (pending : c.burstFireTimer = some ()) (last : c.currentShot = c.burstFireRate) :
      Transition c .burstFireTimer c.endBurst .burstCompleted
  | reload (which : Reload) (pending : c.reloadTimer = some which) :
      Transition c .reloadTimer (c.reloadBy which) (.reloaded which)
  | resupply (ammoValue : Int) (fits : InInt32 (c.currentAmmo + ammoValue)) :
      Transition c (.increaseAmmoValue ammoValue) (c.increaseAmmoValue ammoValue) .resupplied

theorem launch_cases (c : Cannon) : c.launch = .spawned ∨ c.launch = .pooled ∨ c.launch = .traced := by
  unfold launch
  split <;> simp

/-- Both triggers hand over to `BurstFire` in the same way. -/
theorem burst_transition {c : Cannon} (which : Reload) (multi : c.cannonType = .fireMultiProjectile)
    (ready : c.gate which = true) (ammo : c.HasAmmo) :
    Transition c (press which) (c.burstFire.1.armReload which) c.burstFire.2 := by
  unfold burstFire
  by_cases last : c.currentShot = c.burstFireRate
  · rw [if_pos last]
    exact .pressDone which multi ready ammo last
  · rw [if_neg last]
    exact .pressShot which multi ready ammo last

theorem fire_transition (c : Cannon) : Transition c .fire c.fire.1 c.fire.2 := by
  unfold fire
  by_cases closed : c.bMainCanFire = false
  · rw [if_pos closed]
    exact .refused .main (.inl closed)
  have ready : c.gate .main = true := by simpa [gate] using closed
  rw [if_neg closed]
  cases kind : c.cannonType with
  | fireProjectile =>
      by_cases empty : c.currentAmmo = 0
      · simp only [if_pos empty]
        exact .refused .main (.inr (by simp [HasAmmo, kind, empty]))
      · have shot := Transition.shot .main c.launch (by simp [kind]) ready
          (by simp [HasAmmo, kind, empty]) c.launch_cases
        simpa only [if_neg empty, pay, closeGate, press, kind, roundCost] using shot
  | fireSPProjectile =>
      by_cases empty : c.currentAmmo < 2
      · simp only [if_pos empty]
        exact .refused .main (.inr (by simp [HasAmmo, kind, roundCost]; omega))
      · have shot := Transition.shot .main c.launch (by simp [kind]) ready
          (by simp [HasAmmo, kind, roundCost]; omega) c.launch_cases
        simpa only [if_neg empty, pay, closeGate, press, kind, roundCost] using shot
  | fireTrace =>
      by_cases empty : c.currentAmmo < 10
      · simp only [if_pos empty]
        exact .refused .main (.inr (by simp [HasAmmo, kind, roundCost]; omega))
      · have shot := Transition.shot .main .traced (by simp [kind]) ready
          (by simp [HasAmmo, kind, roundCost]; omega) (by simp)
        simpa only [if_neg empty, pay, closeGate, press, kind, roundCost] using shot
  | fireMultiProjectile =>
      by_cases empty : c.currentAmmo < 3
      · simp only [if_pos empty]
        exact .refused .main (.inr (by simp [HasAmmo, kind, roundCost]; omega))
      · simp only [if_neg empty]
        exact burst_transition .main kind ready (by simp [HasAmmo, kind, roundCost]; omega)

theorem alternateFire_transition (c : Cannon) :
    Transition c .alternateFire c.alternateFire.1 c.alternateFire.2 := by
  unfold alternateFire
  by_cases closed : c.bAlternateCanFire = false
  · rw [if_pos closed]
    exact .refused .alternate (.inl closed)
  have ready : c.gate .alternate = true := by simpa [gate] using closed
  rw [if_neg closed]
  cases kind : c.cannonType with
  | fireProjectile =>
      by_cases empty : c.currentAmmo = 0
      · simp only [if_pos empty]
        exact .refused .alternate (.inr (by simp [HasAmmo, kind, empty]))
      · have shot := Transition.shot .alternate c.launch (by simp [kind]) ready
          (by simp [HasAmmo, kind, empty]) c.launch_cases
        simpa only [if_neg empty, pay, closeGate, press, kind, roundCost, reduceCtorEq, if_true, if_false] using shot
  | fireSPProjectile =>
      by_cases empty : c.currentAmmo < 2
      · simp only [if_pos empty]
        exact .refused .alternate (.inr (by simp [HasAmmo, kind, roundCost]; omega))
      · have shot := Transition.shot .alternate c.launch (by simp [kind]) ready
          (by simp [HasAmmo, kind, roundCost]; omega) c.launch_cases
        simpa only [if_neg empty, pay, closeGate, press, kind, roundCost, reduceCtorEq, if_true, if_false] using shot
  | fireTrace =>
      by_cases empty : c.currentAmmo < 10
      · simp only [if_pos empty]
        exact .refused .alternate (.inr (by simp [HasAmmo, kind, roundCost]; omega))
      · have shot := Transition.shot .alternate .traced (by simp [kind]) ready
          (by simp [HasAmmo, kind, roundCost]; omega) (by simp)
        simpa only [if_neg empty, pay, closeGate, press, kind, roundCost, reduceCtorEq, if_true, if_false] using shot
  | fireMultiProjectile =>
      by_cases empty : c.currentAmmo < 3
      · simp only [if_pos empty]
        exact .refused .alternate (.inr (by simp [HasAmmo, kind, roundCost]; omega))
      · simp only [if_neg empty]
        exact burst_transition .alternate kind ready (by simp [HasAmmo, kind, roundCost]; omega)

/-- A callback that finds its own handle empty does what the call would do: both
branches of `BurstFire` write the handle. -/
theorem burstFire_expired (c : Cannon) : { c with burstFireTimer := none }.burstFire = c.burstFire := rfl

theorem step_transition {c c' : Cannon} {event : Event} {outcome : Outcome}
    (taken : c.step event = some (c', outcome)) : Transition c event c' outcome := by
  cases event with
  | fire =>
      obtain ⟨rfl, rfl⟩ := Prod.mk.inj (Option.some.inj taken)
      exact c.fire_transition
  | alternateFire =>
      obtain ⟨rfl, rfl⟩ := Prod.mk.inj (Option.some.inj taken)
      exact c.alternateFire_transition
  | reloadTimer =>
      simp only [step] at taken
      split at taken <;> cases taken
      next pending => exact .reload .main pending
      next pending => exact .reload .alternate pending
  | burstFireTimer =>
      simp only [step, burstFire_expired] at taken
      split at taken
      next pending =>
        by_cases last : c.currentShot = c.burstFireRate
        · rw [burstFire, if_pos last] at taken
          cases taken
          exact .timerDone pending last
        · rw [burstFire, if_neg last] at taken
          cases taken
          exact .timerShot pending last
      next => cases taken
  | increaseAmmoValue ammoValue =>
      simp only [step] at taken
      split at taken <;> cases taken
      next fits => exact .resupply ammoValue fits

/-- What a press asks of the engine, by the type of the cannon. -/
theorem press_outcome {c : Cannon} {which : Reload} {next : Cannon × Outcome}
    (acted : c.step (press which) = some next) :
    next.2 = .refused ∨
    (c.cannonType = .fireProjectile ∨ c.cannonType = .fireSPProjectile) ∧ next.2 = c.launch ∨
    c.cannonType = .fireTrace ∧ next.2 = .traced ∨
    c.cannonType = .fireMultiProjectile ∧ next.2 = c.burstFire.2 := by
  cases which with
  | main =>
      obtain rfl := Option.some.inj acted
      unfold fire
      split
      · exact .inl rfl
      · cases c.cannonType <;> simp only [] <;> split <;> simp
  | alternate =>
      obtain rfl := Option.some.inj acted
      unfold alternateFire
      split
      · exact .inl rfl
      · cases c.cannonType <;> simp only [] <;> split <;> simp

theorem reload_outcome {c : Cannon} {next : Cannon × Outcome} (acted : c.step .reloadTimer = some next) :
    ∃ which, next.2 = .reloaded which := by
  simp only [step] at acted
  split at acted <;> cases acted
  · exact ⟨_, rfl⟩
  · exact ⟨_, rfl⟩

theorem burst_outcome {c : Cannon} {next : Cannon × Outcome} (acted : c.step .burstFireTimer = some next) :
    next.2 = .burstCompleted ∨ next.2 = .burstShot := by
  simp only [step, burstFire] at acted
  split at acted
  · split at acted <;> cases acted
    · exact .inl rfl
    · exact .inr rfl
  · cases acted

/-- A step changes the ammo, the shot counter, the flags and the timers. -/
theorem Transition.frame {c c' : Cannon} {event : Event} {outcome : Outcome}
    (move : Transition c event c' outcome) :
    c' = { c with
      currentAmmo := c'.currentAmmo
      currentShot := c'.currentShot
      bMainCanFire := c'.bMainCanFire
      bAlternateCanFire := c'.bAlternateCanFire
      reloadTimer := c'.reloadTimer
      burstFireTimer := c'.burstFireTimer } := by
  cases move with
  | shot which =>
      cases which with
      | main => rfl
      | alternate => simp only [closeGate]; split <;> rfl
  | reload which => cases which <;> rfl
  | _ => rfl

/-- No step edits the cannon's configuration. -/
theorem Transition.config {c c' : Cannon} {event : Event} {outcome : Outcome}
    (move : Transition c event c' outcome) : c'.toCannonClass = c.toCannonClass := by
  have same := congrArg toCannonClass move.frame
  exact same

/-- No step changes which pool the cannon has. -/
theorem Transition.pool {c c' : Cannon} {event : Event} {outcome : Outcome}
    (move : Transition c event c' outcome) : c'.projectilePool = c.projectilePool := by
  have same := congrArg projectilePool move.frame
  exact same

end TankoGeddon.Cannon
