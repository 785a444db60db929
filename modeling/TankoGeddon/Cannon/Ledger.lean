import TankoGeddon.Cannon.Ammo

/-! The burst ledger: projectiles launched, bursts completed, rounds charged.

`BurstFire` is both the timer callback and what every press calls, so presses take
steps from a running burst. Counting over the trace shows that this changes only
when the shots are taken: none is free, lost or charged twice.
-/

set_option autoImplicit false

namespace TankoGeddon.Cannon

open Foundation (Timer Run Step perform perform_run)

variable {c c' : Cannon} {event : Event} {outcome : Outcome}

/-- Completions of a burst. -/
def completions (trace : List (Step Cannon Event Outcome)) : Nat :=
  trace.countP fun t => t.output = .burstCompleted

/-- Projectiles launched by bursts. -/
def launches (trace : List (Step Cannon Event Outcome)) : Nat :=
  trace.countP fun t => t.output = .burstShot

/-- Rounds a step really adds, after clamping. -/
def gain (t : Step Cannon Event Outcome) : Int :=
  match t.event with
  | .increaseAmmoValue _ => t.after.currentAmmo - t.before.currentAmmo
  | _ => 0

def gained (trace : List (Step Cannon Event Outcome)) : Int := (trace.map gain).sum

theorem completions_snoc (trace : List (Step Cannon Event Outcome)) (t : Step Cannon Event Outcome) :
    completions (trace ++ [t]) = completions trace + if t.output = .burstCompleted then 1 else 0 := by
  simp [completions, List.countP_append, List.countP_cons]

theorem launches_snoc (trace : List (Step Cannon Event Outcome)) (t : Step Cannon Event Outcome) :
    launches (trace ++ [t]) = launches trace + if t.output = .burstShot then 1 else 0 := by
  simp [launches, List.countP_append, List.countP_cons]

theorem gained_snoc (trace : List (Step Cannon Event Outcome)) (t : Step Cannon Event Outcome) :
    gained (trace ++ [t]) = gained trace + gain t := by
  simp [gained]

/-- The accounts between two states of a run of a multi-projectile cannon. -/
structure Balanced (start final : Cannon) (trace : List (Step Cannon Event Outcome)) : Prop where
  shots : start.currentShot + launches trace =
    start.burstFireRate * completions trace + final.currentShot
  ammo : final.currentAmmo = start.currentAmmo + gained trace - 3 * completions trace

theorem Balanced.nil (start : Cannon) : Balanced start start [] :=
  ⟨by simp [launches, completions], by simp [gained, completions]⟩

-- What one step adds to the accounts of a multi-projectile cannon.
theorem Transition.accounts {t : Step Cannon Event Outcome}
    (move : Transition t.before t.event t.after t.output)
    (multi : t.before.cannonType = .fireMultiProjectile) :
    (t.before.currentShot + if t.output = .burstShot then 1 else 0) =
      (t.before.burstFireRate * if t.output = .burstCompleted then 1 else 0) + t.after.currentShot ∧
    t.after.currentAmmo =
      t.before.currentAmmo + gain t - 3 * if t.output = .burstCompleted then 1 else 0 := by
  obtain ⟨before, event, output, after⟩ := t
  simp only at move multi ⊢
  cases move with
  | refused which => cases which <;> simp [gain, press]
  | shot _ _ single => exact absurd multi single
  | pressShot which => cases which <;> simp [gain, press, armReload, nextShot]
  | pressDone which _ _ _ last => cases which <;> simp [gain, press, armReload, endBurst, last]
  | timerShot => simp [gain, nextShot]
  | timerDone _ last => simp [gain, endBurst, last]
  | reload which => cases which <;> simp [gain, reloadBy, mainReload, alternateReload]
  | resupply => simp [gain, increaseAmmoValue]

theorem Balanced.snoc {start : Cannon} {trace : List (Step Cannon Event Outcome)}
    {t : Step Cannon Event Outcome} (balanced : Balanced start t.before trace)
    (rate : t.before.burstFireRate = start.burstFireRate)
    (move : Transition t.before t.event t.after t.output)
    (multi : t.before.cannonType = .fireMultiProjectile) :
    Balanced start t.after (trace ++ [t]) := by
  obtain ⟨shots, ammo⟩ := move.accounts multi
  rw [rate] at shots
  constructor
  · rw [completions_snoc, launches_snoc]
    push_cast
    rw [mul_add]
    have before := balanced.shots
    omega
  · rw [completions_snoc, gained_snoc]
    push_cast
    have before := balanced.ammo
    omega

/-- The accounts balance from any state on, whatever is pressed meanwhile. -/
theorem run_balanced {start final : Cannon} {trace : List (Step Cannon Event Outcome)}
    (run : Run step start trace final) (multi : start.cannonType = .fireMultiProjectile) :
    Balanced start final trace := by
  refine run.growing (motive := fun trace final => Balanced start final trace) (.nil start) ?_
  intro trace t before taken balanced
  have config := (run_config before).1
  have kind := congrArg CannonClass.cannonType config
  exact balanced.snoc (congrArg CannonClass.burstFireRate config) (step_transition taken)
    (kind.trans multi)

/-- The ledger of a run from `BeginPlay`. -/
structure Ledger (start final : Cannon) (trace : List (Step Cannon Event Outcome)) : Prop where
  launched : (launches trace : Int) = start.burstFireRate * completions trace + final.currentShot
  shot_nonneg : 0 ≤ final.currentShot
  shot_le : final.currentShot ≤ start.burstFireRate
  ammo : final.currentAmmo = start.maxAmmo + gained trace - 3 * completions trace
  pending : final.burstFireTimer.isSome = true ↔ 0 < final.currentShot

/-- After every run the ledger balances, and between any two of its states with no
burst under way each completed burst launched its full rate and was charged once. -/
theorem burst_ledger {start final : Cannon} {trace : List (Step Cannon Event Outcome)}
    (begun : start.BegunPlay) (multi : start.cannonType = .fireMultiProjectile)
    (rate : 1 ≤ start.burstFireRate) (interval : 0 < start.burstFireInterval)
    (run : Run step start trace final) :
    Ledger start final trace ∧
    ∀ early late middle, trace = early ++ late → Run step start early middle →
      Run step middle late final → middle.currentShot = 0 → final.currentShot = 0 →
      (launches late : Int) = start.burstFireRate * completions late ∧
      final.currentAmmo = middle.currentAmmo + gained late - 3 * completions late := by
  have balanced := run_balanced run multi
  have count := (run.invariant (fun c => 0 < c.burstFireInterval ∧ c.BurstCount)
    ⟨interval, begun.burstCount (by omega)⟩ fun t _ taken before =>
      have move := step_transition taken
      ⟨by rw [congrArg CannonClass.burstFireInterval move.config]; exact before.1,
        move.burstCount before.1 before.2⟩).1.2
  have same := congrArg CannonClass.burstFireRate (run_config run).1
  refine ⟨⟨?_, count.nonneg, ?_, ?_, count.pending⟩, ?_⟩
  · have shots := balanced.shots
    rw [begun.shot] at shots
    omega
  · rw [← same]
    exact count.le_rate
  · rw [← begun.ammo]
    exact balanced.ammo
  · intro early late middle _ first rest idle done
    have config := (run_config first).1
    have kind := congrArg CannonClass.cannonType config
    have part := run_balanced rest (kind.trans multi)
    have shots := part.shots
    rw [idle, done, congrArg CannonClass.burstFireRate config] at shots
    exact ⟨by omega, part.ammo⟩

-- Three presses of either trigger and two callbacks make one burst of three.
theorem burst_ledger_pressed :
    Ledger (ready .fireMultiProjectile 12 3)
      (perform step (ready .fireMultiProjectile 12 3)
        [.fire, .fire, .burstFireTimer, .alternateFire, .increaseAmmoValue 2]).2
      (perform step (ready .fireMultiProjectile 12 3)
        [.fire, .fire, .burstFireTimer, .alternateFire, .increaseAmmoValue 2]).1 :=
  (burst_ledger (ready_begun _ _ _) rfl (by decide) (by decide +kernel) (perform_run _ _ _)).1

end TankoGeddon.Cannon
