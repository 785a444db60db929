import TankoGeddon.Foundation.Run
import TankoGeddon.Cannon.Transitions

/-! Burst bookkeeping: the shot counter against the burst timer. -/

set_option autoImplicit false

namespace TankoGeddon.Cannon

open Foundation (Timer Run Step)

variable {c c' : Cannon} {event : Event} {outcome : Outcome}

/-- A cannon of another type never has a burst. -/
def BurstOnlyMulti (c : Cannon) : Prop :=
  c.cannonType ≠ .fireMultiProjectile → c.currentShot = 0 ∧ c.burstFireTimer = none

theorem BegunPlay.burstOnlyMulti (begun : c.BegunPlay) : c.BurstOnlyMulti :=
  fun _ => ⟨begun.shot, begun.burst⟩

/-- The pending burst timer of a step belongs to a multi-projectile cannon. -/
theorem BurstOnlyMulti.multi_of_pending (only : c.BurstOnlyMulti)
    (pending : c.burstFireTimer = some ()) : c.cannonType = .fireMultiProjectile := by
  by_contra single
  rw [(only single).2] at pending
  cases pending

theorem Transition.burstOnlyMulti (move : Transition c event c' outcome) (only : c.BurstOnlyMulti) :
    c'.BurstOnlyMulti := by
  have config := move.config
  intro single
  have before : c.cannonType ≠ .fireMultiProjectile := by
    rwa [← congrArg CannonClass.cannonType config]
  obtain ⟨shot, burst⟩ := only before
  cases move with
  | refused | resupply => exact ⟨shot, burst⟩
  | shot which =>
      cases which with
      | main => exact ⟨shot, burst⟩
      | alternate => simp only [closeGate]; split <;> exact ⟨shot, burst⟩
  | reload which => cases which <;> exact ⟨shot, burst⟩
  | pressShot _ multi | pressDone _ multi => exact absurd multi before
  | timerShot pending | timerDone pending => rw [burst] at pending; cases pending

/-- The counter stays within the burst and the timer is pending exactly during one. -/
structure BurstCount (c : Cannon) : Prop where
  nonneg : 0 ≤ c.currentShot
  le_rate : c.currentShot ≤ c.burstFireRate
  pending : c.burstFireTimer.isSome = true ↔ 0 < c.currentShot

theorem BegunPlay.burstCount (begun : c.BegunPlay) (rate : 0 ≤ c.burstFireRate) : c.BurstCount where
  nonneg := by rw [begun.shot]
  le_rate := by rw [begun.shot]; exact rate
  pending := by simp [begun.shot, begun.burst]

theorem BurstCount.nextShot (count : c.BurstCount) (interval : 0 < c.burstFireInterval)
    (more : c.currentShot ≠ c.burstFireRate) : c.nextShot.BurstCount where
  nonneg := by have := count.nonneg; simp only [Cannon.nextShot]; omega
  le_rate := by have := count.le_rate; simp only [Cannon.nextShot]; omega
  pending := by
    have := count.nonneg
    simp only [Cannon.nextShot, Timer.set_pos interval, Option.isSome_some, true_iff]
    omega

theorem BurstCount.endBurst (count : c.BurstCount) : c.endBurst.BurstCount where
  nonneg := Int.le_refl 0
  le_rate := Int.le_trans count.nonneg count.le_rate
  pending := by simp [Cannon.endBurst]

theorem Transition.burstCount (move : Transition c event c' outcome) (interval : 0 < c.burstFireInterval)
    (count : c.BurstCount) : c'.BurstCount := by
  cases move with
  | refused | resupply => exact ⟨count.nonneg, count.le_rate, count.pending⟩
  | shot which =>
      cases which with
      | main => exact ⟨count.nonneg, count.le_rate, count.pending⟩
      | alternate => simp only [closeGate]; split <;> exact ⟨count.nonneg, count.le_rate, count.pending⟩
  | reload which => cases which <;> exact ⟨count.nonneg, count.le_rate, count.pending⟩
  | pressShot _ _ _ _ more =>
      have next := count.nextShot interval more
      exact ⟨next.nonneg, next.le_rate, next.pending⟩
  | pressDone =>
      have done := count.endBurst
      exact ⟨done.nonneg, done.le_rate, done.pending⟩
  | timerShot _ more => exact count.nextShot interval more
  | timerDone => exact count.endBurst

/-- No step of a run edits the configuration. -/
theorem run_config {start final : Cannon} {trace : List (Step Cannon Event Outcome)}
    (run : Run step start trace final) :
    final.toCannonClass = start.toCannonClass ∧
      ∀ t ∈ trace, t.before.toCannonClass = start.toCannonClass ∧
        t.after.toCannonClass = start.toCannonClass :=
  run.invariant (fun c => c.toCannonClass = start.toCannonClass) rfl
    fun _ _ taken same => (step_transition taken).config.trans same

end TankoGeddon.Cannon
