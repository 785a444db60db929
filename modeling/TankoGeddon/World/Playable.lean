import Mathlib.Data.Rat.Floor
import Mathlib.Algebra.Order.Archimedean.Basic
import TankoGeddon.Foundation.Playable
import TankoGeddon.World.FlightTime

/-! Time does not stop for the cannons and the projectiles.

None of their callbacks refuses to run, and none but a move runs again at once. So
whatever has been fired, hit and destroyed, a level without turrets goes on frame by frame
by its timers alone, whatever the engine answers to them. A turret has a timer of its own,
whose callback may be the end of the level.
-/

set_option autoImplicit false

namespace TankoGeddon.World

open Foundation (Run Step Setting Timing Clocked Beat perform_run)

variable {w : World} {c : CannonId} {j : ProjectileId}

/-- The period of the one timer that loops. -/
def period (w : World) : Handle → Scalar
  | .moveTimer j => (w.projectiles[j]?.map (·.moveRate)).getD 0
  | _ => 0

/-- The engine's answers to the callbacks: the forward vector of a projectile that moves,
and the muzzle and the spawn of a shot of a burst. -/
structure Answers where
  forward : World → ProjectileId → FVector
  reply : World → CannonId → Reply

def Answers.Gives (answers : Answers) (w : World) : Event → Prop
  | .move j forward => forward = answers.forward w j
  | .burstFireTimer c reply => reply = answers.reply w c
  | _ => True

/-- The expiry of a cannon's timer, carried out. -/
theorem cannon_runs {y : Cannon} (event : Event) (here : w.cannons[c]? = some y) {call : Cannon.Event} {reply : Reply}
    (offers : w.step event = w.cannonEvent c call reply) (made : w.calls event = some (c, call))
    {next : Cannon × Outcome} (acted : y.step call = some next) (sets : Cannon → Cannon.Event → Setting Scalar) :
    ∃ result output, w.step event = some (result, output) ∧
      cannonSetting sets c ⟨w, event, output, result⟩ = sets y call := by
  refine ⟨((w.updateCannon c fun _ => next.1).perform c next.2 reply).1,
    ((w.updateCannon c fun _ => next.1).perform c next.2 reply).2, ?_, setting_called made here⟩
  rw [offers]
  simp only [cannonEvent, here, acted]

theorem timing_runs (answers : Answers) : timing.Runs World.step answers.Gives Reachable period where
  offered := by
    intro w h reachable pending
    cases h with
    | reloadTimer c =>
        obtain ⟨y, here, armed⟩ := (Option.any_eq_true _ _).mp pending
        obtain ⟨which, timer⟩ := Option.isSome_iff_exists.mp armed
        obtain ⟨next, acted⟩ : ∃ next, y.step .reloadTimer = some next := by
          cases which <;> simp [Cannon.step, timer]
        obtain ⟨result, output, offered, set⟩ :=
          cannon_runs (.reloadTimer c) here rfl rfl acted Cannon.setsReload
        exact ⟨.reloadTimer c, result, output, rfl, trivial, offered, .inl set⟩
    | burstFireTimer c =>
        obtain ⟨y, here, armed⟩ := (Option.any_eq_true _ _).mp pending
        obtain ⟨_, timer⟩ := Option.isSome_iff_exists.mp armed
        obtain ⟨⟨y', outcome⟩, acted⟩ : ∃ next, y.step .burstFireTimer = some next := by
          simp [Cannon.step, timer]
        obtain ⟨result, output, offered, set⟩ :=
          cannon_runs (.burstFireTimer c (answers.reply w c)) here rfl rfl acted Cannon.setsBurst
        refine ⟨.burstFireTimer c (answers.reply w c), result, output, rfl, rfl, offered, ?_⟩
        rw [show timing.sets ⟨w, .burstFireTimer c (answers.reply w c), output, result⟩ (.burstFireTimer c) = _ from set,
          Cannon.setsBurst_eq acted]
        simp only [Cannon.step, timer, Cannon.burstFire] at acted
        split at acted
        · cases acted
          exact .inl rfl
        · cases acted
          exact .inr (.inl ⟨_, rfl⟩)
    | moveTimer j =>
        obtain ⟨q, found, armed⟩ := (Option.any_eq_true _ _).mp pending
        obtain ⟨flight, timer⟩ := Option.isSome_iff_exists.mp armed
        let forward := answers.forward w j
        have after : (w.updateProjectile j (Projectile.move forward)).projectiles[j]? = some (q.move forward) := by
          simp [updateProjectile, found]
        refine ⟨.move j forward, w.updateProjectile j (Projectile.move forward), {}, rfl, rfl, ?_, .inr (.inr ?_)⟩
        · simp [step, onProjectile, found, armed]
        · refine ⟨?_, ?_, ?_⟩
          · simpa [period, found] using ((reachable.armed found).move flight timer).2
          · have level : started j ⟨w, .move j forward, {}, w.updateProjectile j (Projectile.move forward)⟩ = false := by
              simp [started, found, after, Projectile.move]
            have set : timing.sets ⟨w, .move j forward, {}, w.updateProjectile j (Projectile.move forward)⟩
                (.moveTimer j) = .again (q.move forward).moveRate := flightSetting_moved after level rfl
            simpa [period, found, Projectile.move] using set
          · simp [period, after, found, Projectile.move]
    | deactivateTimer j =>
        obtain ⟨q, found, armed⟩ := (Option.any_eq_true _ _).mp pending
        have after : (w.updateProjectile j Projectile.deactivate).projectiles[j]? = some q.deactivate := by
          simp [updateProjectile, found]
        refine ⟨.deactivateTimer j, w.updateProjectile j Projectile.deactivate, {}, rfl, trivial, ?_, .inl ?_⟩
        · simp [step, onProjectile, found, armed]
        · have level : started j ⟨w, .deactivateTimer j, {}, w.updateProjectile j Projectile.deactivate⟩ = false := by
            simp [started, found, after, Projectile.deactivate]
          have set : flightSetting (·.deactivateTime) (fun _ => .kept) j
              ⟨w, .deactivateTimer j, {}, w.updateProjectile j Projectile.deactivate⟩ = .cleared :=
            flightSetting_stopped after level rfl
          exact set

/-- From every state that a level can come to, the timers of its cannons and projectiles
carry it through any frames, whatever the engine answers. -/
theorem level_playable (answers : Answers) {s s' : Clocked World Handle Scalar} {trace : Timeline} (begins : Begins s)
    (run : Run (timing.clock World.step) s trace s') {frames : List Scalar} (forward : ∀ elapsed ∈ frames, 0 ≤ elapsed) :
    ∃ final rest, Run (timing.clock World.step) s (trace ++ rest) final ∧ timing.CallbacksOnly answers.Gives rest ∧
      Timing.ticks rest = frames ∧ final.now = s'.now + frames.sum := by
  have known := (timing_lawful.run_agrees begins.reachable begins.agrees run).1
  obtain ⟨final, rest, more, only, ticked, _⟩ := (timing_runs answers).playOn timing_lawful known.1 known.2 forward
  refine ⟨final, rest, run.append more, only, ticked, ?_⟩
  rw [Timing.run_now more, ticked]

/-- Every projectile flies along the first axis, every muzzle is at the origin. -/
def alongFirst : Answers := ⟨fun _ _ => ⟨1, 0, 0⟩, fun _ _ => {}⟩

/-- After the shot the level is played on for a second, in two frames. -/
theorem level_playable_opening :
    ∃ final rest, Run (timing.clock World.step) ⟨skirmish, 0, fun _ => none⟩ (openingRun.1 ++ rest) final ∧
      timing.CallbacksOnly alongFirst.Gives rest ∧ Timing.ticks rest = [1 / 2, 1 / 2] ∧
        final.now = openingRun.2.now + [(1 / 2 : Scalar), 1 / 2].sum := by
  have forward : ∀ elapsed ∈ [(1 / 2 : Scalar), 1 / 2], 0 ≤ elapsed := by decide +kernel
  exact level_playable alongFirst ⟨skirmish_initial, fun _ => rfl⟩ (perform_run _ _ _) forward

end TankoGeddon.World
