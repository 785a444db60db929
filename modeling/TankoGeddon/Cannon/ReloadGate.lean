import TankoGeddon.Cannon.Ammo

/-! The reload gate of a main weapon, which only ever sees `Fire`.

A single shot closes the gate until `MainReload`. A burst leaves both flags set,
so nothing stops a press from stealing the next shot of a running burst. The gate
holds over a run exactly when no press lands inside a burst.
-/

set_option autoImplicit false

namespace TankoGeddon.Cannon

open Foundation (Timer Run Step perform perform_run)

variable {c c' : Cannon} {event : Event} {outcome : Outcome}

/-- What the next discharge must wait for. -/
def opens : Outcome → Bool
  | .reloaded .main | .burstCompleted => true
  | _ => false

/-- Between two presses that discharge, `MainReload` or the completion branch of
`BurstFire` has run, and no press discharges while a burst is running. -/
structure ReloadGated (trace : List (Step Cannon Event Outcome)) : Prop where
  between : ∀ early t middle u late, trace = early ++ t :: middle ++ u :: late →
    t.event = .fire → t.output.discharges = true → u.event = .fire → u.output.discharges = true →
    ∃ r ∈ middle, opens r.output = true
  idle : ∀ t ∈ trace, t.event = .fire → t.output.discharges = true → t.before.currentShot = 0

/-- A burst has shots left and the ammo test would pass. -/
def MidBurst (c : Cannon) : Prop :=
  c.cannonType = .fireMultiProjectile ∧ 0 < c.currentShot ∧ c.currentShot < c.burstFireRate ∧
    3 ≤ c.currentAmmo

/-- The main trigger is held back: by its flag, or by a running burst. -/
def Held (c : Cannon) : Prop :=
  if c.cannonType = .fireMultiProjectile then 0 < c.currentShot else c.bMainCanFire = false

/-- A multi-projectile cannon never closes its gates. -/
def OpenMulti (c : Cannon) : Prop :=
  c.cannonType = .fireMultiProjectile → c.bMainCanFire = true ∧ c.bAlternateCanFire = true

theorem BegunPlay.openMulti (begun : c.BegunPlay) : c.OpenMulti :=
  fun _ => ⟨begun.main, begun.alternate⟩

theorem Transition.openMulti (move : Transition c event c' outcome) (opened : c.OpenMulti) :
    c'.OpenMulti := by
  have config := move.config
  intro multi
  have before : c.cannonType = .fireMultiProjectile := by
    rw [← congrArg CannonClass.cannonType config]; exact multi
  obtain ⟨main, alternate⟩ := opened before
  cases move with
  | shot _ _ single => exact absurd before single
  | reload which => cases which <;> simp [reloadBy, mainReload, alternateReload, main, alternate]
  | refused | pressShot | timerShot | resupply => exact ⟨main, alternate⟩
  | pressDone | timerDone => exact ⟨rfl, rfl⟩

section Gate

-- What the run knows of every state it visits.
structure Gated (c : Cannon) : Prop where
  only : c.BurstOnlyMulti
  opened : c.OpenMulti
  count : c.BurstCount
  interval : 0 < c.burstFireInterval

theorem Transition.gated (move : Transition c event c' outcome) (gated : c.Gated) : c'.Gated where
  only := move.burstOnlyMulti gated.only
  opened := move.openMulti gated.opened
  count := move.burstCount gated.interval gated.count
  interval := by rw [congrArg CannonClass.burstFireInterval move.config]; exact gated.interval

theorem Gated.run {start final : Cannon} {trace : List (Step Cannon Event Outcome)}
    (gated : start.Gated) (run : Run step start trace final) :
    ∀ t ∈ trace, t.before.Gated ∧ t.after.Gated :=
  (run.invariant Gated gated fun _ _ taken before => (step_transition taken).gated before).2

/-- A discharging press leaves the trigger held. -/
theorem Transition.held_of_discharge (move : Transition c .fire c' outcome) (gated : c.Gated)
    (discharges : outcome.discharges = true) : c'.Held := by
  generalize pressed : Event.fire = event at move
  cases move with
  | refused | pressDone => cases discharges
  | shot which _ single =>
      cases which with
      | main => simp [Held, armReload, closeGate, pay, single]
      | alternate => cases pressed
  | pressShot which multi =>
      have nonneg := gated.count.nonneg
      simp only [Held, armReload, nextShot, multi, if_true]
      omega
  | timerShot | timerDone | reload | resupply => cases pressed

/-- Only a reload of the main trigger or the end of the burst releases it. -/
theorem Transition.held (move : Transition c event c' outcome) (gated : c.Gated) (held : c.Held)
    (shut : opens outcome = false) : c'.Held := by
  unfold Held at held ⊢
  rw [congrArg CannonClass.cannonType move.config]
  by_cases multi : c.cannonType = .fireMultiProjectile
  · rw [if_pos multi] at held ⊢
    cases move with
    | refused | resupply => exact held
    | shot _ _ single => exact absurd multi single
    | pressShot | timerShot => simp only [armReload, nextShot]; omega
    | pressDone | timerDone => cases shut
    | reload which => cases which <;> exact held
  · rw [if_neg multi] at held ⊢
    cases move with
    | refused | resupply => exact held
    | shot which =>
        cases which with
        | main => rfl
        | alternate => simp only [closeGate]; split <;> simp [armReload, pay, held]
    | pressShot _ burst | pressDone _ burst => exact absurd burst multi
    | timerShot pending | timerDone pending => exact absurd (gated.only.multi_of_pending pending) multi
    | reload which =>
        cases which with
        | main => cases shut
        | alternate => exact held

/-- A held trigger discharges only inside a burst. -/
theorem Transition.midBurst_of_held (move : Transition c .fire c' outcome) (gated : c.Gated)
    (held : c.Held) (discharges : outcome.discharges = true) : c.MidBurst := by
  generalize pressed : Event.fire = event at move
  cases move with
  | refused | pressDone => cases discharges
  | shot which _ single ready =>
      cases which with
      | main =>
          rw [Held, if_neg single] at held
          rw [gate, held] at ready
          cases ready
      | alternate => cases pressed
  | pressShot _ multi _ ammo more =>
      rw [Held, if_pos multi] at held
      exact ⟨multi, held, by have := gated.count.le_rate; omega, ammo.multi multi⟩
  | timerShot | timerDone | reload | resupply => cases pressed

/-- Outside a burst nothing is running when a press discharges. -/
theorem Transition.idle_of_discharge (move : Transition c .fire c' outcome) (gated : c.Gated)
    (outside : ¬ c.MidBurst) (discharges : outcome.discharges = true) : c.currentShot = 0 := by
  by_cases multi : c.cannonType = .fireMultiProjectile
  · by_contra running
    have nonneg := gated.count.nonneg
    have held : c.Held := by rw [Held, if_pos multi]; omega
    exact outside (move.midBurst_of_held gated held discharges)
  · exact (gated.only multi).1

/-- A press inside a burst takes its next shot. -/
theorem MidBurst.steals (inside : c.MidBurst) (gated : c.Gated) :
    c.fire.2.discharges = true ∧ c.currentShot ≠ 0 := by
  obtain ⟨multi, running, more, ammo⟩ := inside
  have opened := (gated.opened multi).1
  refine ⟨?_, by omega⟩
  simp [fire, opened, multi, burstFire, Outcome.discharges, show ¬ c.currentAmmo < 3 by omega,
    show c.currentShot ≠ c.burstFireRate by omega]

/-- From a discharging press on, the trigger stays held until something opens it. -/
theorem held_through {start final : Cannon} {trace : List (Step Cannon Event Outcome)}
    (run : Run step start trace final) (gated : start.Gated) (held : start.Held)
    (shut : ∀ r ∈ trace, opens r.output = false) : final.Gated ∧ final.Held :=
  (run.invariant (fun c => c.Gated ∧ c.Held) ⟨gated, held⟩ fun t member taken before =>
    ⟨(step_transition taken).gated before.1,
      (step_transition taken).held before.1 before.2 (shut t member)⟩).1

end Gate

/-- A run of a main cannon is gated exactly when no press lands inside a burst. -/
theorem reloadGated_iff {start final : Cannon} {trace : List (Step Cannon Event Outcome)}
    (begun : start.BegunPlay) (interval : 0 < start.burstFireInterval) (rate : 0 ≤ start.burstFireRate)
    (run : Run step start trace final) :
    ReloadGated trace ↔ ∀ t ∈ trace, t.event = .fire → ¬ t.before.MidBurst := by
  have gated : start.Gated :=
    ⟨begun.burstOnlyMulti, begun.openMulti, begun.burstCount rate, interval⟩
  have each := gated.run run
  constructor
  · intro law t member pressed inside
    have taken := run.taken member
    rw [pressed] at taken
    have stolen := inside.steals (each t member).1
    have fired : t.output = t.before.fire.2 := (congrArg Prod.snd (Option.some.inj taken)).symm
    exact stolen.2 (law.idle t member pressed (by rw [fired]; exact stolen.1))
  · intro outside
    constructor
    · intro early t middle u late parts first firstDischarges second secondDischarges
      -- Were nothing to open the trigger in between, it would still be held at the second press.
      by_contra none
      have shut : ∀ r ∈ middle, opens r.output = false := by
        intro r member
        by_contra opened
        exact none ⟨r, member, by simpa using opened⟩
      subst parts
      have tMember : t ∈ early ++ t :: middle ++ u :: late := by simp
      have uMember : u ∈ early ++ t :: middle ++ u :: late := by simp
      have tMove := step_transition (run.taken tMember)
      have uMove := step_transition (run.taken uMember)
      rw [first] at tMove
      rw [second] at uMove
      have between : Run step t.after middle u.before := by
        rw [List.append_assoc, List.cons_append] at run
        exact run.cut.2.cut.1
      have held := tMove.held_of_discharge (each t tMember).1 firstDischarges
      obtain ⟨uGated, uHeld⟩ := held_through between (each t tMember).2 held shut
      exact outside u uMember second (uMove.midBurst_of_held uGated uHeld secondDischarges)
    · intro t member pressed discharges
      have move := step_transition (run.taken member)
      rw [pressed] at move
      exact move.idle_of_discharge (each t member).1 (outside t member pressed) discharges

-- Two single shots a reload apart: no press is inside a burst, so the run is gated.
theorem reloadGated_iff_reloaded :
    ReloadGated (perform step (ready .fireTrace 20 3) [.fire, .fire, .reloadTimer, .fire]).1 :=
  (reloadGated_iff (ready_begun _ _ _) (by decide +kernel) (by decide) (perform_run _ _ _)).mpr
    (by unfold MidBurst; decide +kernel)

-- The second press of a burst of three, before any callback has run.
theorem fire_inside_burst :
    ¬ ∀ (start final : Cannon) (trace : List (Step Cannon Event Outcome)), start.BegunPlay →
      0 < start.reloadTime → 0 < start.burstFireInterval → 1 ≤ start.burstFireRate →
      Run step start trace final → (∀ t ∈ trace, t.event ≠ .alternateFire) → ReloadGated trace := by
  intro claim
  have gated := claim (ready .fireMultiProjectile 120 3) _ _ (ready_begun _ _ _) (by decide +kernel)
    (by decide +kernel) (by decide) (perform_run step _ [.fire, .fire]) (by decide +kernel)
  obtain ⟨_, member, _⟩ := gated.between [] _ [] _ [] rfl rfl rfl rfl rfl
  cases member

end TankoGeddon.Cannon
