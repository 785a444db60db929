import TankoGeddon.Cannon.Ledger
import TankoGeddon.World.Mirror

/-! What a shot is charged for.

The cannon pays for the attempt: nothing of it depends on whether a projectile was
created. A cannon in its level therefore goes through the states of a cannon by
itself, under every pattern of answers to its launches.
-/

set_option autoImplicit false

namespace TankoGeddon

open Foundation (Run Step perform_run)

namespace Cannon

/-- Only a trace cannon traces. -/
theorem traced_kind {y : Cannon} {event : Event} {next : Cannon × Outcome} (acted : y.step event = some next)
    (traced : next.2 = .traced) : y.cannonType = .fireTrace := by
  have pressed : ∀ which, y.step (press which) = some next → y.cannonType = .fireTrace := by
    intro which acted
    rcases press_outcome acted with refused | ⟨_, launched⟩ | ⟨kind, _⟩ | ⟨_, burst⟩
    · cases refused.symm.trans traced
    · rw [traced, launch] at launched
      split at launched <;> cases launched
    · exact kind
    · rw [traced, burstFire] at burst
      split at burst <;> cases burst
  cases event with
  | fire => exact pressed .main acted
  | alternateFire => exact pressed .alternate acted
  | reloadTimer =>
      simp only [step] at acted
      split at acted <;> cases acted <;> cases traced
  | burstFireTimer =>
      simp only [step, burstFire] at acted
      split at acted
      · split at acted <;> cases acted <;> cases traced
      · cases acted
  | increaseAmmoValue ammoValue =>
      simp only [step] at acted
      split at acted <;> cases acted
      cases traced

/-- A press of a single-shot trigger that was not refused. -/
structure Charged (y y' : Cannon) (which : Reload) : Prop where
  paid : y'.currentAmmo = y.currentAmmo - roundCost y.cannonType
  shut : which = .main ∨ y.cannonType = .fireProjectile → y'.gate which = false

theorem Transition.charge {y y' : Cannon} {which : Reload} {outcome : Outcome}
    (move : Transition y (press which) y' outcome) (single : y.cannonType ≠ .fireMultiProjectile) :
    if y.gate which = true ∧ y.HasAmmo then Charged y y' which else y' = y := by
  generalize pressed : press which = event at move
  cases move with
  | refused which' shut =>
      obtain rfl : which = which' := by cases which <;> cases which' <;> first | rfl | cases pressed
      rw [if_neg]
      rintro ⟨ready, ammo⟩
      rcases shut with shut | empty
      · cases shut.symm.trans ready
      · exact empty ammo
  | shot which' _ _ ready ammo =>
      obtain rfl : which = which' := by cases which <;> cases which' <;> first | rfl | cases pressed
      rw [if_pos ⟨ready, ammo⟩]
      cases which with
      | main => exact ⟨rfl, fun _ => rfl⟩
      | alternate =>
          by_cases kind : y.cannonType = .fireProjectile
          · refine ⟨?_, fun _ => ?_⟩ <;> simp [closeGate, pay, armReload, gate, kind]
          · refine ⟨?_, ?_⟩
            · simp [closeGate, pay, armReload, kind]
            · rintro (main | projectile)
              · cases main
              · exact absurd projectile kind
  | pressShot _ multi | pressDone _ multi => exact absurd multi single
  | timerShot | timerDone | reload | resupply => cases which <;> cases pressed

end Cannon

namespace World

open Cannon (press roundCost Charged Balanced)

/-- The level has this cannon, and it launches projectiles. -/
def Mounts (c : CannonId) (w : World) (y : Cannon) : Prop :=
  w.cannons[c]? = some y ∧ y.cannonType ≠ .fireTrace

theorem drive_follows {w w' : World} {c : CannonId} {event : Cannon.Event × Reply} {report : Report}
    {y : Cannon} (taken : w.drive c event = some (w', report)) (mounts : Mounts c w y) :
    ∃ y' outcome, y.step event.1 = some (y', outcome) ∧ Mounts c w' y' := by
  obtain ⟨here, launcher⟩ := mounts
  obtain ⟨y₀, next, here', acted, same⟩ := cannonEvent_cases taken
  obtain rfl : y = y₀ := Option.some.inj (here.symm.trans here')
  have untraced : next.2 ≠ .traced := fun traced => launcher (Cannon.traced_kind acted traced)
  have config := (Cannon.step_transition acted).config
  refine ⟨next.1, next.2, acted, ?_, ?_⟩
  · have after := congrArg (fun result => result.1.cannons[c]?) same
    simp only [(perform_frame _ c event.2 untraced).2.1] at after
    rw [after]
    simp [updateCannon, here]
  · rw [congrArg CannonClass.cannonType config]
    exact launcher

/-- The steps of one cannon by itself, seen in a level. -/
abbrev Seen (c : CannonId) : Step World (Cannon.Event × Reply) Report → Step Cannon Cannon.Event Outcome → Prop :=
  Step.Follows (Mounts c) Prod.fst

/-- A cannon that is driven in its level runs by itself. -/
theorem drive_alone {w w' : World} {c : CannonId} {y : Cannon}
    {trace : List (Step World (Cannon.Event × Reply) Report)} (mounts : Mounts c w y)
    (run : Run (drive c) w trace w') :
    ∃ own final, Run Cannon.step y own final ∧ Mounts c w' final ∧ List.Forall₂ (Seen c) trace own := by
  refine run.followed (Mounts c) Prod.fst ?_ mounts
  intro _ _ _ _ _ taken mounts
  exact drive_follows taken mounts

/-- The attempt is charged, single shots when they are pressed and bursts when they
complete, and what became of the launches makes no difference to the cannon. -/
theorem attempt_charged {w w' : World} {c : CannonId} {y : Cannon}
    {trace : List (Step World (Cannon.Event × Reply) Report)} (here : w.cannons[c]? = some y)
    (launcher : y.cannonType ≠ .fireTrace) (run : Run (drive c) w trace w') :
    ∃ own final, Run Cannon.step y own final ∧
      (y.cannonType ≠ .fireMultiProjectile → ∀ u ∈ own, ∀ which, u.event = press which →
        if u.before.gate which = true ∧ u.before.HasAmmo then Charged u.before u.after which
        else u.after = u.before) ∧
      (y.cannonType = .fireMultiProjectile → Balanced y final own) ∧
      ∀ (v v' : World) (i : CannonId) (other : List (Step World (Cannon.Event × Reply) Report)),
        v.cannons[i]? = some y → Run (drive i) v other v' →
        other.map (·.event.1) = trace.map (·.event.1) →
        v'.cannons[i]? = some final ∧ List.Forall₂ (Seen i) other own := by
  obtain ⟨own, final, alone, _, each⟩ := drive_alone ⟨here, launcher⟩ run
  refine ⟨own, final, alone, ?_, Cannon.run_balanced alone, ?_⟩
  · intro single u member which pressed
    have move := Cannon.step_transition (alone.taken member)
    have config := ((Cannon.run_config alone).2 u member).1
    rw [pressed] at move
    exact move.charge (by rw [congrArg CannonClass.cannonType config]; exact single)
  · intro v v' i other there run' same
    obtain ⟨own', final', alone', last, each'⟩ := drive_alone ⟨there, launcher⟩ run'
    have events : own'.map (·.event) = own.map (·.event) := by
      rw [Step.Follows.events each, Step.Follows.events each']
      exact same
    obtain ⟨rfl, rfl⟩ := alone.determined alone' events
    exact ⟨last.1, each'⟩

/-- A pawn with a cannon of the type. -/
def garrison (cannonType : ECannonType) : World :=
  { pawns := [
      { cannonClass := some { cannonType, projectileClass := some {}, projectilePoolClass := none }
        alternateCannonClass := none }] }

def deployed (cannonType : ECannonType) : World :=
  (Foundation.perform World.step (garrison cannonType) [.beginPlay 0 {} {}]).2

def Reachable (w : World) : Prop :=
  ∃ start trace, start.Initial ∧ Run World.step start trace w

theorem deployed_reachable (cannonType : ECannonType) : Reachable (deployed cannonType) :=
  ⟨_, _, ⟨rfl, rfl, rfl, by simp [garrison]⟩, perform_run _ _ _⟩

def failing : Reply := { spawned := false }

/-- Four presses, one of them answered by a projectile. -/
def shortage : List (Cannon.Event × Reply) :=
  [(.fire, failing), (.reloadTimer, {}), (.fire, {}), (.reloadTimer, {}), (.alternateFire, failing), (.fire, failing)]

theorem attempt_charged_shortage :
    (deployed .fireSPProjectile).cannons[0]?.any (·.currentAmmo == 120) = true ∧
      ∃ final, (Foundation.perform (drive 0) (deployed .fireSPProjectile) shortage).2.cannons[0]? = some final ∧
        (Foundation.perform (drive 0) (deployed .fireSPProjectile)
          (shortage.map fun event => (event.1, {}))).2.cannons[0]? = some final := by
  obtain ⟨y, here, launcher⟩ : ∃ y, (deployed .fireSPProjectile).cannons[0]? = some y ∧
      y.cannonType ≠ .fireTrace := ⟨_, rfl, by decide +kernel⟩
  obtain ⟨_, final, _, _, _, every⟩ := attempt_charged here launcher (perform_run (drive 0) _ shortage)
  refine ⟨by decide +kernel, final, (every _ _ _ _ here (perform_run _ _ _) rfl).1,
    (every _ _ _ _ here (perform_run _ _ _) (by decide +kernel)).1⟩

-- No projectile leaves the cannon, and the magazine is short by the shot, by the burst.
theorem failed_launch_charged :
    (¬ ∀ (w w' : World) (c : CannonId) (y : Cannon) (event : Cannon.Event) (reply : Reply) (report : Report),
      Reachable w → w.cannons[c]? = some y →
      (y.cannonType = .fireProjectile ∨ y.cannonType = .fireSPProjectile) →
      (event = .fire ∨ event = .alternateFire) → w.drive c (event, reply) = some (w', report) →
      w'.projectiles = w.projectiles →
      w'.cannons[c]?.map (fun y => (y.currentAmmo, y.bMainCanFire, y.bAlternateCanFire)) =
        some (y.currentAmmo, y.bMainCanFire, y.bAlternateCanFire)) ∧
    ¬ ∀ (w w' : World) (c : CannonId) (y : Cannon) (trace : List (Step World (Cannon.Event × Reply) Report)),
      Reachable w → w.cannons[c]? = some y → y.cannonType = .fireMultiProjectile → y.currentShot = 0 →
      Run (drive c) w trace w' → (∀ t ∈ trace, t.event.1 = .fire ∨ t.event.1 = .burstFireTimer) →
      (∀ t ∈ trace, t.after.projectiles = t.before.projectiles) →
      w'.cannons[c]?.map (·.currentShot) = some 0 →
      w'.cannons[c]?.map (·.currentAmmo) = some y.currentAmmo := by
  constructor
  · intro claim
    have uncharged := claim (deployed .fireProjectile) _ 0 _ .fire failing _ (deployed_reachable _) rfl
      (.inl rfl) (.inl rfl) rfl rfl
    exact absurd uncharged (by decide +kernel)
  · intro claim
    have uncharged := claim (deployed .fireMultiProjectile) _ 0 _ _ (deployed_reachable _) rfl rfl rfl
      (perform_run (drive 0) _ [(.fire, failing), (.burstFireTimer, failing), (.burstFireTimer, failing),
        (.burstFireTimer, failing)]) (by decide +kernel) (by decide +kernel) (by decide +kernel)
    exact absurd uncharged (by decide +kernel)

end World

end TankoGeddon
