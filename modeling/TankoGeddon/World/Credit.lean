import TankoGeddon.World.Effects

/-! Which kills are credited.

The credit travels over bindings: from the projectile to the cannon that launched
it, from the cannon to its pawn. `SpawnActor` launches make the first, only the
main half of `SetupCannon` makes the second, and both end with the cannon. Pooled
projectiles, traces, alternate cannons and replaced cannons are left out.
-/

set_option autoImplicit false

namespace TankoGeddon

open Foundation (Run Step perform_run)

namespace World

/-- The step in which damage from the armament of the live pawn `p` destroys
another pawn worth `value`. -/
structure Kill (t : Step World Event Report) (p v : PawnId) (value : Scalar) : Prop where
  shooter : t.before.pawnAlive p = true
  other : p ≠ v
  armament : ∃ data, t.output.damage = some ⟨v, data⟩ ∧ t.before.armedBy data.damageMaker = some p
  alive : t.before.pawnAlive v = true
  destroyed : t.after.pawnAlive v = false
  worth : t.before.pawns[v]?.map MachinePawn.getPoints = some value
  value : value ≠ 0

/-- The overlap of `v` by a projectile that is no pool element and was launched by
the present main cannon of `p`. -/
def MainShot (w : World) (event : Event) (p v : PawnId) : Prop :=
  ∃ j c, event = .meshOverlapBegin j (.pawn v) ∧ (∀ pool ∈ w.pools, j ∉ pool.projectilePool) ∧
    w.launcherOf j = some c ∧ w.pawns[p]?.bind (·.cannon) = some c

theorem backer_iff {w : World} (wired : w.links.Wired) {j : ProjectileId} {p : PawnId}
    (alive : w.pawnAlive p = true) :
    w.links.Backer j p ↔ (∀ pool ∈ w.pools, j ∉ pool.projectilePool) ∧
      ∃ c, w.launcherOf j = some c ∧ w.pawns[p]?.bind (·.cannon) = some c := by
  have pooled : w.links.Pooled j ↔ ∃ pool ∈ w.pools, j ∈ pool.projectilePool := by
    simp [Links.Pooled, links]
  constructor
  · rintro ⟨c, x, projectile, pawn, holds, _⟩
    obtain ⟨q, here, same⟩ := lookup_projectile projectile
    obtain ⟨x₀, before, rfl⟩ := lookup_pawn pawn
    refine ⟨?_, c, ?_, by rw [before]; exact holds⟩
    · rcases wired.projectile j _ projectile with ⟨_, _, bare⟩ | ⟨free, _⟩
      · cases bare
      · intro pool member inside
        exact free (pooled.mpr ⟨pool, member, inside⟩)
    · rw [launcherOf, here]
      exact congrArg ProjectileLink.launcher same
  · rintro ⟨free, c, launched, holds⟩
    obtain ⟨q, here, launcher⟩ := Option.bind_eq_some_iff.mp launched
    obtain ⟨x, found, main⟩ := Option.bind_eq_some_iff.mp holds
    have projectile := projectile_link here
    have pawn := pawn_link found
    refine ⟨c, x.link, ?_, pawn, main, ?_⟩
    · rcases wired.projectile j _ projectile with ⟨inside, _⟩ | ⟨_, c', _, same⟩
      · obtain ⟨pool, member, inside⟩ := pooled.mp inside
        exact absurd inside (free pool member)
      · have launcher' := congrArg ProjectileLink.launcher same
        obtain rfl : c' = c := Option.some.inj (launcher'.symm.trans launcher)
        rw [projectile, same]
    · obtain ⟨x', found', living⟩ := pawnAlive_iff.mp alive
      obtain rfl : x = x' := by simpa [found] using found'
      exact living

/-- A kill is credited in its step exactly when it is a shot of the present main
cannon that took no pool. -/
theorem kill_credited_iff {w w' : World} {trace : List (Step World Event Report)}
    (initial : w.Initial) (run : Run World.step w trace w') :
    ∀ t ∈ trace, ∀ p v value, Kill t p v value →
      (t.after.scoreOf p = t.before.scoreOf p + value ↔ t.before.MainShot t.event p v) := by
  intro t member p v value kill
  have wired := ((run_wired initial run).2 t member).1
  have taken := run.taken member
  obtain ⟨data, shows, _⟩ := kill.armament
  obtain ⟨x, found, worth⟩ := Option.map_eq_some_iff.mp kill.worth
  have victim : t.before.vitals[v]? = some x.vitals := by simp [vitals, found]
  have points : x.vitals.scoreValue = value := worth
  have shot : t.before.MainShot t.event p v ↔
      ∃ j, t.event = .meshOverlapBegin j (.pawn v) ∧ t.before.links.Backer j p := by
    simp only [MainShot, backer_iff wired kill.shooter]
    constructor
    · rintro ⟨j, c, event, free, rest⟩
      exact ⟨j, event, free, c, rest⟩
    · rintro ⟨j, event, free, c, rest⟩
      exact ⟨j, c, event, free, rest⟩
  rw [shot]
  rcases score_change wired taken p with ⟨call, x', shows', _, pays, found', credit⟩ | ⟨unpaid, same⟩
  · obtain rfl : (⟨v, data⟩ : DamageCall) = call := Option.some.inj (shows.symm.trans shows')
    obtain rfl : x.vitals = x' := Option.some.inj (victim.symm.trans found')
    obtain ⟨j, _, event, backer, _⟩ := pays
    rw [credit, points]
    exact ⟨fun _ => ⟨j, event, backer⟩, fun _ => rfl⟩
  · constructor
    · intro credit
      rw [same] at credit
      exact absurd (left_eq_add.mp credit) kill.value
    · rintro ⟨j, event, backer⟩
      refine absurd ⟨j, x.vitals, event, backer, victim, ?_, points ▸ kill.value⟩ (unpaid _ shows)
      have gone := victim_after wired taken shows victim
      obtain ⟨x', after, dead⟩ := Option.map_eq_some_iff.mp gone
      obtain ⟨x₀, here, rfl⟩ : ∃ x₀, t.after.pawns[v]? = some x₀ ∧ x₀.vitals = x' := by
        simpa [vitals] using after
      have destroyed : x₀.bActorIsBeingDestroyed = true := by
        simpa [pawnAlive, here] using kill.destroyed
      rw [← dead]
      exact destroyed

/-- Two pawns, the first with a `FireProjectile` cannon, the second worth 50. -/
def duel (projectilePoolClass : Option PoolClass) : World :=
  { pawns := [
      { cannonClass := some
          { cannonType := .fireProjectile, projectileClass := some {}, projectilePoolClass }
        alternateCannonClass := none },
      { cannonClass := none, alternateCannonClass := none, scoreValue := 50 }] }

theorem duel_initial (projectilePoolClass : Option PoolClass) : (duel projectilePoolClass).Initial :=
  ⟨rfl, rfl, rfl, by simp [duel]⟩

def shootOut : List Event :=
  [.beginPlay 0 {} {}, .beginPlay 1 {} {}, .fire 0 {}, .meshOverlapBegin 0 (.pawn 1)]

def duelTrace (projectilePoolClass : Option PoolClass) : List (Step World Event Report) :=
  (Foundation.perform World.step (duel projectilePoolClass) shootOut).1

theorem duel_hits : 3 < (duelTrace none).length := by decide +kernel

theorem kill_credited_iff_duel :
    ((duelTrace none).get ⟨3, duel_hits⟩).after.scoreOf 0 =
      ((duelTrace none).get ⟨3, duel_hits⟩).before.scoreOf 0 + 50 :=
  (kill_credited_iff (duel_initial none) (perform_run _ _ shootOut) _ (List.get_mem _ _) 0 1 50
    ⟨by decide +kernel, by decide, ⟨⟨10, some (.cannon 0), some (.projectile 0)⟩, by decide +kernel,
      by decide +kernel⟩, by decide +kernel, by decide +kernel, by decide +kernel,
      by decide +kernel⟩).mpr
    ⟨0, 0, rfl, by decide +kernel, by decide +kernel, by decide +kernel⟩

def duelPool : Option PoolClass := some { projectileClass := some {} }

theorem duel_pooled_hits : 3 < (duelTrace duelPool).length := by decide +kernel

-- The same exchange with a pool: the element that hits is bound to nobody.
theorem pooled_kill_uncredited :
    ¬ ∀ (w w' : World) (trace : List (Step World Event Report)), w.Initial →
      Run World.step w trace w' → ∀ t ∈ trace, ∀ p v value, Kill t p v value →
        t.after.scoreOf p = t.before.scoreOf p + value := by
  intro claim
  have credit := claim (duel duelPool) _ _ (duel_initial duelPool) (perform_run _ _ shootOut) _
    (List.get_mem _ ⟨3, duel_pooled_hits⟩) 0 1 50
    ⟨by decide +kernel, by decide, ⟨⟨10, none, some (.projectile 0)⟩, by decide +kernel,
      by decide +kernel⟩, by decide +kernel, by decide +kernel, by decide +kernel, by decide +kernel⟩
  exact absurd credit (by decide +kernel)

end World

end TankoGeddon
