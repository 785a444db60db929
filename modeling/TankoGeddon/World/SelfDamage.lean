import TankoGeddon.World.Credit

/-! When a pawn is hit by its own armament.

The exclusion at impact follows the owner links of the moment. A pool element has
none, and a destroyed cannon has lost the one to its pawn.
-/

set_option autoImplicit false

namespace TankoGeddon

open Foundation (Run Step perform_run)

namespace World

/-- A call of `TakeDamage` on `p` made by a projectile or trace of a cannon of `p`. -/
def SelfDamage (t : Step World Event Report) (p : PawnId) : Prop :=
  ∃ data, t.output.damage = some ⟨p, data⟩ ∧ t.before.armedBy data.damageMaker = some p

/-- The overlap of `p` by a projectile of `p` that is a pool element or whose
cannon has been destroyed. -/
def Unprotected (w : World) (event : Event) (p : PawnId) : Prop :=
  ∃ j c y, event = .meshOverlapBegin j (.pawn p) ∧ w.launcherOf j = some c ∧ w.cannons[c]? = some y ∧
    y.instigator = some p ∧
    ((∃ pool ∈ w.pools, j ∈ pool.projectilePool) ∨ y.bActorIsBeingDestroyed = true)

theorem overlap_damage {w : World} {j : ProjectileId} {q : Projectile} {v : PawnId}
    (found : w.projectiles[j]? = some q) (there : v < w.pawns.length)
    (clear : w.excludes q.owner (.pawn v) = false) :
    (w.onMeshOverlapBegin j (.pawn v)).2.damage = some ⟨v, q.damage, q.owner, some (.projectile j)⟩ := by
  rcases overlap_cases found (.pawn v) with ⟨_, excluded | missed⟩ | ⟨v', same, _, _, dealt⟩
  · cases clear.symm.trans excluded
  · exact absurd there (missed v rfl)
  · obtain rfl := Actor.pawn.inj same
    rw [dealt]
    rfl

theorem source_unprotected {w : World} {event : Event} {p : PawnId} {data : FDamageData}
    (wired : w.links.Wired) (source : w.Source event ⟨p, data⟩)
    (own : w.armedBy data.damageMaker = some p) : w.Unprotected event p := by
  cases source with
  | @projectile j q _ found there clear =>
      obtain ⟨c, launched, spawned⟩ := Option.bind_eq_some_iff.mp own
      obtain ⟨y, here, instigator⟩ := Option.bind_eq_some_iff.mp spawned
      refine ⟨j, c, y, rfl, launched, here, instigator, ?_⟩
      have launcher : q.launcher = some c := by simpa [launcherOf, found] using launched
      rcases wired.projectile j q.link (projectile_link found) with ⟨pooled, _⟩ | ⟨_, c', _, same⟩
      · exact .inl (by simpa [Links.Pooled, links] using pooled)
      · have launcher' : q.launcher = some c' := congrArg ProjectileLink.launcher same
        have owner : q.owner = some (.cannon c') := congrArg ProjectileLink.owner same
        obtain rfl : c' = c := Option.some.inj (launcher'.symm.trans launcher)
        rw [owner] at clear
        right
        by_contra living
        have passes := (excludes_cannon wired here).mpr ⟨by simpa using living, instigator⟩
        cases clear.symm.trans passes
  | @trace _ _ c y _ reads hit found living clear =>
      have spawned : y.instigator = some p := by simpa [armedBy, found] using own
      have passes := excludes_own wired found living spawned
      cases clear.symm.trans passes
  | unarmed => cases own

theorem unprotected_damage {t : Step World Event Report} {p : PawnId} (wired : t.before.links.Wired)
    (taken : t.before.step t.event = some (t.after, t.output)) (there : p < t.before.pawns.length)
    (unprotected : t.before.Unprotected t.event p) : SelfDamage t p := by
  obtain ⟨j, c, y, overlap, launched, here, instigator, how⟩ := unprotected
  obtain ⟨q, found, launcher⟩ := Option.bind_eq_some_iff.mp launched
  have clear : t.before.excludes q.owner (.pawn p) = false := by
    rcases wired.projectile j q.link (projectile_link found) with ⟨_, bare, _⟩ | ⟨free, c', _, same⟩
    · have owner : q.owner = none := bare
      rw [owner]
      rfl
    · have launcher' : q.launcher = some c' := congrArg ProjectileLink.launcher same
      have owner : q.owner = some (.cannon c') := congrArg ProjectileLink.owner same
      obtain rfl : c' = c := Option.some.inj (launcher'.symm.trans launcher)
      have dead : y.bActorIsBeingDestroyed = true :=
        how.resolve_left fun pooled => free (by simpa [Links.Pooled, links] using pooled)
      rw [owner, Bool.eq_false_iff]
      intro passes
      rw [((excludes_cannon wired here).mp passes).1] at dead
      cases dead
  have size : j < t.before.projectiles.length := (List.getElem?_eq_some_iff.mp found).1
  have damage := overlap_damage found there clear
  simp only [overlap, step, if_pos size, Option.some.injEq] at taken
  rw [taken] at damage
  refine ⟨_, damage, ?_⟩
  simp [armedBy, launched, here, instigator]

/-- A step calls `TakeDamage` on a pawn from its own armament exactly when it is an
unprotected overlap. Traces, bursts and unpooled shots of a cannon that still
exists never do. -/
theorem selfDamage_iff {w w' : World} {trace : List (Step World Event Report)}
    (initial : w.Initial) (run : Run World.step w trace w') :
    ∀ t ∈ trace, ∀ p, p < t.before.pawns.length →
      (SelfDamage t p ↔ t.before.Unprotected t.event p) := by
  intro t member p there
  have wired := ((run_wired initial run).2 t member).1
  have taken := run.taken member
  constructor
  · rintro ⟨data, shows, own⟩
    exact source_unprotected wired (damage_source wired taken shows) own
  · exact unprotected_damage wired taken there

/-- The pawn shoots and its own projectile overlaps it at the muzzle. -/
def muzzleShot : List Event := [.beginPlay 0 {} {}, .fire 0 {}, .meshOverlapBegin 0 (.pawn 0)]

def muzzleTrace (projectilePoolClass : Option PoolClass) : List (Step World Event Report) :=
  (Foundation.perform World.step (duel projectilePoolClass) muzzleShot).1

theorem muzzle_pooled_hits : 2 < (muzzleTrace duelPool).length := by decide +kernel

theorem selfDamage_iff_pooled : SelfDamage ((muzzleTrace duelPool).get ⟨2, muzzle_pooled_hits⟩) 0 :=
  (selfDamage_iff (duel_initial duelPool) (perform_run _ _ muzzleShot) _ (List.get_mem _ _) 0
    (by decide +kernel)).mpr
    ⟨0, 0, (((muzzleTrace duelPool).get ⟨2, muzzle_pooled_hits⟩).before.cannons.get
      ⟨0, by decide +kernel⟩), rfl, by decide +kernel, by decide +kernel, by decide +kernel,
      .inl (by decide +kernel)⟩

-- A pool element has no owner to be excluded by.
theorem pooled_self_damage :
    ¬ ∀ (w w' : World) (trace : List (Step World Event Report)), w.Initial →
      Run World.step w trace w' → ∀ t ∈ trace, ∀ p, ¬ SelfDamage t p := by
  intro claim
  exact claim (duel duelPool) _ _ (duel_initial duelPool) (perform_run _ _ muzzleShot) _
    (List.get_mem _ ⟨2, muzzle_pooled_hits⟩) 0
    ⟨⟨10, none, some (.projectile 0)⟩, by decide +kernel, by decide +kernel⟩

end World

end TankoGeddon
