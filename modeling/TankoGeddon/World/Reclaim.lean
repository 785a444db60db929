import TankoGeddon.World.Orphans
import TankoGeddon.World.Reserves

/-! What becomes of a projectile that no longer flies.

`Deactivate` stops a projectile and leaves it where no pool but its own would find
it again. A pool dies with nothing, and is out of reach once its cannon is destroyed.
An element that `GetProjectile` starts with no timer at all keeps its flag up where it
stands: the search passes over it from then on.
-/

set_option autoImplicit false

namespace TankoGeddon

open Foundation (Run Step perform_run)

namespace World

/-- An element of the pool of a live cannon that launches from it. -/
def Shelved (w : World) (j : ProjectileId) : Prop :=
  ∃ (c : CannonId) (y : Cannon) (k : PoolId) (pool : ProjectilePool), w.cannons[c]? = some y ∧
    y.bActorIsBeingDestroyed = false ∧ y.launchesPooled = true ∧ y.projectilePool = some k ∧
    w.pools[k]? = some pool ∧ j ∈ pool.projectilePool

/-- A live cannon can launch it again: `GetProjectile` finds it idle, or will once its
pending `Deactivate` has run. -/
def Stocked (w : World) (j : ProjectileId) : Prop :=
  w.Shelved j ∧ ∃ q, w.projectiles[j]? = some q ∧ (q.bIsActivation = false ∨ q.deactivateTimer.isSome = true)

def idleCount (w : World) : Nat := w.projectiles.countP fun q => q.moveTimer.isNone

/-- The sizes of the live cannons' pools. -/
def poolRoom (w : World) : Nat :=
  ((w.cannons.filter fun y => !y.bActorIsBeingDestroyed).map fun y =>
    ((y.projectilePool.bind (w.pools[·]?)).map (·.projectilePool.length)).getD 0).sum

/-- Every projectile flies or can be launched again, every pool is a live cannon's, and
the idle projectiles fit in the pools. -/
structure Reclaimed (w : World) : Prop where
  projectile : ∀ (j : ProjectileId) (q : Projectile), w.projectiles[j]? = some q →
    q.moveTimer.isSome = true ∨ w.Stocked j
  pool : ∀ k < w.pools.length, ∃ (c : CannonId) (y : Cannon), w.cannons[c]? = some y ∧
    y.bActorIsBeingDestroyed = false ∧ y.projectilePool = some k
  bound : w.idleCount ≤ w.poolRoom

theorem shelved_depot (w : World) (j : ProjectileId) : w.depot.Shelved j ↔ w.Shelved j := by
  constructor
  · rintro ⟨m, member, alive, launches, inside⟩
    obtain ⟨y, known, rfl⟩ := List.mem_map.mp member
    obtain ⟨c, here⟩ := List.mem_iff_getElem?.mp known
    cases holds : y.projectilePool with
    | none => simp [Depot.array, Cannon.mount, holds] at inside
    | some k =>
        cases there : w.pools[k]? with
        | none => simp [Depot.array, Cannon.mount, depot, holds, there] at inside
        | some pool =>
            refine ⟨c, y, k, pool, here, by simpa [Cannon.mount] using alive, launches, holds, there, ?_⟩
            simpa [Depot.array, Cannon.mount, depot, holds, there] using inside
  · rintro ⟨c, y, k, pool, here, alive, launches, holds, there, inside⟩
    refine ⟨y.mount, mount_mem here, by simp [Cannon.mount, alive], launches, ?_⟩
    simpa [Depot.array, Cannon.mount, depot, holds, there] using inside

theorem settled_depot {w : World} {j : ProjectileId} {q : Projectile} (found : w.projectiles[j]? = some q) :
    w.depot.Settled j q.shot ↔ q.moveTimer.isSome = true ∨ w.Stocked j := by
  simp only [Depot.Settled, Projectile.shot, shelved_depot, Stocked, found, Option.some.injEq, exists_eq_left',
    Bool.or_eq_true, Bool.not_eq_true']
  rw [and_comm]

theorem poolRoom_depot (w : World) : w.depot.stock.length = w.poolRoom := by
  have size : ∀ y : Cannon, (w.depot.array y.mount).length =
      ((y.projectilePool.bind (w.pools[·]?)).map (·.projectilePool.length)).getD 0 := by
    intro y
    cases holds : y.projectilePool with
    | none => simp [Depot.array, Cannon.mount, holds]
    | some k => cases there : w.pools[k]? <;> simp [Depot.array, Cannon.mount, depot, holds, there]
  have alive : (fun m : Mount => m.alive) ∘ Cannon.mount = fun y : Cannon => !y.bActorIsBeingDestroyed := rfl
  rw [Depot.stock, List.length_flatMap, poolRoom]
  simp only [depot, List.filter_map, List.map_map, alive]
  congr 2
  funext y
  exact size y

theorem idleCount_depot (w : World) : w.depot.shots.countP (fun shot => !shot.flies) = w.idleCount := by
  simp only [depot, idleCount, List.countP_map]
  congr 1
  funext q
  cases pending : q.moveTimer <;> simp [Projectile.shot, pending]

theorem reclaimed_depot (w : World) : w.depot.Reclaimed ↔ w.Reclaimed := by
  constructor
  · intro before
    refine ⟨?_, ?_, ?_⟩
    · intro j q found
      exact (settled_depot found).mp (before.projectile j q.shot (by simp [depot, found]))
    · intro k there
      obtain ⟨m, member, alive, holds⟩ := before.pool k (by simpa [depot] using there)
      obtain ⟨y, known, rfl⟩ := List.mem_map.mp member
      obtain ⟨c, here⟩ := List.mem_iff_getElem?.mp known
      exact ⟨c, y, here, by simpa [Cannon.mount] using alive, holds⟩
    · rw [← idleCount_depot, ← poolRoom_depot]
      exact before.bound
  · rintro ⟨projectile, pool, -⟩
    refine ⟨?_, ?_⟩
    · intro j shot known
      obtain ⟨q, found, rfl⟩ : ∃ q, w.projectiles[j]? = some q ∧ q.shot = shot := by
        simpa [depot] using known
      exact (settled_depot found).mpr (projectile j q found)
    · intro k there
      obtain ⟨c, y, here, alive, holds⟩ := pool k (by simpa [depot] using there)
      exact ⟨y.mount, mount_mem here, by simp [Cannon.mount, alive], holds⟩

instance (w : World) : Decidable w.Reclaimed := decidable_of_iff _ (reclaimed_depot w)

/-! The steps that lose nothing. -/

/-- The projectile an event ends with `Deactivate`. -/
def Event.retires : Event → Option ProjectileId
  | .deactivateTimer j | .meshOverlapBegin j _ => some j
  | _ => none

theorem Initial.reclaimed {w : World} (initial : w.Initial) : w.depot.Sound ∧ w.Reclaimed := by
  have empty : w.depot = ⟨[], [], []⟩ := by simp [depot, initial.cannons, initial.projectiles, initial.pools]
  rw [← reclaimed_depot, empty]
  exact ⟨⟨by simp, by simp, by simp⟩, by decide⟩

-- A pool whose projectiles neither move nor expire: the first shot is never selected again.
example : ¬ ∀ t ∈ (Foundation.perform World.step
    (duel (some { projectileClass := some { moveRate := 0, deactivateTime := 0 } }))
    [.beginPlay 0 {} {}, .fire 0 {}]).1, t.after.Reclaimed := by decide +kernel

end World

end TankoGeddon
