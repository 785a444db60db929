import TankoGeddon.Projectile

/-! The projectile pool: `GetProjectile`, `SpawnProjectile`, `InitializePool`.

The array holds the numbers of the projectiles the pool spawned; the projectiles
themselves live in the level's list of projectiles, where a spawn appends. Each
spawn takes the engine's answer: whether `SpawnActor` returned an actor.
-/

set_option autoImplicit false

namespace TankoGeddon

structure PoolClass where
  poolSize : Int := 6
  projectileClass : Option ProjectileClass
  deriving DecidableEq

structure ProjectilePool extends PoolClass where
  projectilePool : List ProjectileId := []
  bHaveActiveProjectile : Bool := false
  deriving DecidableEq

/-- What the pool functions read and write. -/
structure PoolState where
  pool : ProjectilePool
  projectiles : List Projectile
  deriving DecidableEq

namespace PoolState

def spawnProjectile (s : PoolState) (spawnLocation : FVector) (spawnRotation : FRotator)
    (bIsActive : Bool) (spawned : Bool) : PoolState :=
  match s.pool.projectileClass, spawned with
  | some cls, true =>
      let projectile := { Projectile.spawn cls spawnLocation spawnRotation with
        bIsActivation := bIsActive
        bActorEnableCollision := bIsActive }
      { pool := { s.pool with projectilePool := s.pool.projectilePool ++ [s.projectiles.length] }
        projectiles := s.projectiles ++ [if bIsActive then projectile.start else projectile] }
  | _, _ => s

/-- The loop test of `GetProjectile`. -/
def isIdle (projectiles : List Projectile) (j : ProjectileId) : Bool :=
  projectiles[j]?.any fun p => p.bIsActivation == false

def firstIdle (s : PoolState) : Option ProjectileId :=
  s.pool.projectilePool.find? (isIdle s.projectiles)

/-- The body of the loop of `GetProjectile` for the element it stops at. -/
def reuse (spawnLocation : FVector) (spawnRotation : FRotator) (p : Projectile) : Projectile :=
  { p with
    location := spawnLocation
    rotation := spawnRotation
    bIsActivation := true
    bActorEnableCollision := true }.start

def getProjectile (s : PoolState) (spawnLocation : FVector) (spawnRotation : FRotator)
    (spawned : Bool) : PoolState :=
  let pool := { s.pool with bHaveActiveProjectile := false }
  match s.firstIdle with
  | some j =>
      { pool := { pool with bHaveActiveProjectile := true }
        projectiles := s.projectiles.modify j (reuse spawnLocation spawnRotation) }
  | none =>
      if pool.bHaveActiveProjectile = false then
        spawnProjectile { s with pool } spawnLocation spawnRotation true spawned
      else { s with pool }

/-- A projectile spawned by a full pool ends up in the state a reused one does. -/
theorem spawnProjectile_active {cls : ProjectileClass} {s : PoolState}
    (source : s.pool.projectileClass = some cls) (location : FVector) (rotation : FRotator) :
    s.spawnProjectile location rotation true true =
      { pool := { s.pool with projectilePool := s.pool.projectilePool ++ [s.projectiles.length] }
        projectiles := s.projectiles ++ [reuse location rotation (.spawn cls location rotation)] } := by
  simp only [spawnProjectile, source]
  rfl

/-- The ways `GetProjectile` can go: an idle element is reused, a new one is
spawned, or the spawn fails and nothing flies. -/
theorem getProjectile_cases (s : PoolState) (location : FVector) (rotation : FRotator)
    (spawned : Bool) :
    (∃ j ∈ s.pool.projectilePool, s.firstIdle = some j ∧ isIdle s.projectiles j = true ∧
      s.getProjectile location rotation spawned =
        { pool := { s.pool with bHaveActiveProjectile := true }
          projectiles := s.projectiles.modify j (reuse location rotation) }) ∨
    (s.firstIdle = none ∧ ∃ cls, s.pool.projectileClass = some cls ∧ spawned = true ∧
      s.getProjectile location rotation spawned =
        { pool := { s.pool with
            projectilePool := s.pool.projectilePool ++ [s.projectiles.length]
            bHaveActiveProjectile := false }
          projectiles := s.projectiles ++ [reuse location rotation (.spawn cls location rotation)] }) ∨
    (s.firstIdle = none ∧ (s.pool.projectileClass = none ∨ spawned = false) ∧
      s.getProjectile location rotation spawned =
        { s with pool := { s.pool with bHaveActiveProjectile := false } }) := by
  unfold getProjectile
  cases search : s.firstIdle with
  | some j =>
      exact .inl ⟨j, List.mem_of_find?_eq_some search, rfl, List.find?_some search, rfl⟩
  | none =>
      cases source : s.pool.projectileClass with
      | none => exact .inr (.inr ⟨rfl, .inl rfl, by simp [spawnProjectile, source]⟩)
      | some cls =>
          cases spawned with
          | false => exact .inr (.inr ⟨rfl, .inr rfl, by simp [spawnProjectile]⟩)
          | true =>
              refine .inr (.inl ⟨rfl, cls, rfl, rfl, ?_⟩)
              simp only [if_true]
              exact spawnProjectile_active (s := { s with
                pool := { s.pool with bHaveActiveProjectile := false } }) source location rotation

/-- The loop of `InitializePool`, counting up to `bound`. -/
def initializeLoop (answers : Nat → Bool) : Nat → PoolState → PoolState
  | 0, s => s
  | bound + 1, s =>
      (initializeLoop answers bound s).spawnProjectile Projectile.hidden ⟨0, 0, 0⟩ false
        (answers bound)

/-- An element as `InitializePool` leaves it. -/
def stored (cls : ProjectileClass) : Projectile :=
  { Projectile.spawn cls Projectile.hidden ⟨0, 0, 0⟩ with
    bIsActivation := false
    bActorEnableCollision := false }

theorem initializeLoop_none {s : PoolState} (source : s.pool.projectileClass = none) (answers : Nat → Bool)
    (bound : Nat) : initializeLoop answers bound s = s := by
  induction bound with
  | zero => rfl
  | succ bound ih => simp only [initializeLoop, ih, spawnProjectile, source]

/-- One element for each spawn that succeeds. -/
theorem initializeLoop_some {s : PoolState} {cls : ProjectileClass} (source : s.pool.projectileClass = some cls)
    (answers : Nat → Bool) (bound : Nat) :
    initializeLoop answers bound s =
      { pool := { s.pool with
          projectilePool := s.pool.projectilePool ++
            List.range' s.projectiles.length ((List.range bound).countP answers) }
        projectiles := s.projectiles ++ List.replicate ((List.range bound).countP answers) (stored cls) } := by
  induction bound with
  | zero => simp [initializeLoop]
  | succ bound ih =>
      simp only [initializeLoop, ih, spawnProjectile, source, List.range_succ, List.countP_append]
      cases answered : answers bound with
      | true =>
          have one : [bound].countP answers = 1 := by simp [answered]
          rw [one, List.replicate_succ', ← List.append_assoc, List.range'_1_concat, ← List.append_assoc]
          simp [stored]
      | false => simp [answered]

def initializePool (s : PoolState) (answers : Nat → Bool) : PoolState :=
  initializeLoop answers s.pool.poolSize.toNat s

end PoolState

end TankoGeddon
