import TankoGeddon.ProjectilePool

/-! One cannon: both triggers, the burst, the reload callbacks and the ammo.

A call reports what it asked of the engine as an `Outcome`; the level carries the
outcome out. Nothing of the cannon is read back from a spawn or a trace, so the
reload timer, which the source arms after them, is armed here in the same update.
-/

set_option autoImplicit false

namespace TankoGeddon

open Foundation (Timer)

structure CannonClass where
  cannonType : ECannonType
  reloadTime : Scalar := 1
  burstFireRate : Int := 3
  burstFireInterval : Scalar := 1 / 5
  traceDamage : Scalar := 50
  maxAmmo : Int := 120
  projectileClass : Option ProjectileClass
  projectilePoolClass : Option PoolClass
  deriving DecidableEq

/-- The method a pending `ReloadTimer` is bound to. -/
inductive Reload where
  | main
  | alternate
  deriving DecidableEq, Repr

structure Cannon extends CannonClass where
  owner : Option Actor := none
  instigator : Option PawnId := none
  attachParent : Option PawnId := none
  bActorIsBeingDestroyed : Bool := false
  scoreChanged : List PawnId := []
  projectilePool : Option PoolId := none
  currentAmmo : Int := 0
  currentShot : Int := 0
  bMainCanFire : Bool := true
  bAlternateCanFire : Bool := true
  reloadTimer : Timer Reload := none
  burstFireTimer : Timer Unit := none
  deriving DecidableEq

/-- What a call or a callback did besides updating the cannon. -/
inductive Outcome where
  | refused
  | spawned
  | pooled
  | traced
  | burstShot
  | burstCompleted
  | reloaded (which : Reload)
  | resupplied
  deriving DecidableEq, Repr

/-- A projectile was launched or a trace performed. -/
def Outcome.discharges : Outcome → Bool
  | .spawned | .pooled | .traced | .burstShot => true
  | _ => false

namespace Cannon

/-- The completion branch of `BurstFire`. -/
def endBurst (c : Cannon) : Cannon :=
  { c with
    burstFireTimer := Timer.clear
    bMainCanFire := true
    bAlternateCanFire := true
    currentShot := 0
    currentAmmo := c.currentAmmo - 3 }

/-- The other branch: one more projectile, and the timer armed for the next call. -/
def nextShot (c : Cannon) : Cannon :=
  { c with
    currentShot := c.currentShot + 1
    burstFireTimer := Timer.set c.burstFireInterval () }

def burstFire (c : Cannon) : Cannon × Outcome :=
  if c.currentShot = c.burstFireRate then (c.endBurst, .burstCompleted) else (c.nextShot, .burstShot)

/-- `SetTimer(ReloadTimer, ...)`, the last statement of both triggers. -/
def armReload (c : Cannon) (which : Reload) : Cannon :=
  { c with reloadTimer := Timer.set c.reloadTime which }

/-- The pool when there is one, `SpawnActor` otherwise. -/
def launch (c : Cannon) : Outcome :=
  if c.projectilePool.isSome then .pooled else .spawned

def fire (c : Cannon) : Cannon × Outcome :=
  if c.bMainCanFire = false then (c, .refused)
  else match c.cannonType with
  | .fireProjectile =>
      if c.currentAmmo = 0 then (c, .refused)
      else ({ c with currentAmmo := c.currentAmmo - 1, bMainCanFire := false }.armReload .main, c.launch)
  | .fireSPProjectile =>
      if c.currentAmmo < 2 then (c, .refused)
      else ({ c with currentAmmo := c.currentAmmo - 2, bMainCanFire := false }.armReload .main, c.launch)
  | .fireTrace =>
      if c.currentAmmo < 10 then (c, .refused)
      else ({ c with currentAmmo := c.currentAmmo - 10, bMainCanFire := false }.armReload .main, .traced)
  | .fireMultiProjectile =>
      if c.currentAmmo < 3 then (c, .refused)
      else (c.burstFire.1.armReload .main, c.burstFire.2)

def mainReload (c : Cannon) : Cannon := { c with bMainCanFire := true }

/-- The two middle branches clear the flag of the main trigger, as the source does. -/
def alternateFire (c : Cannon) : Cannon × Outcome :=
  if c.bAlternateCanFire = false then (c, .refused)
  else match c.cannonType with
  | .fireProjectile =>
      if c.currentAmmo = 0 then (c, .refused)
      else ({ c with currentAmmo := c.currentAmmo - 1, bAlternateCanFire := false }.armReload .alternate,
        c.launch)
  | .fireSPProjectile =>
      if c.currentAmmo < 2 then (c, .refused)
      else ({ c with currentAmmo := c.currentAmmo - 2, bMainCanFire := false }.armReload .alternate,
        c.launch)
  | .fireTrace =>
      if c.currentAmmo < 10 then (c, .refused)
      else ({ c with currentAmmo := c.currentAmmo - 10, bMainCanFire := false }.armReload .alternate,
        .traced)
  | .fireMultiProjectile =>
      if c.currentAmmo < 3 then (c, .refused)
      else (c.burstFire.1.armReload .alternate, c.burstFire.2)

def alternateReload (c : Cannon) : Cannon := { c with bAlternateCanFire := true }

def increaseAmmoValue (c : Cannon) (ammoValue : Int) : Cannon :=
  let currentAmmo := c.currentAmmo + ammoValue
  { c with currentAmmo := if currentAmmo > c.maxAmmo then c.maxAmmo else currentAmmo }

/-- A new actor of the class, before `BeginPlay`: the engine zeroes the rest. -/
def spawn (cls : CannonClass) (owner : Option Actor) (instigator : Option PawnId) : Cannon :=
  { cls with owner, instigator }

/-- `pool` is what `CreateProjectilePool` left in `ProjectilePool`. -/
def beginPlay (c : Cannon) (pool : Option PoolId) : Cannon :=
  { c with projectilePool := pool, currentAmmo := c.maxAmmo }

/-- The state `BeginPlay` leaves: a full magazine and nothing under way. -/
structure BegunPlay (c : Cannon) : Prop where
  ammo : c.currentAmmo = c.maxAmmo
  shot : c.currentShot = 0
  main : c.bMainCanFire = true
  alternate : c.bAlternateCanFire = true
  reload : c.reloadTimer = none
  burst : c.burstFireTimer = none

theorem beginPlay_begun (cls : CannonClass) (owner : Option Actor) (instigator : Option PawnId)
    (pool : Option PoolId) : ((spawn cls owner instigator).beginPlay pool).BegunPlay :=
  ⟨rfl, rfl, rfl, rfl, rfl, rfl⟩

/-- The engine destroys an actor: its timers are cancelled, its owner link cleared. -/
def destroy (c : Cannon) : Cannon :=
  { c with
    bActorIsBeingDestroyed := true
    owner := none
    attachParent := none
    reloadTimer := none
    burstFireTimer := none }

/-- What can happen to one cannon. A timer event is the expiry of a pending
timer, which leaves the handle empty before its callback runs. -/
inductive Event where
  | fire
  | alternateFire
  | reloadTimer
  | burstFireTimer
  | increaseAmmoValue (ammoValue : Int)
  deriving DecidableEq, Repr

/-- A pick-up is taken only where the addition stays inside `int`. -/
def step (c : Cannon) : Event → Option (Cannon × Outcome)
  | .fire => some c.fire
  | .alternateFire => some c.alternateFire
  | .reloadTimer =>
      match c.reloadTimer with
      | some .main => some ({ c with reloadTimer := none }.mainReload, .reloaded .main)
      | some .alternate => some ({ c with reloadTimer := none }.alternateReload, .reloaded .alternate)
      | none => none
  | .burstFireTimer =>
      match c.burstFireTimer with
      | some () => some { c with burstFireTimer := none }.burstFire
      | none => none
  | .increaseAmmoValue ammoValue =>
      if InInt32 (c.currentAmmo + ammoValue) then some (c.increaseAmmoValue ammoValue, .resupplied)
      else none

end Cannon

end TankoGeddon
