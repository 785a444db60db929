import TankoGeddon.MachinePawn

/-! A level: pawns, cannons, projectiles and pools, and every event that acts on them.

Actors are numbered by their place in the lists, which only grow; a destroyed
actor keeps its place. What the engine decides (whether a spawn succeeds, where
the muzzle is, what a trace hits, what overlaps when) comes with the event. A
binding made with `AddUObject` fires only while its receiver is alive.
-/

set_option autoImplicit false

namespace TankoGeddon

structure World where
  pawns : List MachinePawn
  cannons : List Cannon := []
  projectiles : List Projectile := []
  pools : List ProjectilePool := []
  deriving DecidableEq

/-- One call of `IDamageTaker::TakeDamage` on a pawn. -/
structure DamageCall where
  victim : PawnId
  data : FDamageData
  deriving DecidableEq

/-- What a step shows: the damage call it made, and the cannon that launched. -/
structure Report where
  damage : Option DamageCall := none
  launch : Option CannonId := none
  deriving DecidableEq

/-- The engine's answers to one launch: muzzle pose, spawn, trace. -/
structure Reply where
  location : FVector := ⟨0, 0, 0⟩
  rotation : FRotator := ⟨0, 0, 0⟩
  spawned : Bool := true
  traceHit : Option Actor := none

/-- The engine's answers while a cannon is spawned: the actor, its pool, and the
elements of `InitializePool`. -/
structure CannonReply where
  spawned : Bool := true
  poolSpawned : Bool := true
  elementSpawned : Nat → Bool := fun _ => true

namespace World

def updatePawn (w : World) (p : PawnId) (f : MachinePawn → MachinePawn) : World :=
  { w with pawns := w.pawns.modify p f }

def updateCannon (w : World) (c : CannonId) (f : Cannon → Cannon) : World :=
  { w with cannons := w.cannons.modify c f }

def updateProjectile (w : World) (j : ProjectileId) (f : Projectile → Projectile) : World :=
  { w with projectiles := w.projectiles.modify j f }

def pawnAlive (w : World) (p : PawnId) : Bool :=
  w.pawns[p]?.any fun x => !x.bActorIsBeingDestroyed

def cannonAlive (w : World) (c : CannonId) : Bool :=
  w.cannons[c]?.any fun x => !x.bActorIsBeingDestroyed

/-- `AActor::GetOwner`. Pools are spawned without an owner. -/
def getOwner (w : World) : Actor → Option Actor
  | .pawn p => w.pawns[p]?.bind (·.owner)
  | .cannon c => w.cannons[c]?.bind (·.owner)
  | .projectile j => w.projectiles[j]?.bind (·.owner)
  | .pool _ | .other _ => none

/-! Damage, death and score. -/

def destroyCannon (w : World) (c : CannonId) : World := w.updateCannon c Cannon.destroy

def die (w : World) (p : PawnId) : World :=
  match w.pawns[p]?.bind (·.cannon) with
  | some c => (w.destroyCannon c).updatePawn p MachinePawn.destroy
  | none => w.updatePawn p MachinePawn.destroy

/-- `OnDie` is bound to `Die`, `OnHealthChanged` to a method that only logs. -/
def takeDamage (w : World) (p : PawnId) (damageData : FDamageData) : World :=
  match w.pawns[p]? with
  | none => w
  | some x =>
      let result := x.healthComponent.takeDamage damageData
      let w := w.updatePawn p fun x => { x with healthComponent := result.1 }
      match result.2 with
      | .onDie => if x.bActorIsBeingDestroyed then w else w.die p
      | .onHealthChanged _ => w

/-- `Cast<IDamageTaker>` and the call: machine pawns are the damage takers. -/
def dealDamage (w : World) (other : Actor) (damageData : FDamageData) : World × Option DamageCall :=
  match other with
  | .pawn p =>
      if p < w.pawns.length then (w.takeDamage p damageData, some ⟨p, damageData⟩) else (w, none)
  | _ => (w, none)

def showScore (w : World) (p : PawnId) (value : Scalar) : World :=
  if w.pawnAlive p then w.updatePawn p (·.showScore value) else w

/-- Broadcasts `ScoreChanged`; without a live binding that changes nothing. -/
def addScore (w : World) (c : CannonId) (scoreValue : Scalar) : World :=
  if w.cannonAlive c then
    ((w.cannons[c]?.map (·.scoreChanged)).getD []).foldl (fun w p => w.showScore p scoreValue) w
  else w

def broadcastOnKilled (w : World) (j : ProjectileId) (scoreValue : Scalar) : World :=
  ((w.projectiles[j]?.map (·.onKilled)).getD []).foldl (fun w c => w.addScore c scoreValue) w

/-! Projectile and trace hits. -/

/-- `Cast<IScorable>` and `GetPoints`, zero for other actors. -/
def pointsOf (w : World) : Actor → Scalar
  | .pawn p => (w.pawns[p]?.map MachinePawn.getPoints).getD 0
  | _ => 0

/-- `IsActorBeingDestroyed` of a damage taker. -/
def isBeingDestroyed (w : World) : Actor → Bool
  | .pawn p => w.pawns[p]?.any (·.bActorIsBeingDestroyed)
  | _ => false

/-- The exclusion both hits make: neither the owner nor the owner's owner. -/
def excludes (w : World) (owner : Option Actor) (other : Actor) : Bool :=
  owner == some other || owner.bind w.getOwner == some other

def onMeshOverlapBegin (w : World) (j : ProjectileId) (other : Actor) : World × Report :=
  match w.projectiles[j]? with
  | none => (w, {})
  | some projectile =>
      if w.excludes projectile.owner other then (w.updateProjectile j Projectile.deactivate, {})
      else
        let scoreValue := w.pointsOf other
        let dealt := w.dealDamage other
          { damageValue := projectile.damage
            instigator := projectile.owner
            damageMaker := some (.projectile j) }
        let credited :=
          if dealt.2.isSome && dealt.1.isBeingDestroyed other && scoreValue != 0 then
            dealt.1.broadcastOnKilled j scoreValue
          else dealt.1
        (credited.updateProjectile j Projectile.deactivate, { damage := dealt.2 })

def lineTrace (w : World) (c : CannonId) (hit : Option Actor) : World × Report :=
  match w.cannons[c]?, hit with
  | some cannon, some other =>
      if w.excludes cannon.owner other then (w, {})
      else
        let dealt := w.dealDamage other
          { damageValue := cannon.traceDamage
            instigator := cannon.owner
            damageMaker := some (.cannon c) }
        (dealt.1, { damage := dealt.2 })
  | _, _ => (w, {})

/-! Launches. -/

/-- The `SpawnActor` block of the triggers and of `BurstFire`. `SpawnActor`, `AddUObject`,
`SetOwner` and `Start` are one step: the engine is taken to report no overlap from inside
`SpawnActor`, before the owner and the kill subscription are there. -/
def launchSpawned (w : World) (c : CannonId) (reply : Reply) : World :=
  match w.cannons[c]?.bind (·.projectileClass), reply.spawned with
  | some cls, true =>
      { w with projectiles := w.projectiles ++
          [{ Projectile.spawn cls reply.location reply.rotation with
              onKilled := [c]
              owner := some (.cannon c)
              launcher := some c }.start] }
  | _, _ => w

/-- `ProjectilePool->GetProjectile`; the element it starts remembers its launcher. -/
def launchPooled (w : World) (c : CannonId) (reply : Reply) : World :=
  match w.cannons[c]?.bind (·.projectilePool) with
  | none => w
  | some k =>
      match w.pools[k]? with
      | none => w
      | some pool =>
          let s : PoolState := { pool, projectiles := w.projectiles }
          let launched := s.firstIdle.getD w.projectiles.length
          let s' := s.getProjectile reply.location reply.rotation reply.spawned
          { w with
            pools := w.pools.modify k fun _ => s'.pool
            projectiles := s'.projectiles.modify launched fun q => { q with launcher := some c } }

/-- Carry out what a call on a cannon asked of the engine. -/
def perform (w : World) (c : CannonId) (outcome : Outcome) (reply : Reply) : World × Report :=
  match outcome with
  | .spawned | .burstShot => (w.launchSpawned c reply, { launch := some c })
  | .pooled => (w.launchPooled c reply, { launch := some c })
  | .traced => w.lineTrace c reply.traceHit
  | .refused | .burstCompleted | .reloaded _ | .resupplied => (w, {})

def cannonEvent (w : World) (c : CannonId) (event : Cannon.Event) (reply : Reply) :
    Option (World × Report) :=
  match w.cannons[c]? with
  | none => none
  | some cannon =>
      match cannon.step event with
      | none => none
      | some next => some ((w.updateCannon c fun _ => next.1).perform c next.2 reply)

/-! Arming a pawn. -/

def createProjectilePool (w : World) (projectilePoolClass : Option PoolClass) (reply : CannonReply) :
    World × Option PoolId :=
  match projectilePoolClass, reply.poolSpawned with
  | some pc, true =>
      let s := PoolState.initializePool { pool := { pc with }, projectiles := w.projectiles }
        reply.elementSpawned
      ({ w with projectiles := s.projectiles, pools := w.pools ++ [s.pool] }, some w.pools.length)
  | _, _ => (w, none)

/-- `SpawnActor<ACannon>` with the pawn as owner and instigator; `BeginPlay` of the
new cannon runs inside it. -/
def spawnCannon (w : World) (cls : CannonClass) (p : PawnId) (reply : CannonReply) :
    World × Option CannonId :=
  if reply.spawned then
    let made := w.createProjectilePool cls.projectilePoolClass reply
    let cannon := (Cannon.spawn cls (some (.pawn p)) (some p)).beginPlay made.2
    ({ made.1 with cannons := made.1.cannons ++ [cannon] }, some w.cannons.length)
  else (w, none)

def destroyOld (w : World) : Option CannonId → World
  | some c => w.destroyCannon c
  | none => w

/-- The part of `SetupCannon` for the main cannon; `none` where it would call a
method on the null pointer a failed spawn returned. -/
def setupMain (w : World) (p : PawnId) (newCannonClass : CannonClass) (reply : CannonReply) :
    Option World :=
  let w := w.destroyOld (w.pawns[p]?.bind (·.cannon))
  match w.spawnCannon newCannonClass p reply with
  | (w, some c) =>
      let w := w.updatePawn p fun x => { x with cannon := some c }
      some (w.updateCannon c fun y =>
        { y with owner := some (.pawn p), scoreChanged := y.scoreChanged ++ [p], attachParent := some p })
  | (_, none) => none

def setupAlternate (w : World) (p : PawnId) (reply : CannonReply) : Option World :=
  match w.pawns[p]?.bind (·.alternateCannonClass) with
  | none => some w
  | some cls =>
      let w := w.destroyOld (w.pawns[p]?.bind (·.alternateCannon))
      match w.spawnCannon cls p reply with
      | (w, some c) =>
          let w := w.updatePawn p fun x => { x with alternateCannon := some c }
          some (w.updateCannon c fun y => { y with attachParent := some p })
      | (_, none) => none

def setupCannon (w : World) (p : PawnId) (newCannonClass : Option CannonClass)
    (main alternate : CannonReply) : Option World :=
  match newCannonClass with
  | none => some w
  | some cls => (w.setupMain p cls main).bind (·.setupAlternate p alternate)

def beginPlay (w : World) (p : PawnId) (main alternate : CannonReply) : Option World :=
  (w.updatePawn p MachinePawn.beginPlay).setupCannon p (w.pawns[p]?.bind (·.cannonClass)) main alternate

inductive Event where
  | beginPlay (p : PawnId) (main alternate : CannonReply)
  | setupCannon (p : PawnId) (newCannonClass : Option CannonClass) (main alternate : CannonReply)
  | fire (p : PawnId) (reply : Reply)
  | alternateFire (p : PawnId) (reply : Reply)
  | reloadTimer (c : CannonId)
  | burstFireTimer (c : CannonId) (reply : Reply)
  | increaseAmmoValue (c : CannonId) (ammoValue : Int)
  | move (j : ProjectileId) (forward : FVector)
  | deactivateTimer (j : ProjectileId)
  | meshOverlapBegin (j : ProjectileId) (other : Actor)
  | takeDamage (p : PawnId) (damageValue : Scalar)

def onProjectile (w : World) (j : ProjectileId) (offered : Projectile → Bool)
    (f : Projectile → Projectile) : Option (World × Report) :=
  if w.projectiles[j]?.any offered then some (w.updateProjectile j f, {}) else none

/-- A call on a pawn's cannon through the slot read by `slot`, if it is set. -/
def onSlot (w : World) (p : PawnId) (slot : MachinePawn → Option CannonId) (event : Cannon.Event)
    (reply : Reply) : Option (World × Report) :=
  match w.pawns[p]?.bind slot with
  | some c => w.cannonEvent c event reply
  | none => some (w, {})

/-- Calls are made on pawns that are alive; a begin-overlap may name any actor.
`takeDamage` stands for damage that comes from no armament. -/
def step (w : World) : Event → Option (World × Report)
  | .beginPlay p main alternate =>
      if w.pawnAlive p && w.pawns[p]?.any (!·.bActorHasBegunPlay) then
        (w.beginPlay p main alternate).map (·, {})
      else none
  | .setupCannon p newCannonClass main alternate =>
      if w.pawnAlive p then (w.setupCannon p newCannonClass main alternate).map (·, {}) else none
  | .fire p reply => if w.pawnAlive p then w.onSlot p (·.cannon) .fire reply else none
  | .alternateFire p reply =>
      if w.pawnAlive p then w.onSlot p (·.alternateCannon) .alternateFire reply else none
  | .reloadTimer c => w.cannonEvent c .reloadTimer {}
  | .burstFireTimer c reply => w.cannonEvent c .burstFireTimer reply
  | .increaseAmmoValue c ammoValue => w.cannonEvent c (.increaseAmmoValue ammoValue) {}
  | .move j forward => w.onProjectile j (·.moveTimer.isSome) (Projectile.move forward)
  | .deactivateTimer j => w.onProjectile j (·.deactivateTimer.isSome) Projectile.deactivate
  | .meshOverlapBegin j other =>
      if j < w.projectiles.length then some (w.onMeshOverlapBegin j other) else none
  | .takeDamage p damageValue =>
      if w.pawnAlive p then
        let data : FDamageData := { damageValue, instigator := none, damageMaker := none }
        some (w.takeDamage p data, { damage := some ⟨p, data⟩ })
      else none

/-- A level before any pawn has begun play. -/
structure Initial (w : World) : Prop where
  cannons : w.cannons = []
  projectiles : w.projectiles = []
  pools : w.pools = []
  pawns : ∀ x ∈ w.pawns, x.cannon = none ∧ x.alternateCannon = none ∧ x.score = 0 ∧
    x.bActorHasBegunPlay = false ∧ x.bActorIsBeingDestroyed = false

end World

end TankoGeddon
