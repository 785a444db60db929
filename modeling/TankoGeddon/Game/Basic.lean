import TankoGeddon.Level.Basic
import TankoGeddon.Pickup.Basic
import TankoGeddon.TankController

/-! The whole game: a level with its turrets, its tanks, its boxes and the player.

Every event is an input of the player or a callback of the engine; the calls that only a
controller, a tank or a box makes do not happen by themselves. A pawn that is destroyed is
taken from its controller, which calls `SetPawn` with null. What stands in the way of a tank
is the engine's to know: each tick brings with it how far the tank got.
-/

set_option autoImplicit false

namespace TankoGeddon

/-- The engine's directions, and `FVector::Normalize`. -/
structure GameEngine (K : Type) extends Engine K (Space K) where
  normalize : Space K → Space K

structure Game (K : Type) where
  level : Level
  tanks : List (Tank K)
  tankController : TankController K
  ammoBoxes : List AmmoBox := []
  newCannonBoxes : List NewCannonBox := []

namespace Game

variable {K : Type}

/-- `Cast<ATankPawn>` of a pawn. -/
def castTankPawn (g : Game K) (p : PawnId) : Option TankId := g.tanks.findIdx? (·.pawn == p)

/-- The boxes and what they act on. -/
def arena (g : Game K) : Arena where
  world := g.level.world
  tanks := g.tanks.map (·.pawn)
  ammoBoxes := g.ammoBoxes
  newCannonBoxes := g.newCannonBoxes

def setPawn (g : Game K) (inPawn : Option PawnId) : Game K :=
  { g with tankController := { g.tankController with tankPawn := inPawn.bind g.castTankPawn } }

/-- What the engine does once the pawn of the controller has been destroyed. -/
def pawnPendingDestroy (g : Game K) : Game K := if g.level.getPawn.isNone then g.setPawn none else g

inductive Event (K : Type) where
  | level (event : Level.Event)
  | setPawn (inPawn : Option PawnId)
  | moveForward (value : K)
  | moveRight (value : K)
  | rotateRight (value : K)
  | fire (reply : Reply)
  | alternateFire (reply : Reply)
  | controllerTick (deprojected : Option (Space K))
  | beginPlay (i : TankId) (main alternate : CannonReply)
  | tick (i : TankId) (deltaSeconds : K) (turretRotation : Rotator K) (reached : K)
  | ammoBoxOverlap (b : Nat) (otherActor : Actor)
  | newCannonBoxOverlap (b : Nat) (otherActor : Actor) (main alternate : CannonReply)
  | spawnAmmoBox (ammoBoxVolume : Int)
  | spawnNewCannonBox (cannonClass : Option CannonClass)

/-- Whether the event is a call that the controller, a tank or a box makes. -/
def bypasses (g : Game K) : Level.Event → Bool
  | .world (.beginPlay p _ _) => g.tanks.any (·.pawn == p)
  | .world (.setupCannon _ _ _ _) | .world (.fire _ _) | .world (.alternateFire _ _)
  | .world (.increaseAmmoValue _ _) | .possess _ => true
  | _ => false

def onLevel (g : Game K) (event : Level.Event) : Option (Game K × Sight) :=
  (g.level.step event).map fun next => (({ g with level := next.1 } : Game K).pawnPendingDestroy, next.2)

/-- `if (TankPawn) TankPawn->…` of an axis. -/
def onAxis (g : Game K) (axis : Axis) (value : K) : Game K :=
  match g.tankController.tankPawn with
  | some i => { g with tanks := g.tanks.modify i fun t => { t with body := t.body.input axis value } }
  | none => g

def moveForward (g : Game K) (value : K) : Game K := g.onAxis .moveForward value

def moveRight (g : Game K) (value : K) : Game K := g.onAxis .moveRight value

def rotateRight (g : Game K) (value : K) : Game K := g.onAxis .rotateRight value

/-- `if (TankPawn) TankPawn->…` of a trigger. -/
def onTrigger (g : Game K) (press : PawnId → World.Event) : Option (Game K × Sight) :=
  match g.tankController.tankPawn.bind (g.tanks[·]?) with
  | some t => g.onLevel (.world (press t.pawn))
  | none => some (g, {})

def fire (g : Game K) (reply : Reply) : Option (Game K × Sight) := g.onTrigger (.fire · reply)

def alternateFire (g : Game K) (reply : Reply) : Option (Game K × Sight) := g.onTrigger (.alternateFire · reply)

/-- A box acts on the world of the level. -/
def onArena (g : Game K) (event : Arena.Event) : Option (Game K × Sight) :=
  (g.arena.step event).map fun next =>
    (({ g with
        level := { g.level with world := next.1.world }
        ammoBoxes := next.1.ammoBoxes
        newCannonBoxes := next.1.newCannonBoxes } : Game K).pawnPendingDestroy, {})

section

variable [Field K] [LinearOrder K] [FloorRing K]

def controllerTick (e : GameEngine K) (g : Game K) (deprojected : Option (Space K)) : Game K :=
  let tankPosition := (g.tankController.tankPawn.bind (g.tanks[·]?)).map (·.body.location)
  { g with tankController := g.tankController.tick e.normalize deprojected tankPosition }

def beginPlay (g : Game K) (i : TankId) (main alternate : CannonReply) : Option (Game K × Sight) :=
  match g.tanks[i]? with
  | none => none
  | some t =>
      (g.onLevel (.world (.beginPlay t.pawn main alternate))).map fun next =>
        ({ next.1 with tanks := next.1.tanks.modify i (Tank.beginPlay (next.1.level.getPawn == some t.pawn)) },
          next.2)

/-- The frame a tank sees: the mouse only through its own pointer to the controller. -/
def frame (g : Game K) (t : Tank K) (deltaSeconds : K) (turretRotation : Rotator K) : Frame K (Space K) :=
  { deltaSeconds
    mousePosition := if t.tankController then some g.tankController.mousePos else none
    turretRotation }

/-- An actor ticks from its `BeginPlay` to its destruction. A sweep ends somewhere on its way. -/
def tick (e : GameEngine K) (g : Game K) (i : TankId) (deltaSeconds : K) (turretRotation : Rotator K) (reached : K) :
    Option (Game K × Sight) :=
  match g.tanks[i]? with
  | none => none
  | some t =>
      if g.level.world.pawnAlive t.pawn && g.level.world.pawns[t.pawn]?.any (·.bActorHasBegunPlay) &&
          decide (0 ≤ reached ∧ reached ≤ 1) then
        let body := t.body.tick e.toEngine reached (g.frame t deltaSeconds turretRotation)
        some ({ g with tanks := g.tanks.modify i fun t => { t with body } }, {})
      else none

def step (e : GameEngine K) (g : Game K) (event : Event K) : Option (Game K × Sight) :=
  if g.level.crashed then none
  else match event with
  | .level event => if g.bypasses event then none else g.onLevel event
  | .setPawn inPawn => (g.onLevel (.possess inPawn)).map fun next => (next.1.setPawn inPawn, next.2)
  | .moveForward value => some (g.moveForward value, {})
  | .moveRight value => some (g.moveRight value, {})
  | .rotateRight value => some (g.rotateRight value, {})
  | .fire reply => g.fire reply
  | .alternateFire reply => g.alternateFire reply
  | .controllerTick deprojected => some (g.controllerTick e deprojected, {})
  | .beginPlay i main alternate => g.beginPlay i main alternate
  | .tick i deltaSeconds turretRotation reached => g.tick e i deltaSeconds turretRotation reached
  | .ammoBoxOverlap b otherActor => g.onArena (.ammoBoxOverlap b otherActor)
  | .newCannonBoxOverlap b otherActor main alternate => g.onArena (.newCannonBoxOverlap b otherActor main alternate)
  | .spawnAmmoBox ammoBoxVolume => g.onArena (.spawnAmmoBox ammoBoxVolume)
  | .spawnNewCannonBox cannonClass => g.onArena (.spawnNewCannonBox cannonClass)

/-- A game before anything has begun play and before the player has a pawn; the tanks are
pawns of their own. -/
structure Initial (g : Game K) : Prop where
  level : g.level.Initial
  unpossessed : g.level.controllerPawn = none ∧ g.tankController.tankPawn = none
  apart : (g.tanks.map (·.pawn)).Nodup
  tanks : ∀ t ∈ g.tanks, t.pawn < g.level.world.pawns.length ∧ t.tankController = false ∧
    t.body.targetForwardAxisValue = 0 ∧ t.body.targetRightAxisValue = 0 ∧
    t.body.rotateRightAxisValue = 0 ∧ t.body.currentRotateAxisValue = 0
  ammoBoxes : ∀ box ∈ g.ammoBoxes, box.cannon = none

end

end Game

end TankoGeddon
