import TankoGeddon.GameStruct

/-! The turret's own state and the three functions `Targeting` evaluates.

`PlayerPawn` is the pointer `BeginPlay` caches; each of the three reads it. The
distance, the interpolated rotation and the aim angle are the engine's.
-/

set_option autoImplicit false

namespace TankoGeddon

open Foundation (Timer)

/-- A turret is a machine pawn of the level and the following of its own. -/
structure Turret where
  pawn : PawnId
  playerPawn : Option PawnId := none
  targetingRange : Scalar := 1000
  targetingSpeed : Scalar := 1 / 10
  targetingRate : Scalar := 1 / 200
  accurency : Scalar := 30
  turretRotation : FRotator := ⟨0, 0, 0⟩
  targetingTimer : Timer Unit := none
  deriving DecidableEq

/-- The engine's answers to one call of `Targeting`: `FVector::Distance`,
`FindLookAtRotation`, `FMath::Lerp` and the angle `acos` gives. -/
structure Sighting where
  distance : Scalar
  lookAtRotation : FRotator
  lerp : FRotator → FRotator → Scalar → FRotator := fun _ target _ => target
  aimAngle : Scalar

namespace Turret

/-- The turret's part of `BeginPlay`: cache the pawn, repeat `Targeting`. -/
def beginPlay (playerPawn : Option PawnId) (t : Turret) : Turret :=
  { t with playerPawn, targetingTimer := Timer.set t.targetingRate () }

def isPlayerInRange (t : Turret) (s : Sighting) : Bool := decide (s.distance ≤ t.targetingRange)

def rotateToPlayer (t : Turret) (s : Sighting) : Turret :=
  let targetRotation := { s.lookAtRotation with
    pitch := t.turretRotation.pitch
    roll := t.turretRotation.roll }
  { t with turretRotation := s.lerp t.turretRotation targetRotation t.targetingSpeed }

def canFire (t : Turret) (s : Sighting) : Bool := decide (s.aimAngle ≤ t.accurency)

end Turret

/-- One evaluation made by `Targeting`. -/
inductive Evaluation where
  | isPlayerInRange
  | rotateToPlayer
  | canFire
  deriving DecidableEq, Repr

/-- The evaluation and the `PlayerPawn` it dereferences. -/
structure Dereference where
  evaluation : Evaluation
  playerPawn : Option PawnId
  deriving DecidableEq

end TankoGeddon
