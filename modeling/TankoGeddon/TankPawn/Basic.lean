import Mathlib.Algebra.Module.Defs
import Mathlib.Algebra.Order.Field.Basic
import Mathlib.Algebra.Order.Floor.Ring

/-! The tank's own part: axis inputs and `Tick`.

Scalars and vectors are left open, so that the directions can be exact. `GetActorForwardVector`,
`GetActorRightVector` and `FindLookAtRotation` are the engine's, and so is how far the sweep of
`SetActorLocation` gets: a tank that meets an obstacle stops on the way.
-/

set_option autoImplicit false

namespace TankoGeddon

section

variable {K V : Type}

/-- An `FRotator`, in degrees. -/
@[ext]
structure Rotator (K : Type) where
  pitch : K
  yaw : K
  roll : K

structure TankPawn (K V : Type) where
  location : V
  rotation : Rotator K
  turretRotation : Rotator K
  moveSpeed : K
  rotateSpeed : K
  interpolationKey : K
  rotateInterpolationKey : K
  targetForwardAxisValue : K
  targetRightAxisValue : K
  rotateRightAxisValue : K
  currentRotateAxisValue : K

structure Engine (K V : Type) where
  forwardVector : Rotator K → V
  rightVector : Rotator K → V
  findLookAtRotation : V → V → Rotator K

/-- One call of `Tick`: its argument, `TankController->GetMousePosition()` where there
is a controller, and `TurretMesh->GetComponentRotation()`. -/
structure Frame (K V : Type) where
  deltaSeconds : K
  mousePosition : Option V
  turretRotation : Rotator K

namespace TankPawn

def moveForward (t : TankPawn K V) (value : K) : TankPawn K V := { t with targetForwardAxisValue := value }

def moveRight (t : TankPawn K V) (value : K) : TankPawn K V := { t with targetRightAxisValue := value }

def rotateRight (t : TankPawn K V) (value : K) : TankPawn K V := { t with rotateRightAxisValue := value }

end TankPawn

/-- A new tank with the defaults of the class. -/
def TankPawn.spawn [Field K] (location : V) (rotation : Rotator K) : TankPawn K V :=
  { location
    rotation
    turretRotation := rotation
    moveSpeed := 10
    rotateSpeed := 100
    interpolationKey := 1 / 10
    rotateInterpolationKey := 1 / 10
    targetForwardAxisValue := 0
    targetRightAxisValue := 0
    rotateRightAxisValue := 0
    currentRotateAxisValue := 0 }

variable [Field K] [LinearOrder K] [FloorRing K]

/-- `FMath::Lerp` -/
def lerp (a b alpha : K) : K := a + alpha * (b - a)

/-- `FRotator::NormalizeAxis`, into `(-180, 180]`. -/
def normalizeAxis (angle : K) : K := angle - 360 * (⌈(angle - 180) / 360⌉ : ℤ)

/-- `FMath::Lerp` of two rotators: along the normalized difference. -/
def Rotator.lerp (a b : Rotator K) (alpha : K) : Rotator K :=
  ⟨a.pitch + normalizeAxis (b.pitch - a.pitch) * alpha, a.yaw + normalizeAxis (b.yaw - a.yaw) * alpha,
    a.roll + normalizeAxis (b.roll - a.roll) * alpha⟩

namespace TankPawn

/-- The engine reads a rotation back in normalized form. -/
def setActorRotation (t : TankPawn K V) (newRotation : Rotator K) : TankPawn K V :=
  { t with rotation :=
      ⟨normalizeAxis newRotation.pitch, normalizeAxis newRotation.yaw, normalizeAxis newRotation.roll⟩ }

variable [AddCommGroup V] [Module K V]

/-- Tank movement. `reached` is the part of the way that the sweep covers, all of it where
nothing is in the way. -/
def move (e : Engine K V) (reached : K) (t : TankPawn K V) : TankPawn K V :=
  { t with location := t.location +
      reached • (t.targetForwardAxisValue • t.moveSpeed • e.forwardVector t.rotation +
        t.targetRightAxisValue • t.moveSpeed • e.rightVector t.rotation) }

/-- Tank rotation. -/
def rotate (deltaSeconds : K) (t : TankPawn K V) : TankPawn K V :=
  let currentRotateAxisValue := TankoGeddon.lerp t.currentRotateAxisValue t.rotateRightAxisValue t.interpolationKey
  let yawRotation := t.rotateSpeed * currentRotateAxisValue * deltaSeconds + t.rotation.yaw
  { t with currentRotateAxisValue }.setActorRotation ⟨0, yawRotation, 0⟩

/-- Turret rotation. -/
def rotateTurret (e : Engine K V) (frame : Frame K V) (t : TankPawn K V) : TankPawn K V :=
  match frame.mousePosition with
  | some mousePos =>
      let targetRotation := { e.findLookAtRotation t.location mousePos with
        pitch := frame.turretRotation.pitch
        roll := frame.turretRotation.roll }
      { t with turretRotation := frame.turretRotation.lerp targetRotation t.rotateInterpolationKey }
  | none => t

def tick (e : Engine K V) (reached : K) (t : TankPawn K V) (frame : Frame K V) : TankPawn K V :=
  ((t.move e reached).rotate frame.deltaSeconds).rotateTurret e frame

end TankPawn

end

end TankoGeddon
