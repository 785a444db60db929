import Mathlib.Algebra.Module.Pi
import TankoGeddon.GameStruct
import TankoGeddon.TankPawn.Basic

/-! The tanks of a level and the controller that drives one of them.

`TankPawn` of the controller is the pointer `SetPawn` casts, and every input goes through
it; `TankController` of a tank is the one its `BeginPlay` casts. There is one controller,
so that pointer is either to it or null. Where the mouse is deprojected to and what
`FVector::Normalize` makes of a direction is the engine's.
-/

set_option autoImplicit false

namespace TankoGeddon

/-- An `FVector`, in the scalars a tank moves in. -/
abbrev Space (K : Type) := Fin 3 → K

/-- `V.Z = z` -/
def Space.setZ {K : Type} (v : Space K) (z : K) : Space K := Function.update v 2 z

abbrev Space.x {K : Type} (v : Space K) : K := v 0

abbrev Space.y {K : Type} (v : Space K) : K := v 1

abbrev Space.z {K : Type} (v : Space K) : K := v 2

abbrev TankId := Nat

/-- A tank is a machine pawn of the level and its own part. -/
structure Tank (K : Type) where
  pawn : PawnId
  body : TankPawn K (Space K)
  tankController : Bool := false

structure TankController (K : Type) where
  tankPawn : Option TankId := none
  mousePos : Space K

/-- The axes `SetupInputComponent` binds. -/
inductive Axis where
  | moveForward
  | moveRight
  | rotateRight
  deriving DecidableEq, Repr

/-- The handler of an axis. -/
def TankPawn.input {K V : Type} (axis : Axis) (value : K) (t : TankPawn K V) : TankPawn K V :=
  match axis with
  | .moveForward => t.moveForward value
  | .moveRight => t.moveRight value
  | .rotateRight => t.rotateRight value

section

variable {K : Type} [Field K]

/-- The tank's part of `BeginPlay`; `possessed` is whether the cast of `GetController()`
succeeds. -/
def Tank.beginPlay (possessed : Bool) (t : Tank K) : Tank K :=
  { t with
    body := { t.body with location := Space.setZ t.body.location 0 }
    tankController := possessed }

/-- `MousePos` is left alone where there is no mouse position to deproject. -/
def TankController.tick (normalize : Space K → Space K) (deprojected tankPosition : Option (Space K))
    (c : TankController K) : TankController K :=
  let mousePos := deprojected.getD c.mousePos
  match tankPosition with
  | some tankPosition =>
      let dir := normalize (Space.setZ mousePos (tankPosition 2) - tankPosition)
      { c with mousePos := tankPosition + (1000 : K) • dir }
  | none => { c with mousePos }

end

end TankoGeddon
