import TankoGeddon.GameStruct

/-! The projectile actor: flight timers, activation flag, collision, bindings.

`launcher` and `flight` are history: the cannon of the last launch and the number
of times `Start` has run. No function of the source reads them. A pending timer
carries the flight in which it was armed.
-/

set_option autoImplicit false

namespace TankoGeddon

open Foundation (Timer)

/-- The editable defaults a projectile class brings to its instances. -/
structure ProjectileClass where
  moveSpeed : Scalar := 100
  moveRate : Scalar := 1 / 100
  damage : Scalar := 10
  deactivateTime : Scalar := 3
  deriving DecidableEq

structure Projectile extends ProjectileClass where
  location : FVector
  rotation : FRotator
  owner : Option Actor := none
  onKilled : List CannonId := []
  bIsActivation : Bool := false
  bActorEnableCollision : Bool := true
  moveTimer : Timer Nat := none
  deactivateTimer : Timer Nat := none
  launcher : Option CannonId := none
  flight : Nat := 0
  deriving DecidableEq

namespace Projectile

/-- A new actor of the class, as `SpawnActor` returns it. -/
def spawn (cls : ProjectileClass) (location : FVector) (rotation : FRotator) : Projectile :=
  { cls with location, rotation }

def start (p : Projectile) : Projectile :=
  { p with
    flight := p.flight + 1
    moveTimer := Timer.set p.moveRate (p.flight + 1)
    deactivateTimer := Timer.set p.deactivateTime (p.flight + 1) }

/-- Where retired projectiles are kept. -/
def hidden : FVector := ⟨0, 0, -500⟩

def deactivate (p : Projectile) : Projectile :=
  { p with
    bIsActivation := false
    bActorEnableCollision := false
    location := hidden
    deactivateTimer := Timer.clear
    moveTimer := Timer.clear }

/-- `forward` is the engine's answer to `GetActorForwardVector`. -/
def move (forward : FVector) (p : Projectile) : Projectile :=
  { p with location := p.location.add ((forward.scale p.moveSpeed).scale p.moveRate) }

/-- Flag, collision and both timers tell the same story, and what is pending was
armed in the present flight. -/
structure Consistent (p : Projectile) : Prop where
  collision : p.bActorEnableCollision = p.bIsActivation
  move : p.moveTimer = if p.bIsActivation then some p.flight else none
  deactivate : p.deactivateTimer = if p.bIsActivation then some p.flight else none

theorem Consistent.flag_iff_collision {p : Projectile} (agree : p.Consistent) :
    p.bIsActivation = true ↔ p.bActorEnableCollision = true := by
  rw [agree.collision]

theorem Consistent.collision_iff_timers {p : Projectile} (agree : p.Consistent) :
    p.bActorEnableCollision = true ↔ p.moveTimer.isSome = true ∧ p.deactivateTimer.isSome = true := by
  rw [agree.collision, agree.move, agree.deactivate]
  cases p.bIsActivation <;> simp

theorem deactivate_consistent (p : Projectile) : p.deactivate.Consistent :=
  ⟨rfl, rfl, rfl⟩

theorem Consistent.of_move {p : Projectile} (agree : p.Consistent) (forward : FVector) :
    (p.move forward).Consistent :=
  ⟨agree.collision, agree.move, agree.deactivate⟩

/-- `Start` on a flagged projectile with collision on, at positive rates. -/
theorem start_consistent {p : Projectile} (flag : p.bIsActivation = true)
    (collision : p.bActorEnableCollision = true) (moves : 0 < p.moveRate)
    (expires : 0 < p.deactivateTime) : p.start.Consistent where
  collision := by simp [start, flag, collision]
  move := by simp [start, flag, Timer.set_pos moves]
  deactivate := by simp [start, flag, Timer.set_pos expires]

end Projectile

end TankoGeddon
