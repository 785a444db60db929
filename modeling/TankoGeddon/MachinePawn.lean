import TankoGeddon.Cannon.Basic

/-! Machine pawns with their health component and score. -/

set_option autoImplicit false

namespace TankoGeddon

structure HealthComponent where
  maxHealth : Scalar := 10
  currentHealth : Scalar := 0
  deriving DecidableEq

/-- The event `UHealthComponent::TakeDamage` broadcasts. -/
inductive HealthEvent where
  | onDie
  | onHealthChanged (damageValue : Scalar)
  deriving DecidableEq

namespace HealthComponent

def takeDamage (h : HealthComponent) (damageData : FDamageData) : HealthComponent × HealthEvent :=
  let currentHealth := h.currentHealth - damageData.damageValue
  ({ h with currentHealth },
    if currentHealth ≤ 0 then .onDie else .onHealthChanged damageData.damageValue)

def beginPlay (h : HealthComponent) : HealthComponent :=
  { h with currentHealth := h.maxHealth }

end HealthComponent

structure MachinePawn where
  cannonClass : Option CannonClass
  alternateCannonClass : Option CannonClass
  scoreValue : Scalar := 0
  score : Scalar := 0
  healthComponent : HealthComponent := {}
  cannon : Option CannonId := none
  alternateCannon : Option CannonId := none
  owner : Option Actor := none
  bActorHasBegunPlay : Bool := false
  bActorIsBeingDestroyed : Bool := false
  deriving DecidableEq

namespace MachinePawn

def getPoints (x : MachinePawn) : Scalar := x.scoreValue

def showScore (x : MachinePawn) (value : Scalar) : MachinePawn :=
  { x with score := x.score + value }

/-- `Super::BeginPlay`, which begins play on the health component. -/
def beginPlay (x : MachinePawn) : MachinePawn :=
  { x with healthComponent := x.healthComponent.beginPlay, bActorHasBegunPlay := true }

/-- `AActor::Destroy`: the owner link is cleared, nothing owned goes with it. -/
def destroy (x : MachinePawn) : MachinePawn :=
  { x with owner := none, bActorIsBeingDestroyed := true }

end MachinePawn

end TankoGeddon
