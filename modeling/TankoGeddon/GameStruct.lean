import Mathlib.Data.Rat.Defs
import Mathlib.Algebra.Order.Field.Rat
import TankoGeddon.Foundation.Timer

/-! Values shared by the actors: engine vectors, actor references, damage data.

Float fields are exact rationals. What is proved of health, damage and scores, of the clock,
and of where projectiles and tanks are is proved of exact arithmetic: the source's own sums
round. Ammunition, shots, flags, owners and pools are integers, booleans and references; a
float matters to them only in the sign of a timer's rate and in whether a pawn's health is
spent.

An actor is referred to by its class and its number, the order in which actors of that class
were spawned; what is neither pawn, cannon, projectile nor pool (walls, controllers, boxes)
is `other`.
-/

set_option autoImplicit false

namespace TankoGeddon

abbrev Scalar := ℚ

structure FVector where
  x : Scalar
  y : Scalar
  z : Scalar
  deriving DecidableEq

def FVector.add (a b : FVector) : FVector := ⟨a.x + b.x, a.y + b.y, a.z + b.z⟩

def FVector.scale (a : FVector) (factor : Scalar) : FVector :=
  ⟨a.x * factor, a.y * factor, a.z * factor⟩

structure FRotator where
  pitch : Scalar
  yaw : Scalar
  roll : Scalar
  deriving DecidableEq

abbrev PawnId := Nat
abbrev CannonId := Nat
abbrev ProjectileId := Nat
abbrev PoolId := Nat

inductive Actor where
  | pawn (id : PawnId)
  | cannon (id : CannonId)
  | projectile (id : ProjectileId)
  | pool (id : PoolId)
  | other (id : Nat)
  deriving DecidableEq, Repr

inductive ECannonType where
  | fireProjectile
  | fireTrace
  | fireMultiProjectile
  | fireSPProjectile
  deriving DecidableEq, Repr

structure FDamageData where
  damageValue : Scalar
  instigator : Option Actor
  damageMaker : Option Actor
  deriving DecidableEq

/-- The values an `int` field can hold. -/
def InInt32 (value : Int) : Prop := -2147483648 ≤ value ∧ value ≤ 2147483647

instance (value : Int) : Decidable (InInt32 value) :=
  inferInstanceAs (Decidable (-2147483648 ≤ value ∧ value ≤ 2147483647))

end TankoGeddon
