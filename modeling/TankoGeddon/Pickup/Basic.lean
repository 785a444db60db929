import TankoGeddon.World.Basic

/-! Ammo boxes and cannon boxes in a level with tanks.

The pawns named in `tanks` are the ones a cast to `ATankPawn` accepts. A box acts
when a tank begins to overlap it; `none` stands for a call on a null cannon.
-/

set_option autoImplicit false

namespace TankoGeddon

structure AmmoBox where
  ammoBoxVolume : Int := 30
  cannon : Option CannonId := none
  bActorIsBeingDestroyed : Bool := false
  deriving DecidableEq

structure NewCannonBox where
  cannonClass : Option CannonClass
  bActorIsBeingDestroyed : Bool := false
  deriving DecidableEq

def AmmoBox.destroy (box : AmmoBox) : AmmoBox := { box with bActorIsBeingDestroyed := true }

def NewCannonBox.destroy (box : NewCannonBox) : NewCannonBox := { box with bActorIsBeingDestroyed := true }

structure Arena where
  world : World
  tanks : List PawnId
  ammoBoxes : List AmmoBox := []
  newCannonBoxes : List NewCannonBox := []
  deriving DecidableEq

namespace Arena

/-- `Cast<ATankPawn>(OtherActor)` -/
def castTankPawn (a : Arena) : Actor → Option PawnId
  | .pawn p => if p ∈ a.tanks then some p else none
  | _ => none

/-- `AAmmoBox::OnMeshOverlapBegin`. A pick-up is taken only where the addition stays
inside `int`. -/
def ammoBoxOverlap (a : Arena) (b : Nat) (otherActor : Actor) : Option Arena :=
  match a.ammoBoxes[b]? with
  | none => none
  | some box =>
      match a.castTankPawn otherActor, box.cannon with
      | some _, some c =>
          match a.world.cannons[c]? with
          | none => none
          | some cannon =>
              if cannon.currentAmmo = cannon.maxAmmo then some a
              else if InInt32 (cannon.currentAmmo + box.ammoBoxVolume) then
                some { a with
                  world := a.world.updateCannon c (·.increaseAmmoValue box.ammoBoxVolume)
                  ammoBoxes := a.ammoBoxes.modify b AmmoBox.destroy }
              else none
      | _, _ => some a

/-- `ANewCannonBox::OnMeshOverlapBegin` -/
def newCannonBoxOverlap (a : Arena) (b : Nat) (otherActor : Actor) (main alternate : CannonReply) :
    Option Arena :=
  match a.newCannonBoxes[b]? with
  | none => none
  | some box =>
      match a.castTankPawn otherActor with
      | some p => (a.world.setupCannon p box.cannonClass main alternate).map fun world =>
          { a with world, newCannonBoxes := a.newCannonBoxes.modify b NewCannonBox.destroy }
      | none => some a

/-- The engine reports overlaps of actors that are not being destroyed; boxes are
placed or spawned with their editable fields set. -/
inductive Event where
  | world (event : World.Event)
  | ammoBoxOverlap (b : Nat) (otherActor : Actor)
  | newCannonBoxOverlap (b : Nat) (otherActor : Actor) (main alternate : CannonReply)
  | spawnAmmoBox (ammoBoxVolume : Int)
  | spawnNewCannonBox (cannonClass : Option CannonClass)

/-- The tank an actor is, if any, has not been destroyed. -/
def touches (a : Arena) (otherActor : Actor) : Bool := (a.castTankPawn otherActor).all a.world.pawnAlive

def step (a : Arena) : Event → Option (Arena × Unit)
  | .world event => (a.world.step event).map fun next => ({ a with world := next.1 }, ())
  | .ammoBoxOverlap b otherActor =>
      if a.touches otherActor && a.ammoBoxes[b]?.any (!·.bActorIsBeingDestroyed) then
        (a.ammoBoxOverlap b otherActor).map (·, ())
      else none
  | .newCannonBoxOverlap b otherActor main alternate =>
      if a.touches otherActor && a.newCannonBoxes[b]?.any (!·.bActorIsBeingDestroyed) then
        (a.newCannonBoxOverlap b otherActor main alternate).map (·, ())
      else none
  | .spawnAmmoBox ammoBoxVolume =>
      some ({ a with ammoBoxes := a.ammoBoxes ++ [{ ammoBoxVolume }] }, ())
  | .spawnNewCannonBox cannonClass =>
      some ({ a with newCannonBoxes := a.newCannonBoxes ++ [{ cannonClass }] }, ())

/-- Before play begins; a box that is placed in the level has no cannon. -/
structure Initial (a : Arena) : Prop where
  world : a.world.Initial
  ammoBoxes : ∀ box ∈ a.ammoBoxes, box.cannon = none

end Arena

end TankoGeddon
