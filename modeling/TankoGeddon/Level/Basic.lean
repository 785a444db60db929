import TankoGeddon.Turret
import TankoGeddon.World.Basic

/-! A level with turrets and one player controller.

The pawns live in the world; every event of the world is an event of the level,
except that a turret begins play by its own `BeginPlay`. Dereferencing null ends
the level. Of the references a garbage collection clears only `PlayerPawn` is kept.
-/

set_option autoImplicit false

namespace TankoGeddon

structure Level where
  world : World
  controllerPawn : Option PawnId := none
  turrets : List Turret := []
  crashed : Bool := false
  deriving DecidableEq

/-- What a step of the level shows. -/
structure Sight where
  report : Report := {}
  dereferences : List Dereference := []
  deriving DecidableEq

namespace Level

/-- `GetFirstPlayerController()->GetPawn()`; the engine detaches a destroyed pawn
from its controller. -/
def getPawn (l : Level) : Option PawnId := l.controllerPawn.filter l.world.pawnAlive

inductive Event where
  | world (event : World.Event)
  | possess (inPawn : Option PawnId)
  | beginPlay (i : Nat) (main alternate : CannonReply)
  | targeting (i : Nat) (sighting : Sighting) (reply : Reply)
  | collectGarbage

def beginPlay (l : Level) (i : Nat) (main alternate : CannonReply) : Option (Level × Sight) :=
  match l.turrets[i]? with
  | none => none
  | some turret =>
      match l.world.step (.beginPlay turret.pawn main alternate) with
      | none => none
      | some (world, report) =>
          let l := { l with world }
          some ({ l with turrets := l.turrets.modify i (Turret.beginPlay l.getPawn) }, { report })

/-- `Cannon && Cannon->IsReadyToFire()` -/
def isReadyToFire (l : Level) (p : PawnId) : Bool :=
  ((l.world.pawns[p]?.bind (·.cannon)).bind fun c => l.world.cannons[c]?).any (·.bMainCanFire)

def targeting (l : Level) (i : Nat) (turret : Turret) (sighting : Sighting) (reply : Reply) :
    Option (Level × Sight) :=
  match turret.playerPawn with
  | none =>
      some ({ l with crashed := true }, { dereferences := [⟨.isPlayerInRange, none⟩] })
  | some p =>
      if turret.isPlayerInRange sighting then
        let dereferences : List Dereference :=
          [⟨.isPlayerInRange, some p⟩, ⟨.rotateToPlayer, some p⟩, ⟨.canFire, some p⟩]
        let l := { l with turrets := l.turrets.modify i (·.rotateToPlayer sighting) }
        if turret.canFire sighting && l.isReadyToFire turret.pawn then
          match l.world.step (.fire turret.pawn reply) with
          | none => none
          | some (world, report) => some ({ l with world }, { report, dereferences })
        else some (l, { dereferences })
      else some (l, { dereferences := [⟨.isPlayerInRange, some p⟩] })

/-- A `UPROPERTY` pointer to a destroyed actor becomes null. -/
def collectGarbage (l : Level) : Level :=
  { l with turrets := l.turrets.map fun turret =>
      { turret with playerPawn := turret.playerPawn.filter l.world.pawnAlive } }

/-- Whether the event is `BeginPlay` of a turret, taken as if it were a plain pawn. -/
def bypasses (l : Level) : World.Event → Bool
  | .beginPlay p _ _ => l.turrets.any fun turret => turret.pawn == p
  | _ => false

/-- The timer that repeats `Targeting` goes with the turret when that is destroyed. -/
def step (l : Level) (event : Event) : Option (Level × Sight) :=
  if l.crashed then none
  else match event with
  | .world event =>
      if l.bypasses event then none
      else (l.world.step event).map fun next => ({ l with world := next.1 }, { report := next.2 })
  | .possess inPawn =>
      if inPawn.all l.world.pawnAlive then some ({ l with controllerPawn := inPawn }, {}) else none
  | .beginPlay i main alternate => l.beginPlay i main alternate
  | .targeting i sighting reply =>
      match l.turrets[i]? with
      | none => none
      | some turret =>
          if turret.targetingTimer.isSome && l.world.pawnAlive turret.pawn then
            l.targeting i turret sighting reply
          else none
  | .collectGarbage => some (l.collectGarbage, {})

/-- A level before anything has begun play. -/
structure Initial (l : Level) : Prop where
  world : l.world.Initial
  turrets : ∀ turret ∈ l.turrets, turret.playerPawn = none ∧ turret.targetingTimer = none
  running : l.crashed = false

end Level

end TankoGeddon
