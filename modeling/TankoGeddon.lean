import TankoGeddon.Foundation.Run
import TankoGeddon.Foundation.Timer
import TankoGeddon.Foundation.Slots
import TankoGeddon.GameStruct
import TankoGeddon.Projectile
import TankoGeddon.ProjectilePool
import TankoGeddon.Cannon.Basic
import TankoGeddon.Cannon.Transitions
import TankoGeddon.Cannon.Burst
import TankoGeddon.Cannon.Ammo
import TankoGeddon.Cannon.ReloadGate
import TankoGeddon.Cannon.Lockout
import TankoGeddon.Cannon.Ledger
import TankoGeddon.ProjectilePool.Contract
import TankoGeddon.MachinePawn
import TankoGeddon.World.Basic
import TankoGeddon.Foundation.Table
import TankoGeddon.World.Ownership
import TankoGeddon.World.Links
import TankoGeddon.World.Vitals
import TankoGeddon.World.Effects
import TankoGeddon.World.Credit
import TankoGeddon.World.SelfDamage
import TankoGeddon.World.Orphans
import TankoGeddon.World.Bounty
import TankoGeddon.Level.Basic
import TankoGeddon.Level.Targeting
import TankoGeddon.Cannon.Mirror
import TankoGeddon.Foundation.Lockstep
import TankoGeddon.World.Mirror
import TankoGeddon.Cannon.Progress
import TankoGeddon.ProjectilePool.Nested
import TankoGeddon.Pickup.Basic
import TankoGeddon.Pickup.Rearming
import TankoGeddon.World.OneHit
import TankoGeddon.Pickup.Refill
import TankoGeddon.Foundation.Subdivision
import TankoGeddon.TankPawn.Basic
import TankoGeddon.TankPawn.Motion
import TankoGeddon.World.Charge
import TankoGeddon.World.Salvo
import TankoGeddon.World.Depot
import TankoGeddon.World.Reclaim
import TankoGeddon.Foundation.Projection
import TankoGeddon.World.Histories
import TankoGeddon.World.Traffic
import TankoGeddon.World.Pools
import TankoGeddon.Foundation.Clock
import TankoGeddon.World.Flights
import TankoGeddon.Foundation.Spacing
import TankoGeddon.World.Clock
import TankoGeddon.Cannon.Cooldown
import TankoGeddon.World.FireRate
import TankoGeddon.World.FlightTime
import TankoGeddon.World.PoolTime
import TankoGeddon.Foundation.Playable
import TankoGeddon.World.Playable
import TankoGeddon.World.BurstTime
import TankoGeddon.World.Lifeline
import TankoGeddon.World.Purse
import TankoGeddon.Game.Basic
import TankoGeddon.Level.Projection
import TankoGeddon.Game.Projection
import TankoGeddon.Game.Driving
import TankoGeddon.Game.Causes
import TankoGeddon.Foundation.Drift
import TankoGeddon.Game.Motion
