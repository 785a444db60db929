import TankoGeddon.World.Charge
import TankoGeddon.World.SelfDamage

/-! The pooled launch path against the spawning one.

Two copies of a level differ in whether the cannon has its pool. Both are fed the
same presses and the same moves, expiries and overlaps of the projectiles they
launch, which are told apart by the order of the launches.
-/

set_option autoImplicit false

namespace TankoGeddon

open Foundation (Run Step both both_iff perform_run getElem?_concat map_modify_hidden modify_concat)

namespace Outcome

/-- What is asked of the engine once there is no pool. -/
def unpool : Outcome → Outcome
  | .pooled => .spawned
  | outcome => outcome

end Outcome

namespace Cannon

/-- The cannon with `ProjectilePool` null. -/
def unpool (y : Cannon) : Cannon := { y with projectilePool := none }

theorem launch_unpool (y : Cannon) : y.unpool.launch = y.launch.unpool := by
  unfold launch unpool
  cases y.projectilePool <;> rfl

theorem burstFire_unpool (y : Cannon) : y.unpool.burstFire = (y.burstFire.1.unpool, y.burstFire.2.unpool) := by
  unfold burstFire
  by_cases last : y.currentShot = y.burstFireRate
  · rw [if_pos last, if_pos (show y.unpool.currentShot = y.unpool.burstFireRate from last)]
    rfl
  · rw [if_neg last, if_neg (show ¬ y.unpool.currentShot = y.unpool.burstFireRate from last)]
    rfl

/-- Neither trigger reads the pool but for the launch. -/
theorem press_unpool (y : Cannon) :
    y.unpool.fire = (y.fire.1.unpool, y.fire.2.unpool) ∧
      y.unpool.alternateFire = (y.alternateFire.1.unpool, y.alternateFire.2.unpool) := by
  have main : y.unpool.bMainCanFire = y.bMainCanFire := rfl
  have alternate : y.unpool.bAlternateCanFire = y.bAlternateCanFire := rfl
  have kind : y.unpool.cannonType = y.cannonType := rfl
  have rounds : y.unpool.currentAmmo = y.currentAmmo := rfl
  constructor
  · simp only [fire, main, kind, rounds, launch_unpool, burstFire_unpool]
    split
    · rfl
    · split <;> split <;> rfl
  · simp only [alternateFire, alternate, kind, rounds, launch_unpool, burstFire_unpool]
    split
    · rfl
    · split <;> split <;> rfl

theorem step_unpool (y : Cannon) (event : Event) :
    y.unpool.step event = (y.step event).map fun next => (next.1.unpool, next.2.unpool) := by
  obtain ⟨main, alternate⟩ := press_unpool y
  cases event with
  | fire => simp only [step, main, Option.map_some]
  | alternateFire => simp only [step, alternate, Option.map_some]
  | reloadTimer =>
      have timer : y.unpool.reloadTimer = y.reloadTimer := rfl
      simp only [step, timer]
      split <;> rfl
  | burstFireTimer =>
      have timer : y.unpool.burstFireTimer = y.burstFireTimer := rfl
      simp only [step, timer, burstFire_expired, burstFire_unpool]
      split <;> rfl
  | increaseAmmoValue ammoValue =>
      have rounds : y.unpool.currentAmmo = y.currentAmmo := rfl
      simp only [step, rounds]
      split <;> rfl

/-- A press of a cannon that shoots single projectiles. -/
theorem press_single {y y' : Cannon} {which : Reload} {outcome : Outcome}
    (kind : y.cannonType = .fireProjectile ∨ y.cannonType = .fireSPProjectile)
    (acted : y.step (press which) = some (y', outcome)) : outcome = .refused ∨ outcome = y.launch := by
  rcases press_outcome acted with refused | ⟨_, launched⟩ | ⟨trace, _⟩ | ⟨multi, _⟩
  · exact .inl refused
  · exact .inr launched
  · simp [trace] at kind
  · simp [multi] at kind

end Cannon

namespace World

open Cannon (press)

def unpool (w : World) (c : CannonId) : World := w.updateCannon c Cannon.unpool

/-- The projectile the next launch of the cannon sends off. -/
def launchTarget (w : World) (c : CannonId) : ProjectileId :=
  match (w.cannons[c]?.bind (·.projectilePool)).bind (w.pools[·]?) with
  | some pool =>
      let s : PoolState := { pool, projectiles := w.projectiles }
      s.firstIdle.getD w.projectiles.length
  | none => w.projectiles.length

def owners (w : World) : List (Option Actor) := w.projectiles.map (·.owner)

/-- All elements of the pool are without an owner. -/
def Bare (w : World) (pool : ProjectilePool) : Prop :=
  ∀ j ∈ pool.projectilePool, ∀ owner, w.owners[j]? = some owner → owner = none

theorem launchSpawned_owners {w : World} {c : CannonId} {y : Cannon} {cls : ProjectileClass} {reply : Reply}
    (here : w.cannons[c]? = some y) (source : y.projectileClass = some cls) (spawned : reply.spawned = true) :
    (w.launchSpawned c reply).owners = w.owners ++ [some (.cannon c)] := by
  have read : w.cannons[c]?.bind (·.projectileClass) = some cls := by simp [here, source]
  simp only [launchSpawned, read, spawned, owners, List.map_append]
  rfl

/-- A pooled launch sends off a projectile without an owner. -/
theorem launchPooled_owners {w : World} {c : CannonId} {y : Cannon} {k : PoolId} {pool : ProjectilePool}
    {cls : ProjectileClass} {reply : Reply} (here : w.cannons[c]? = some y) (armed : y.projectilePool = some k)
    (there : w.pools[k]? = some pool) (source : pool.projectileClass = some cls)
    (spawned : reply.spawned = true) (bare : w.Bare pool) :
    (∃ pool', (w.launchPooled c reply).pools[k]? = some pool' ∧ pool'.projectileClass = some cls ∧
      (w.launchPooled c reply).Bare pool') ∧
    (w.launchPooled c reply).owners[w.launchTarget c]? = some none ∧
    ∀ (j : ProjectileId) (owner : Option Actor), w.owners[j]? = some owner →
      (w.launchPooled c reply).owners[j]? = some owner := by
  have read : w.cannons[c]?.bind (·.projectilePool) = some k := by simp [here, armed]
  simp only [launchPooled, launchTarget, read, there, Option.bind_some]
  rcases PoolState.getProjectile_cases { pool, projectiles := w.projectiles } reply.location
    reply.rotation reply.spawned with
      ⟨j, member, search, idle, same⟩ | ⟨search, cls', source', -, same⟩ | ⟨-, blocked, -⟩
  · have kept : ((w.projectiles.modify j (PoolState.reuse reply.location reply.rotation)).modify j
        fun q => { q with launcher := some c }).map (·.owner) = w.owners := by
      rw [List.modify_modify_eq]
      apply map_modify_hidden
      intro q _
      rfl
    obtain ⟨q, found, _⟩ : ∃ q, w.projectiles[j]? = some q ∧ q.bIsActivation = false := by
      simpa [PoolState.isIdle, Option.any_eq_true] using idle
    have known : w.owners[j]? = some q.owner := by simp [owners, found]
    simp only [search, same, Option.getD_some, Bare, owners, kept]
    refine ⟨⟨{ pool with bHaveActiveProjectile := true }, by simp [there], source, bare⟩, ?_,
      fun _ _ known => known⟩
    rw [bare j member _ known] at known
    exact known
  · simp only [search, same, Option.getD_none, modify_concat, Bare, owners, List.map_append, List.map_singleton]
    refine ⟨⟨{ pool with
        projectilePool := pool.projectilePool ++ [w.projectiles.length]
        bHaveActiveProjectile := false }, by simp [there], source, ?_⟩, ?_, ?_⟩
    · intro j member owner known
      rcases getElem?_concat known with old | ⟨_, new⟩
      · rcases List.mem_append.mp member with member | fresh
        · exact bare j member owner old
        · obtain rfl := List.mem_singleton.mp fresh
          have inside := (List.getElem?_eq_some_iff.mp old).1
          rw [List.length_map] at inside
          exact absurd inside (lt_irrefl _)
      · exact new.symm
    · rw [List.getElem?_append_right (by rw [List.length_map]), List.length_map, Nat.sub_self]
      rfl
    · intro j owner known
      rw [List.getElem?_append_left (List.getElem?_eq_some_iff.mp known).1]
      exact known
  · rcases blocked with none | failed
    · cases source.symm.trans none
    · cases spawned.symm.trans failed

end World

/-- A level and the projectiles launched in it, in order. -/
structure Salvo where
  world : World
  launched : List ProjectileId := []

namespace Salvo

open Cannon (press)

inductive Event where
  | press (which : Reload) (location : FVector) (rotation : FRotator)
  | reloadTimer
  | move (n : Nat) (forward : FVector)
  | deactivateTimer (n : Nat)
  | meshOverlapBegin (n : Nat) (other : Actor)

/-- The projectile of the `n`-th launch, unless a later launch has reused it. -/
def flying (s : Salvo) (n : Nat) : Option ProjectileId :=
  s.launched[n]?.bind fun j => if j ∈ s.launched.drop (n + 1) then none else some j

def onFlight (s : Salvo) (n : Nat) (event : ProjectileId → World.Event) : Option (Salvo × Report) :=
  (s.flying n).bind fun j => (s.world.step (event j)).map fun result => ({ s with world := result.1 }, result.2)

/-- Every spawn succeeds. -/
def step (c : CannonId) (s : Salvo) : Event → Option (Salvo × Report)
  | .press which location rotation =>
      (s.world.drive c (press which, { location, rotation })).map fun result =>
        ({ world := result.1
           launched := if result.2.launch.isSome then s.launched ++ [s.world.launchTarget c] else s.launched },
          result.2)
  | .reloadTimer =>
      (s.world.drive c (.reloadTimer, {})).map fun result => ({ s with world := result.1 }, result.2)
  | .move n forward => s.onFlight n (.move · forward)
  | .deactivateTimer n => s.onFlight n .deactivateTimer
  | .meshOverlapBegin n other => s.onFlight n (.meshOverlapBegin · other)

/-- A launched projectile is notified of a machine pawn. -/
def HitsPawn (s : Salvo) (event : Event) : Prop :=
  ∃ n p, event = .meshOverlapBegin n (.pawn p) ∧ p < s.world.pawns.length

end Salvo

/-- The two copies differ in the pool alone, and in who owns what they launch. -/
structure Twins (c : CannonId) (k : PoolId) (cls : ProjectileClass) (s : Salvo × Salvo) : Prop where
  pawns : s.2.world.pawns = s.1.world.pawns
  cannons : s.2.world.cannons = s.1.world.cannons.modify c Cannon.unpool
  cannon : ∃ y, s.1.world.cannons[c]? = some y ∧
    (y.cannonType = .fireProjectile ∨ y.cannonType = .fireSPProjectile) ∧ y.projectileClass = some cls ∧
    y.projectilePool = some k
  pool : ∃ pool, s.1.world.pools[k]? = some pool ∧ pool.projectileClass = some cls ∧ s.1.world.Bare pool
  pooled : ∀ j ∈ s.1.launched, s.1.world.owners[j]? = some none
  spawned : ∀ j ∈ s.2.launched, s.2.world.owners[j]? = some (some (.cannon c))

namespace World

open Cannon (press)

theorem overlap_harmless {w : World} {j : ProjectileId} {q : Projectile} {other : Actor}
    (found : w.projectiles[j]? = some q) (missed : ∀ p, other = .pawn p → ¬ p < w.pawns.length) :
    w.onMeshOverlapBegin j other = (w.updateProjectile j Projectile.deactivate, {}) := by
  rcases overlap_cases found other with ⟨spent, _⟩ | ⟨v, named, there, _⟩
  · exact spent
  · exact absurd there (missed v named)

/-- What a move, an expiry or a harmless overlap does: it updates one projectile,
whose owner stays. -/
theorem flight_frame {w w' : World} {j : ProjectileId} {event : Event} {report : Report}
    (taken : w.step event = some (w', report))
    (flight : (∃ forward, event = .move j forward) ∨ event = .deactivateTimer j ∨
      ∃ other, event = .meshOverlapBegin j other ∧ ∀ p, other = .pawn p → ¬ p < w.pawns.length) :
    report.damage = none ∧ ∃ f, (∀ q, (f q).owner = q.owner) ∧ w' = w.updateProjectile j f := by
  rcases flight with ⟨forward, rfl⟩ | rfl | ⟨other, rfl, missed⟩
  · obtain ⟨q, _, _, same⟩ := onProjectile_cases taken
    obtain ⟨rfl, rfl⟩ := Prod.mk.inj same
    exact ⟨rfl, Projectile.move forward, fun _ => rfl, rfl⟩
  · obtain ⟨q, _, _, same⟩ := onProjectile_cases taken
    obtain ⟨rfl, rfl⟩ := Prod.mk.inj same
    exact ⟨rfl, Projectile.deactivate, fun _ => rfl, rfl⟩
  · simp only [step] at taken
    split at taken
    · next there =>
      rw [overlap_harmless (List.getElem?_eq_getElem there) missed] at taken
      obtain ⟨rfl, rfl⟩ := Prod.mk.inj (Option.some.inj taken)
      exact ⟨rfl, Projectile.deactivate, fun _ => rfl, rfl⟩
    · cases taken

theorem updateProjectile_owners (w : World) (j : ProjectileId) {f : Projectile → Projectile}
    (kept : ∀ q, (f q).owner = q.owner) : (w.updateProjectile j f).owners = w.owners :=
  map_modify_hidden _ _ _ fun q _ => kept q

theorem perform_launches (w : World) (c : CannonId) (y : Cannon) (reply : Reply) :
    (w.perform c y.launch reply).2 = { launch := some c } := by
  unfold Cannon.launch
  split <;> rfl

theorem launchTarget_update {w : World} {c : CannonId} {y y' : Cannon} (here : w.cannons[c]? = some y)
    (same : y'.projectilePool = y.projectilePool) :
    (w.updateCannon c fun _ => y').launchTarget c = w.launchTarget c := by
  have read : (w.updateCannon c fun _ => y').cannons[c]?.bind (·.projectilePool) =
      w.cannons[c]?.bind (·.projectilePool) := by
    simp [updateCannon, here, same]
  simp only [launchTarget, read]
  rfl

end World

namespace Salvo

open Cannon (press)

/-- A press is refused, or sends one projectile off. -/
theorem press_cases {c : CannonId} {s s' : Salvo} {y : Cannon} {which : Reload} {location : FVector}
    {rotation : FRotator} {report : Report} (here : s.world.cannons[c]? = some y)
    (kind : y.cannonType = .fireProjectile ∨ y.cannonType = .fireSPProjectile)
    (taken : s.step c (.press which location rotation) = some (s', report)) :
    ∃ y' outcome, y.step (press which) = some (y', outcome) ∧ report.damage = none ∧
      (outcome = .refused ∧ s' = { s with world := s.world.updateCannon c fun _ => y' } ∨
        outcome = y.launch ∧ s' =
          { world := ((s.world.updateCannon c fun _ => y').perform c y.launch { location, rotation }).1
            launched := s.launched ++ [s.world.launchTarget c] }) := by
  obtain ⟨result, driven, same⟩ := Option.map_eq_some_iff.mp taken
  obtain ⟨y₀, ⟨y', outcome⟩, known, acted, rfl⟩ := World.cannonEvent_cases driven
  obtain rfl : y = y₀ := Option.some.inj (here.symm.trans known)
  obtain ⟨left, right⟩ := Prod.mk.inj same
  refine ⟨y', outcome, acted, ?_, ?_⟩
  · rcases Cannon.press_single kind acted with rfl | rfl
    · exact right ▸ rfl
    · rw [← right, World.perform_launches]
  · rcases Cannon.press_single kind acted with rfl | rfl
    · exact .inl ⟨rfl, left.symm⟩
    · refine .inr ⟨rfl, left.symm.trans ?_⟩
      simp only [World.perform_launches]
      rfl

theorem reload_cases {c : CannonId} {s s' : Salvo} {y : Cannon} {report : Report}
    (here : s.world.cannons[c]? = some y) (taken : s.step c .reloadTimer = some (s', report)) :
    ∃ y' outcome, y.step .reloadTimer = some (y', outcome) ∧ report.damage = none ∧
      s' = { s with world := s.world.updateCannon c fun _ => y' } := by
  obtain ⟨result, driven, same⟩ := Option.map_eq_some_iff.mp taken
  obtain ⟨y₀, ⟨y', outcome⟩, known, acted, rfl⟩ := World.cannonEvent_cases driven
  obtain rfl : y = y₀ := Option.some.inj (here.symm.trans known)
  obtain ⟨left, right⟩ := Prod.mk.inj same
  obtain ⟨which, rfl⟩ : ∃ which, outcome = .reloaded which := Cannon.reload_outcome acted
  exact ⟨y', _, acted, right ▸ rfl, left.symm⟩

theorem onFlight_cases {s s' : Salvo} {n : Nat} {event : ProjectileId → World.Event} {report : Report}
    (taken : s.onFlight n event = some (s', report)) :
    ∃ j ∈ s.launched, s.world.step (event j) = some (s'.world, report) ∧ s'.launched = s.launched := by
  obtain ⟨j, flies, stepped⟩ := Option.bind_eq_some_iff.mp taken
  obtain ⟨result, known, same⟩ := Option.map_eq_some_iff.mp stepped
  obtain ⟨rfl, rfl⟩ := Prod.mk.inj same
  obtain ⟨j', listed, kept⟩ := Option.bind_eq_some_iff.mp flies
  split at kept
  · cases kept
  · obtain rfl := Option.some.inj kept
    exact ⟨j', List.mem_of_getElem? listed, known, rfl⟩

end Salvo

namespace Twins

variable {c : CannonId} {k : PoolId} {cls : ProjectileClass} {s s' : Salvo × Salvo}

/-- Each copy updates a projectile of its own. -/
theorem flight (twins : Twins c k cls s) {i j : ProjectileId} {f g : Projectile → Projectile}
    (keeps : ∀ q, (f q).owner = q.owner) (keeps' : ∀ q, (g q).owner = q.owner)
    (first : s'.1.world = s.1.world.updateProjectile i f) (second : s'.2.world = s.2.world.updateProjectile j g)
    (launched : s'.1.launched = s.1.launched) (launched' : s'.2.launched = s.2.launched) :
    Twins c k cls s' := by
  obtain ⟨pool, there, source, bare⟩ := twins.pool
  have owners := s.1.world.updateProjectile_owners i keeps
  have owners' := s.2.world.updateProjectile_owners j keeps'
  constructor
  · rw [first, second]
    exact twins.pawns
  · rw [first, second]
    exact twins.cannons
  · rw [first]
    exact twins.cannon
  · rw [first]
    refine ⟨pool, there, source, ?_⟩
    rw [World.Bare, owners]
    exact bare
  · rw [first, launched, owners]
    exact twins.pooled
  · rw [second, launched', owners']
    exact twins.spawned

/-- Both cannons take a step. -/
theorem act (twins : Twins c k cls s) {y y' : Cannon} {event : Cannon.Event} {outcome : Outcome}
    (here : s.1.world.cannons[c]? = some y) (acted : y.step event = some (y', outcome)) :
    Twins c k cls ({ s.1 with world := s.1.world.updateCannon c fun _ => y' },
      { s.2 with world := s.2.world.updateCannon c fun _ => y'.unpool }) := by
  have move := Cannon.step_transition acted
  obtain ⟨y₀, here₀, kind, source, armed⟩ := twins.cannon
  obtain rfl : y = y₀ := Option.some.inj (here.symm.trans here₀)
  refine ⟨twins.pawns, ?_, ⟨y', ?_, ?_, ?_, ?_⟩, twins.pool, twins.pooled, twins.spawned⟩
  · simp only [World.updateCannon, twins.cannons, List.modify_modify_eq]
    rfl
  · simp [World.updateCannon, here]
  · rw [congrArg CannonClass.cannonType move.config]
    exact kind
  · rw [congrArg CannonClass.projectileClass move.config]
    exact source
  · rw [move.pool]
    exact armed

/-- Both cannons launch. -/
theorem launch (twins : Twins c k cls s) {reply : Reply} (succeeds : reply.spawned = true) :
    Twins c k cls (⟨s.1.world.launchPooled c reply, s.1.launched ++ [s.1.world.launchTarget c]⟩,
      ⟨s.2.world.launchSpawned c reply, s.2.launched ++ [s.2.world.launchTarget c]⟩) := by
  obtain ⟨y, here, kind, source, armed⟩ := twins.cannon
  obtain ⟨pool, there, same, bare⟩ := twins.pool
  have here' : s.2.world.cannons[c]? = some y.unpool := by simp [twins.cannons, here]
  obtain ⟨stocked, sent, kept⟩ := World.launchPooled_owners here armed there same succeeds bare
  have owners' := World.launchSpawned_owners here' source succeeds
  obtain ⟨pooledPawns, pooledCannons, _⟩ :=
    World.perform_frame s.1.world c reply (show Outcome.pooled ≠ .traced by simp)
  obtain ⟨spawnedPawns, spawnedCannons, _⟩ :=
    World.perform_frame s.2.world c reply (show Outcome.spawned ≠ .traced by simp)
  simp only [World.perform] at pooledPawns pooledCannons spawnedPawns spawnedCannons
  refine ⟨?_, ?_, ⟨y, ?_, kind, source, armed⟩, stocked, ?_, ?_⟩
  · rw [pooledPawns, spawnedPawns]
    exact twins.pawns
  · rw [pooledCannons, spawnedCannons]
    exact twins.cannons
  · rw [pooledCannons]
    exact here
  · intro j member
    rcases List.mem_append.mp member with old | new
    · exact kept j none (twins.pooled j old)
    · obtain rfl := List.mem_singleton.mp new
      exact sent
  · intro j member
    rw [owners']
    rcases List.mem_append.mp member with old | new
    · have known := twins.spawned j old
      rw [List.getElem?_append_left (List.getElem?_eq_some_iff.mp known).1]
      exact known
    · obtain rfl := List.mem_singleton.mp new
      have target : s.2.world.launchTarget c = s.2.world.owners.length := by
        simp [World.launchTarget, here', Cannon.unpool, World.owners]
      rw [target, List.getElem?_concat_length]

theorem press (twins : Twins c k cls s) {which : Reload} {location : FVector} {rotation : FRotator}
    {reports : Report × Report}
    (first : s.1.step c (.press which location rotation) = some (s'.1, reports.1))
    (second : s.2.step c (.press which location rotation) = some (s'.2, reports.2)) :
    Twins c k cls s' ∧ reports.1.damage = none ∧ reports.2.damage = none := by
  obtain ⟨y, here, kind, source, armed⟩ := twins.cannon
  have here' : s.2.world.cannons[c]? = some y.unpool := by simp [twins.cannons, here]
  obtain ⟨y', outcome, acted, silent, how⟩ := Salvo.press_cases here kind first
  obtain ⟨next, outcome', acted', silent', how'⟩ := Salvo.press_cases here' kind second
  rw [Cannon.step_unpool, acted, Option.map_some] at acted'
  obtain ⟨rfl, rfl⟩ := Prod.mk.inj (Option.some.inj acted')
  have acts := twins.act here acted
  obtain ⟨s₁, s₂⟩ := s'
  refine ⟨?_, silent, silent'⟩
  rcases how with ⟨rfl, rfl⟩ | ⟨rfl, rfl⟩
  · rcases how' with ⟨_, rfl⟩ | ⟨launched, _⟩
    · exact acts
    · simp [Cannon.launch, Cannon.unpool, Outcome.unpool] at launched
  · have pooled : y.launch = .pooled := by simp [Cannon.launch, armed]
    have spawned : y.unpool.launch = .spawned := by simp [Cannon.launch, Cannon.unpool]
    rcases how' with ⟨refused, _⟩ | ⟨_, rfl⟩
    · simp [pooled, Outcome.unpool] at refused
    · have launches := acts.launch (show Reply.spawned { location, rotation } = true from rfl)
      have target := World.launchTarget_update here (Cannon.step_transition acted).pool
      have target' := World.launchTarget_update here' (show y'.unpool.projectilePool = y.unpool.projectilePool from rfl)
      simpa only [pooled, spawned, World.perform, target, target'] using launches

theorem reload (twins : Twins c k cls s) {reports : Report × Report}
    (first : s.1.step c .reloadTimer = some (s'.1, reports.1))
    (second : s.2.step c .reloadTimer = some (s'.2, reports.2)) :
    Twins c k cls s' ∧ reports.1.damage = none ∧ reports.2.damage = none := by
  obtain ⟨y, here, _⟩ := twins.cannon
  have here' : s.2.world.cannons[c]? = some y.unpool := by simp [twins.cannons, here]
  obtain ⟨y', outcome, acted, silent, how⟩ := Salvo.reload_cases here first
  obtain ⟨next, outcome', acted', silent', how'⟩ := Salvo.reload_cases here' second
  rw [Cannon.step_unpool, acted, Option.map_some] at acted'
  obtain ⟨rfl, rfl⟩ := Prod.mk.inj (Option.some.inj acted')
  obtain ⟨s₁, s₂⟩ := s'
  obtain ⟨rfl, rfl⟩ := And.intro how how'
  exact ⟨twins.act here acted, silent, silent'⟩

theorem onFlight (twins : Twins c k cls s) {n : Nat} {event : ProjectileId → World.Event}
    {reports : Report × Report}
    (harmless : ∀ j, (∃ forward, event j = .move j forward) ∨ event j = .deactivateTimer j ∨
      ∃ other, event j = .meshOverlapBegin j other ∧ ∀ p, other = .pawn p → ¬ p < s.1.world.pawns.length)
    (first : s.1.onFlight n event = some (s'.1, reports.1))
    (second : s.2.onFlight n event = some (s'.2, reports.2)) :
    Twins c k cls s' ∧ reports.1.damage = none ∧ reports.2.damage = none := by
  obtain ⟨i, _, moved, launched⟩ := Salvo.onFlight_cases first
  obtain ⟨j, _, moved', launched'⟩ := Salvo.onFlight_cases second
  obtain ⟨silent, f, keeps, same⟩ := World.flight_frame moved (harmless i)
  obtain ⟨silent', g, keeps', same'⟩ := World.flight_frame moved' (by
    rw [twins.pawns]
    exact harmless j)
  exact ⟨twins.flight keeps keeps' same same' launched launched', silent, silent'⟩

/-- A step that notifies no machine pawn keeps the copies alike and hurts nobody. -/
theorem step (twins : Twins c k cls s) {event : Salvo.Event} {reports : Report × Report}
    (taken : both (Salvo.step c) (Salvo.step c) s event = some (s', reports))
    (harmless : ¬ s.1.HitsPawn event) :
    Twins c k cls s' ∧ reports.1.damage = none ∧ reports.2.damage = none := by
  obtain ⟨first, second⟩ := both_iff.mp taken
  cases event with
  | press which location rotation => exact twins.press first second
  | reloadTimer => exact twins.reload first second
  | move n forward => exact twins.onFlight (fun j => .inl ⟨forward, rfl⟩) first second
  | deactivateTimer n => exact twins.onFlight (fun j => .inr (.inl rfl)) first second
  | meshOverlapBegin n other =>
      refine twins.onFlight (fun j => .inr (.inr ⟨other, rfl, ?_⟩)) first second
      rintro p rfl there
      exact harmless ⟨n, p, rfl, there⟩

end Twins

/-- What the two copies are compared by, damage makers aside. -/
structure Agree (c : CannonId) (t : Step (Salvo × Salvo) Salvo.Event (Report × Report)) : Prop where
  damage : t.output.1.damage.map (fun call => (call.victim, call.data.damageValue, call.data.instigator)) =
    t.output.2.damage.map (fun call => (call.victim, call.data.damageValue, call.data.instigator))
  score : ∀ p, t.after.1.world.scoreOf p - t.before.1.world.scoreOf p =
    t.after.2.world.scoreOf p - t.before.2.world.scoreOf p
  cannon :
    t.after.1.world.cannons[c]?.map (fun y => (y.currentAmmo, y.bMainCanFire, y.bAlternateCanFire, y.reloadTimer)) =
    t.after.2.world.cannons[c]?.map (fun y => (y.currentAmmo, y.bMainCanFire, y.bAlternateCanFire, y.reloadTimer))

namespace Twins

variable {c : CannonId} {k : PoolId} {cls : ProjectileClass}
  {t : Step (Salvo × Salvo) Salvo.Event (Report × Report)}

theorem agree (twins : Twins c k cls t.before)
    (taken : both (Salvo.step c) (Salvo.step c) t.before t.event = some (t.after, t.output))
    (harmless : ¬ t.before.1.HitsPawn t.event) : Agree c t := by
  obtain ⟨after, silent, silent'⟩ := twins.step taken harmless
  constructor
  · rw [silent, silent']
  · intro p
    simp only [World.scoreOf, after.pawns, twins.pawns]
  · obtain ⟨y, here, _⟩ := after.cannon
    rw [after.cannons, List.getElem?_modify_eq, here]
    rfl

/-- A pawn that is notified tells the copies apart: the pooled shot names no instigator,
the other names the cannon or spares its pawn. -/
theorem disagree (twins : Twins c k cls t.before)
    (taken : both (Salvo.step c) (Salvo.step c) t.before t.event = some (t.after, t.output))
    (hits : t.before.1.HitsPawn t.event) : ¬ Agree c t := by
  obtain ⟨first, second⟩ := both_iff.mp taken
  obtain ⟨n, p, overlap, there⟩ := hits
  rw [overlap] at first second
  obtain ⟨i, listed, moved, _⟩ := Salvo.onFlight_cases first
  obtain ⟨j, listed', moved', _⟩ := Salvo.onFlight_cases second
  obtain ⟨q, found, bare⟩ : ∃ q, t.before.1.world.projectiles[i]? = some q ∧ q.owner = none := by
    simpa [World.owners] using twins.pooled i listed
  obtain ⟨q', found', owned⟩ : ∃ q, t.before.2.world.projectiles[j]? = some q ∧ q.owner = some (.cannon c) := by
    simpa [World.owners] using twins.spawned j listed'
  have there' : p < t.before.2.world.pawns.length := by rw [twins.pawns]; exact there
  have size := (List.getElem?_eq_some_iff.mp found).1
  have size' := (List.getElem?_eq_some_iff.mp found').1
  simp only [World.step, if_pos size, Option.some.injEq] at moved
  simp only [World.step, if_pos size', Option.some.injEq] at moved'
  have damage := World.overlap_damage found there (by rw [bare]; rfl)
  rw [moved] at damage
  intro agree
  have same := agree.damage
  rw [show t.output.1.damage = _ from damage, bare] at same
  cases clear : t.before.2.world.excludes q'.owner (.pawn p) with
  | true =>
      have spared : (t.before.2.world.onMeshOverlapBegin j (.pawn p)).2.damage = none := by
        rcases World.overlap_cases found' (.pawn p) with ⟨spent, _⟩ | ⟨v, same, _, unguarded, _⟩
        · rw [spent]
        · rw [← same] at unguarded
          cases clear.symm.trans unguarded
      rw [moved'] at spared
      rw [show t.output.2.damage = none from spared] at same
      cases same
  | false =>
      have damage' := World.overlap_damage found' there' clear
      rw [moved'] at damage'
      rw [show t.output.2.damage = _ from damage', owned] at same
      simp at same

end Twins

namespace World

/-- The copies agree at every step exactly when no projectile they launch is notified of
a machine pawn. -/
theorem pooled_agrees_iff {w : World} {c : CannonId} {k : PoolId} {y : Cannon} {pool : ProjectilePool}
    {cls : ProjectileClass} (reachable : Reachable w) (here : w.cannons[c]? = some y)
    (kind : y.cannonType = .fireProjectile ∨ y.cannonType = .fireSPProjectile)
    (armed : y.projectilePool = some k) (there : w.pools[k]? = some pool)
    (source : y.projectileClass = some cls) (same : pool.projectileClass = some cls) {final : Salvo × Salvo}
    {trace : List (Step (Salvo × Salvo) Salvo.Event (Report × Report))}
    (run : Run (both (Salvo.step c) (Salvo.step c)) ({ world := w }, { world := w.unpool c }) trace final) :
    (∀ t ∈ trace, Agree c t) ↔ ∀ t ∈ trace, ¬ t.before.1.HitsPawn t.event := by
  refine run.forall_iff (Twins c k cls) (Agree c) (fun t => ¬ t.before.1.HitsPawn t.event) ?_ ?_ ?_
  · obtain ⟨start, history, initial, before⟩ := reachable
    have wired := (run_wired initial before).1
    refine ⟨rfl, rfl, ⟨y, here, kind, source, armed⟩, ⟨pool, there, same, ?_⟩, by simp, by simp⟩
    intro j member owner known
    obtain ⟨q, found, rfl⟩ : ∃ q, w.projectiles[j]? = some q ∧ q.owner = owner := by
      simpa [owners] using known
    have pooled : w.links.Pooled j :=
      ⟨pool.projectilePool, by simpa [links] using ⟨pool, List.mem_of_getElem? there, rfl⟩, member⟩
    rcases wired.projectile j q.link (projectile_link found) with ⟨_, bare, _⟩ | ⟨free, _⟩
    · exact bare
    · exact absurd pooled free
  · intro t taken twins harmless
    exact (twins.step taken harmless).1
  · intro t taken twins
    constructor
    · intro agree hits
      exact twins.disagree taken hits agree
    · exact twins.agree taken

def squad : World := (Foundation.perform World.step (duel duelPool) [.beginPlay 0 {} {}, .beginPlay 1 {} {}]).2

theorem squad_reachable : Reachable squad :=
  ⟨_, _, duel_initial duelPool, perform_run _ _ _⟩

def squadTrace (events : List Salvo.Event) : List (Step (Salvo × Salvo) Salvo.Event (Report × Report)) :=
  (Foundation.perform (both (Salvo.step 0) (Salvo.step 0)) ({ world := squad }, { world := squad.unpool 0 })
    events).1

def near : FVector := ⟨100, 0, 50⟩

/-- Two shots, the first back in the pool before the second. -/
def drill : List Salvo.Event :=
  [.press .main near ⟨0, 0, 0⟩, .move 0 ⟨1, 0, 0⟩, .meshOverlapBegin 0 (.other 7), .reloadTimer,
    .press .main near ⟨0, 0, 0⟩, .move 1 ⟨1, 0, 0⟩, .deactivateTimer 1]

theorem pooled_agrees_iff_drill : (squadTrace drill).length = 7 ∧ ∀ t ∈ squadTrace drill, Agree 0 t := by
  refine ⟨by decide +kernel, ?_⟩
  refine (pooled_agrees_iff squad_reachable rfl (.inl rfl) rfl rfl rfl rfl (perform_run _ _ drill)).mpr ?_
  rintro t member ⟨n, p, overlap, _⟩
  obtain ⟨i, found⟩ := List.mem_iff_getElem?.mp member
  have listed := List.mem_of_getElem? (Foundation.perform_event _ _ _ _ _ found)
  rw [overlap] at listed
  simp [drill] at listed

/-- The first shot hits the other pawn. -/
def pointBlank : List Salvo.Event := [.press .main near ⟨0, 0, 0⟩, .meshOverlapBegin 0 (.pawn 1)]

theorem pointBlank_hits : 1 < (squadTrace pointBlank).length := by decide +kernel

-- The pooled shot names nobody, the spawned one its cannon.
theorem pooled_shot_anonymous :
    ¬ ∀ (w : World) (c : CannonId) (k : PoolId) (y : Cannon) (pool : ProjectilePool) (cls : ProjectileClass)
      (final : Salvo × Salvo) (trace : List (Step (Salvo × Salvo) Salvo.Event (Report × Report))),
      Reachable w → w.cannons[c]? = some y →
      (y.cannonType = .fireProjectile ∨ y.cannonType = .fireSPProjectile) → y.projectilePool = some k →
      w.pools[k]? = some pool → y.projectileClass = some cls → pool.projectileClass = some cls →
      Run (both (Salvo.step c) (Salvo.step c)) ({ world := w }, { world := w.unpool c }) trace final →
      ∀ t ∈ trace, Agree c t := by
  intro claim
  have agree := claim squad 0 0 _ _ _ _ (squadTrace pointBlank) squad_reachable rfl (.inl rfl) rfl rfl rfl rfl
    (perform_run _ _ pointBlank) _ (List.get_mem _ ⟨1, pointBlank_hits⟩)
  exact absurd agree.damage (by decide +kernel)

end World

end TankoGeddon
