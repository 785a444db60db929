import TankoGeddon.World.Depot
import TankoGeddon.World.Effects

/-! The depot of a level, and what each operation does to it. -/

set_option autoImplicit false

namespace TankoGeddon

open Foundation (Timer map_modify map_modify_hidden modify_concat)

/-- `Fire` and `AlternateFire` of these types ask the pool when there is one. -/
def CannonClass.launchesPooled (cls : CannonClass) : Bool :=
  cls.cannonType == .fireProjectile || cls.cannonType == .fireSPProjectile

def Cannon.mount (y : Cannon) : Mount := ⟨!y.bActorIsBeingDestroyed, y.launchesPooled, y.projectilePool⟩

/-- The elements `InitializePool` makes. -/
def PoolClass.made (pc : PoolClass) (answers : Nat → Bool) : Nat :=
  if pc.projectileClass.isSome then (List.range pc.poolSize.toNat).countP answers else 0

/-- The elements of the pool a new cannon gets, if it gets a pool. -/
def CannonClass.stock (cls : CannonClass) (reply : CannonReply) : Option Nat :=
  match cls.projectilePoolClass, reply.poolSpawned with
  | some pc, true => some (pc.made reply.elementSpawned)
  | _, _ => none

def Projectile.shot (q : Projectile) : Shot :=
  ⟨q.moveTimer.isSome, !q.bIsActivation || q.deactivateTimer.isSome⟩

/-- An element of the class right after `GetProjectile`. -/
def ProjectileClass.launched (cls : ProjectileClass) : Shot :=
  ⟨decide (0 < cls.moveRate), decide (0 < cls.deactivateTime)⟩

/-- A step of a cannon leaves its mount. -/
theorem Cannon.Transition.mount {y y' : Cannon} {event : Cannon.Event} {outcome : Outcome}
    (move : Cannon.Transition y event y' outcome) : y'.mount = y.mount := by
  have same := congrArg Cannon.mount move.frame
  exact same

namespace World

def depot (w : World) : Depot :=
  ⟨w.cannons.map Cannon.mount, w.pools.map (·.projectilePool), w.projectiles.map Projectile.shot⟩

theorem mount_at {w : World} {c : CannonId} {y : Cannon} (here : w.cannons[c]? = some y) :
    w.depot.mounts[c]? = some y.mount := by simp [depot, here]

theorem mount_mem {w : World} {c : CannonId} {y : Cannon} (here : w.cannons[c]? = some y) :
    y.mount ∈ w.depot.mounts := List.mem_of_getElem? (mount_at here)

/-! Updates. -/

theorem depot_updateCannon (w : World) (c : CannonId) {f : Cannon → Cannon}
    (hidden : ∀ y, w.cannons[c]? = some y → (f y).mount = y.mount) : (w.updateCannon c f).depot = w.depot := by
  simp only [depot, updateCannon]
  rw [map_modify_hidden _ _ _ hidden]

theorem depot_acted {w : World} {c : CannonId} {y : Cannon} {event : Cannon.Event} {next : Cannon × Outcome}
    (here : w.cannons[c]? = some y) (acted : y.step event = some next) :
    (w.updateCannon c fun _ => next.1).depot = w.depot := by
  apply depot_updateCannon
  intro y₀ here₀
  obtain rfl : y = y₀ := Option.some.inj (here.symm.trans here₀)
  exact (Cannon.step_transition acted).mount

theorem depot_destroyOld (w : World) (old : Option CannonId) : (w.destroyOld old).depot = w.depot.destroyOld old := by
  cases old with
  | none => rfl
  | some c =>
      simp only [destroyOld, destroyCannon, depot, updateCannon, Depot.destroyOld, Depot.destroy]
      rw [map_modify Cannon.mount w.cannons c (g := fun m => { m with alive := false }) fun _ _ => rfl]

theorem depot_move (w : World) (j : ProjectileId) (forward : FVector) :
    (w.updateProjectile j (Projectile.move forward)).depot = w.depot := by
  simp only [depot, updateProjectile]
  rw [map_modify_hidden Projectile.shot w.projectiles j (f := Projectile.move forward) fun _ _ => rfl]

theorem depot_deactivate (w : World) (j : ProjectileId) :
    (w.updateProjectile j Projectile.deactivate).depot = w.depot.set j Shot.stored := by
  simp only [depot, updateProjectile, Depot.set]
  rw [map_modify Projectile.shot w.projectiles j (g := fun _ => Shot.stored) fun _ _ => rfl]

/-! Damage and score. -/

theorem depot_die (w : World) (p : PawnId) :
    (w.die p).depot = w.depot.destroyOld (w.pawns[p]?.bind (·.cannon)) := by
  rw [die_eq]
  exact depot_destroyOld w _

/-- Damage that kills destroys the main cannon of its victim. -/
theorem takeDamage_depot (w : World) (p : PawnId) (damageData : FDamageData) :
    w.pawnAlive p = true ∧ (w.takeDamage p damageData).pawnAlive p = false ∧
      (w.takeDamage p damageData).depot = w.depot.destroyOld (w.pawns[p]?.bind (·.cannon)) ∨
    ¬ (w.pawnAlive p = true ∧ (w.takeDamage p damageData).pawnAlive p = false) ∧
      (w.takeDamage p damageData).depot = w.depot := by
  cases found : w.pawns[p]? with
  | none =>
      have same : w.takeDamage p damageData = w := by simp only [takeDamage, found]
      rw [same]
      exact .inr ⟨fun both => by simp [both.1] at both, rfl⟩
  | some x =>
      have alive : w.pawnAlive p = !x.bActorIsBeingDestroyed := by simp [pawnAlive, found]
      have after : (w.takeDamage p damageData).pawnAlive p = !(x.struck damageData).bActorIsBeingDestroyed := by
        simp [pawnAlive, takeDamage_struck found]
      rw [alive, after]
      simp only [takeDamage, found]
      split
      · next fatal =>
        split
        · next dead => exact .inr ⟨by simp [dead], rfl⟩
        · next living =>
          have gone : (x.struck damageData).bActorIsBeingDestroyed = true := by
            simp [MachinePawn.struck, fatal, living, MachinePawn.destroy]
          refine .inl ⟨by simpa using living, by simp [gone], ?_⟩
          rw [depot_die]
          simp only [updatePawn, List.getElem?_modify_eq, found]
          rfl
      · next value hurt =>
        have same : (x.struck damageData).bActorIsBeingDestroyed = x.bActorIsBeingDestroyed := by
          simp [MachinePawn.struck, hurt]
        exact .inr ⟨by simp [same], rfl⟩

theorem depot_addScore (w : World) (c : CannonId) (scoreValue : Scalar) :
    (w.addScore c scoreValue).depot = w.depot := by
  unfold addScore
  split
  · refine List.foldlRecOn (motive := fun heard : World => heard.depot = w.depot) _ _ rfl ?_
    intro heard kept p _
    unfold showScore
    split <;> exact kept
  · rfl

theorem depot_broadcastOnKilled (w : World) (j : ProjectileId) (scoreValue : Scalar) :
    (w.broadcastOnKilled j scoreValue).depot = w.depot := by
  unfold broadcastOnKilled
  refine List.foldlRecOn (motive := fun heard : World => heard.depot = w.depot) _ _ rfl ?_
  intro heard kept c _
  exact (depot_addScore heard c scoreValue).trans kept

/-! Launches. -/

theorem start_flies (q : Projectile) : q.start.moveTimer.isSome = decide (0 < q.moveRate) := by
  rw [Bool.eq_iff_iff, decide_eq_true_iff]
  exact Timer.set_isSome_iff _ _

theorem start_expires (q : Projectile) : q.start.deactivateTimer.isSome = decide (0 < q.deactivateTime) := by
  rw [Bool.eq_iff_iff, decide_eq_true_iff]
  exact Timer.set_isSome_iff _ _

theorem reuse_shot (location : FVector) (rotation : FRotator) (q : Projectile) :
    (PoolState.reuse location rotation q).shot = q.toProjectileClass.launched := by
  simp only [Projectile.shot, PoolState.reuse, start_flies, start_expires]
  simp [ProjectileClass.launched, Projectile.start]

/-- A spawned projectile flies at a positive rate. -/
theorem launchSpawned_depot {w : World} {c : CannonId} {y : Cannon} (here : w.cannons[c]? = some y) (reply : Reply) :
    (∃ cls, y.projectileClass = some cls ∧ reply.spawned = true ∧
      (w.launchSpawned c reply).depot = w.depot.spawn ⟨decide (0 < cls.moveRate), true⟩) ∨
    (y.projectileClass = none ∨ reply.spawned = false) ∧ (w.launchSpawned c reply).depot = w.depot := by
  have read : w.cannons[c]?.bind (·.projectileClass) = y.projectileClass := by rw [here]; rfl
  cases source : y.projectileClass with
  | none => exact .inr ⟨.inl rfl, by simp only [launchSpawned, read, source]⟩
  | some cls =>
      cases spawned : reply.spawned with
      | false => exact .inr ⟨.inr rfl, by simp only [launchSpawned, read, source, spawned]⟩
      | true =>
          refine .inl ⟨cls, rfl, rfl, ?_⟩
          simp only [launchSpawned, read, source, spawned, depot, Depot.spawn, List.map_append, List.map_singleton,
            Projectile.shot, start_flies]
          rfl

/-- The class of the projectile that `GetProjectile` starts for the cannon: that of the
first idle element, or else the class of the pool where the spawn succeeds. -/
def drawn (w : World) (c : CannonId) (reply : Reply) : Option ProjectileClass :=
  (w.cannons[c]?.bind (·.projectilePool)).bind fun k => w.pools[k]?.bind fun pool =>
    match PoolState.firstIdle { pool, projectiles := w.projectiles } with
    | some j => w.projectiles[j]?.map (·.toProjectileClass)
    | none => if reply.spawned then pool.projectileClass else none

/-- A pooled launch starts an element of the pool, adds one to it, or does nothing. -/
theorem launchPooled_depot (w : World) (c : CannonId) (reply : Reply) :
    w.drawn c reply = none ∧ (w.launchPooled c reply).depot = w.depot ∨
    ∃ k elements cls, w.cannons[c]?.bind (·.projectilePool) = some k ∧ w.depot.pools[k]? = some elements ∧
      w.drawn c reply = some cls ∧
      ((∃ j ∈ elements, (w.launchPooled c reply).depot = w.depot.set j cls.launched) ∨
        (w.launchPooled c reply).depot = w.depot.extend k cls.launched) := by
  cases source : w.cannons[c]?.bind (·.projectilePool) with
  | none => exact .inl ⟨by simp only [drawn, source, Option.bind_none], by simp only [launchPooled, source]⟩
  | some k =>
  cases there : w.pools[k]? with
  | none =>
      exact .inl ⟨by simp only [drawn, source, there, Option.bind_some, Option.bind_none],
        by simp only [launchPooled, source, there]⟩
  | some pool =>
  have array : w.depot.pools[k]? = some pool.projectilePool := by simp [depot, there]
  simp only [launchPooled, drawn, source, there, Option.bind_some]
  rcases PoolState.getProjectile_cases { pool, projectiles := w.projectiles } reply.location
    reply.rotation reply.spawned with
      ⟨j, member, search, idle, same⟩ | ⟨search, cls, kind, spawned, same⟩ | ⟨search, failed, same⟩
  · obtain ⟨q, found, _⟩ : ∃ q, w.projectiles[j]? = some q ∧ q.bIsActivation = false := by
      simpa [PoolState.isIdle, Option.any_eq_true] using idle
    refine .inr ⟨k, _, q.toProjectileClass, rfl, array, by simp [search, found], .inl ⟨j, member, ?_⟩⟩
    simp only [search, same, Option.getD_some, List.modify_modify_eq, depot, Depot.set]
    rw [arrays_modify there pool.projectilePool true (g := id) rfl, List.modify_id,
      map_modify Projectile.shot w.projectiles j (g := fun _ => q.toProjectileClass.launched)]
    intro q' found'
    obtain rfl : q = q' := Option.some.inj (found.symm.trans found')
    exact reuse_shot _ _ q
  · refine .inr ⟨k, _, cls, rfl, array, by simpa [search, spawned] using kind, .inr ?_⟩
    simp only [search, same, Option.getD_none, modify_concat, depot, Depot.extend, List.map_append,
      List.map_singleton, List.length_map]
    rw [arrays_modify there _ false (g := (· ++ [w.projectiles.length])) rfl]
    congr 3
    exact reuse_shot _ _ (.spawn cls _ _)
  · refine .inl ⟨?_, ?_⟩
    · rcases failed with unset | failed
      · have kind : pool.projectileClass = none := unset
        simp [search, kind]
      · simp [search, failed]
    · simp only [search, same, Option.getD_none, List.modify_eq_self (le_refl _), depot]
      rw [arrays_modify there pool.projectilePool false (g := id) rfl, List.modify_id]

/-! Arming. -/

theorem spawnCannon_depot {w w' : World} {cls : CannonClass} {p : PawnId} {reply : CannonReply}
    {c : CannonId} (made : w.spawnCannon cls p reply = (w', some c)) :
    w'.depot = w.depot.mount cls.launchesPooled (cls.stock reply) := by
  unfold spawnCannon at made
  split at made
  · obtain ⟨rfl, -⟩ := Prod.mk.inj made
    cases pools : cls.projectilePoolClass with
    | none =>
        simp only [createProjectilePool, CannonClass.stock, pools, depot, Depot.mount, List.map_append,
          List.map_singleton]
        rfl
    | some pc =>
        cases spawned : reply.poolSpawned with
        | false =>
            simp only [createProjectilePool, CannonClass.stock, pools, spawned, depot, Depot.mount,
              List.map_append, List.map_singleton]
            rfl
        | true =>
            simp only [createProjectilePool, CannonClass.stock, pools, spawned, PoolState.initializePool]
            cases source : pc.projectileClass with
            | none =>
                rw [PoolState.initializeLoop_none source]
                simp only [depot, Depot.mount, PoolClass.made, source, List.map_append, List.map_singleton]
                simp [Cannon.mount, Cannon.beginPlay, Cannon.spawn]
            | some kind =>
                rw [PoolState.initializeLoop_some source]
                simp only [depot, Depot.mount, PoolClass.made, source, List.map_append, List.map_singleton]
                have stored : (PoolState.stored kind).shot = Shot.stored := rfl
                simp [Cannon.mount, Cannon.beginPlay, Cannon.spawn, stored]
  · cases (Prod.mk.inj made).2

/-- Both halves of `SetupCannon` complete the new cannon in what the depot does not know. -/
theorem completed_depot {w : World} {p : PawnId} {c : CannonId} {f : MachinePawn → MachinePawn} {g : Cannon → Cannon}
    (hidden : ∀ y, (g y).mount = y.mount) : ((w.updatePawn p f).updateCannon c g).depot = w.depot :=
  depot_updateCannon _ c fun y _ => hidden y

theorem setupMain_depot {w w' : World} {p : PawnId} {cls : CannonClass} {reply : CannonReply}
    (done : w.setupMain p cls reply = some w') :
    w'.depot = w.depot.arm (w.pawns[p]?.bind (·.cannon)) cls.launchesPooled (cls.stock reply) := by
  unfold setupMain at done
  simp only [] at done
  split at done
  · next w₁ c made =>
    obtain rfl := Option.some.inj done
    refine (completed_depot ?_).trans ?_
    · intro y
      rfl
    · rw [spawnCannon_depot made, depot_destroyOld]
      rfl
  · cases done

theorem setupAlternate_depot {w w' : World} {p : PawnId} {reply : CannonReply}
    (done : w.setupAlternate p reply = some w') :
    w.pawns[p]?.bind (·.alternateCannonClass) = none ∧ w'.depot = w.depot ∨
    ∃ cls, w.pawns[p]?.bind (·.alternateCannonClass) = some cls ∧
      w'.depot = w.depot.arm (w.pawns[p]?.bind (·.alternateCannon)) cls.launchesPooled (cls.stock reply) := by
  unfold setupAlternate at done
  split at done
  · next none =>
    obtain rfl := Option.some.inj done
    exact .inl ⟨none, rfl⟩
  next cls armed =>
  simp only [] at done
  split at done
  · next w₁ c made =>
    obtain rfl := Option.some.inj done
    refine .inr ⟨cls, armed, ?_⟩
    refine (completed_depot ?_).trans ?_
    · intro y
      rfl
    · rw [spawnCannon_depot made, depot_destroyOld]
      rfl
  · cases done

end World

end TankoGeddon
