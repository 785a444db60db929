import TankoGeddon.World.Histories
import TankoGeddon.World.Reclaim

/-! What a step does to the pools and the projectiles of a level, said once.

A step launches at most one projectile, moves or stops at most one, or stocks the
pools of new cannons. A pool is only asked by a cannon whose trigger went off.
-/

set_option autoImplicit false

namespace TankoGeddon

open Foundation (Run Step modify_concat)

/-- An element started from a pose by the pool of a cannon. -/
def Projectile.relaunch (location : FVector) (rotation : FRotator) (launcher : CannonId) (q : Projectile) :
    Projectile :=
  { PoolState.reuse location rotation q with launcher := some launcher }

namespace World

/-- A new pool, of so many stored elements. -/
inductive Restock (w w' : World) : Prop where
  | pool {pc : PoolClass} {n : Nat} (pools : w'.pools = w.pools ++
        [{ pc with projectilePool := List.range' w.projectiles.length n }])
      (projectiles : ∀ cls, pc.projectileClass = some cls →
        w'.projectiles = w.projectiles ++ List.replicate n (PoolState.stored cls))
      (empty : pc.projectileClass = none → n = 0 ∧ w'.projectiles = w.projectiles)

abbrev Restocks := Relation.ReflTransGen fun w w' : World =>
  Restock w w' ∨ w'.pools = w.pools ∧ w'.projectiles = w.projectiles

/-- A call that asks the engine for a projectile. -/
structure Launches (w : World) (event : Event) (report : Report) (c : CannonId) (y : Cannon) (outcome : Outcome)
    (reply : Reply) : Prop where
  here : w.cannons[c]? = some y
  call : ∃ call y', w.calls event = some (c, call) ∧ y.step call = some (y', outcome)
  shows : report.launch = some c
  brings : event.reply = some reply

inductive Traffic (w : World) (event : Event) (report : Report) (w' : World) : Prop where
  | quiet (pools : w'.pools = w.pools) (projectiles : w'.projectiles = w.projectiles)
      (stays : event.retires = none) (still : ∀ j forward, event ≠ .move j forward)
  | restock (quiet : w.calls event = none) (stays : event.retires = none) (still : ∀ j forward, event ≠ .move j forward)
      (restocks : Restocks w w')
  | moved {j : ProjectileId} {forward : FVector} {q : Projectile} (named : event = .move j forward)
      (found : w.projectiles[j]? = some q) (pending : q.moveTimer.isSome = true) (pools : w'.pools = w.pools)
      (projectiles : w'.projectiles = w.projectiles.modify j (Projectile.move forward))
  | stopped {j : ProjectileId} {q : Projectile} (retires : event.retires = some j)
      (found : w.projectiles[j]? = some q)
      (due : event = .deactivateTimer j → q.deactivateTimer.isSome = true) (pools : w'.pools = w.pools)
      (projectiles : w'.projectiles = w.projectiles.modify j Projectile.deactivate)
  | spawned {c : CannonId} {y : Cannon} {outcome : Outcome} {reply : Reply} {cls : ProjectileClass}
      (launches : Launches w event report c y outcome reply) (unpooled : outcome ≠ .pooled)
      (source : y.projectileClass = some cls) (pools : w'.pools = w.pools)
      (projectiles : w'.projectiles = w.projectiles ++
        [{ Projectile.spawn cls reply.location reply.rotation with
            onKilled := [c]
            owner := some (.cannon c)
            launcher := some c }.start])
  | reused {c : CannonId} {y : Cannon} {reply : Reply} {k : PoolId} {pool : ProjectilePool} {j : ProjectileId}
      {q : Projectile} (launches : Launches w event report c y .pooled reply) (holds : y.projectilePool = some k)
      (there : w.pools[k]? = some pool) (member : j ∈ pool.projectilePool)
      (found : w.projectiles[j]? = some q) (idle : q.bIsActivation = false)
      (pools : w'.pools = w.pools.modify k fun _ => { pool with bHaveActiveProjectile := true })
      (projectiles : w'.projectiles = w.projectiles.modify j (Projectile.relaunch reply.location reply.rotation c))
  | grown {c : CannonId} {y : Cannon} {reply : Reply} {k : PoolId} {pool : ProjectilePool} {cls : ProjectileClass}
      (launches : Launches w event report c y .pooled reply) (holds : y.projectilePool = some k)
      (there : w.pools[k]? = some pool) (full : ∀ j ∈ pool.projectilePool, ¬ PoolState.isIdle w.projectiles j = true)
      (source : pool.projectileClass = some cls)
      (pools : w'.pools = w.pools.modify k fun _ =>
        { pool with
          projectilePool := pool.projectilePool ++ [w.projectiles.length]
          bHaveActiveProjectile := false })
      (projectiles : w'.projectiles = w.projectiles ++
        [Projectile.relaunch reply.location reply.rotation c (.spawn cls reply.location reply.rotation)])
  | missed {c : CannonId} {y : Cannon} {reply : Reply} {k : PoolId} {pool : ProjectilePool}
      (launches : Launches w event report c y .pooled reply) (holds : y.projectilePool = some k)
      (there : w.pools[k]? = some pool)
      (pools : w'.pools = w.pools.modify k fun _ => { pool with bHaveActiveProjectile := false })
      (projectiles : w'.projectiles = w.projectiles)

/-! Arming. -/

theorem createProjectilePool_restocks (w : World) (pc : Option PoolClass) (reply : CannonReply) :
    Restocks w (w.createProjectilePool pc reply).1 := by
  unfold createProjectilePool
  split
  · next pc _ =>
    apply Relation.ReflTransGen.single
    left
    cases source : pc.projectileClass with
    | none =>
        simp only [PoolState.initializePool]
        rw [PoolState.initializeLoop_none source]
        exact @Restock.pool _ _ pc 0 rfl (by simp [source]) fun _ => ⟨rfl, rfl⟩
    | some cls =>
        simp only [PoolState.initializePool]
        rw [PoolState.initializeLoop_some source]
        refine @Restock.pool _ _ pc ((List.range pc.poolSize.toNat).countP reply.elementSpawned) rfl ?_ (by simp [source])
        rintro _ same
        obtain rfl := Option.some.inj (source.symm.trans same)
        rfl
  · exact .refl

/-- Whatever else differs, the pools and the projectiles are the same. -/
theorem restocks_same {w w' : World} (pools : w'.pools = w.pools) (projectiles : w'.projectiles = w.projectiles) :
    Restocks w w' := .single (.inr ⟨pools, projectiles⟩)

theorem destroyOld_stores (w : World) (old : Option CannonId) :
    (w.destroyOld old).pools = w.pools ∧ (w.destroyOld old).projectiles = w.projectiles := by
  cases old <;> exact ⟨rfl, rfl⟩

theorem spawnCannon_restocks {w w' : World} {cls : CannonClass} {p : PawnId} {reply : CannonReply} {c : CannonId}
    (made : w.spawnCannon cls p reply = (w', some c)) : Restocks w w' := by
  unfold spawnCannon at made
  split at made
  · obtain ⟨rfl, -⟩ := Prod.mk.inj made
    exact (createProjectilePool_restocks w cls.projectilePoolClass reply).trans (restocks_same rfl rfl)
  · cases (Prod.mk.inj made).2

theorem setupMain_restocks {w w' : World} {p : PawnId} {cls : CannonClass} {reply : CannonReply}
    (done : w.setupMain p cls reply = some w') : Restocks w w' := by
  unfold setupMain at done
  simp only [] at done
  split at done
  · next w₁ c made =>
    obtain rfl := Option.some.inj done
    obtain ⟨pools, projectiles⟩ := destroyOld_stores w (w.pawns[p]?.bind (·.cannon))
    exact ((restocks_same pools projectiles).trans (spawnCannon_restocks made)).trans (restocks_same rfl rfl)
  · cases done

theorem setupAlternate_restocks {w w' : World} {p : PawnId} {reply : CannonReply}
    (done : w.setupAlternate p reply = some w') : Restocks w w' := by
  unfold setupAlternate at done
  split at done
  · obtain rfl := Option.some.inj done
    exact .refl
  simp only [] at done
  split at done
  · next w₁ c made =>
    obtain rfl := Option.some.inj done
    obtain ⟨pools, projectiles⟩ := destroyOld_stores w (w.pawns[p]?.bind (·.alternateCannon))
    exact ((restocks_same pools projectiles).trans (spawnCannon_restocks made)).trans (restocks_same rfl rfl)
  · cases done

theorem setupCannon_restocks {w w' : World} {p : PawnId} {cls : Option CannonClass} {main alternate : CannonReply}
    (done : w.setupCannon p cls main alternate = some w') : Restocks w w' := by
  unfold setupCannon at done
  split at done
  · obtain rfl := Option.some.inj done
    exact .refl
  · obtain ⟨w₁, first, second⟩ := Option.bind_eq_some_iff.mp done
    exact (setupMain_restocks first).trans (setupAlternate_restocks second)

/-! Launches. -/

variable {w w₁ : World} {event : Event} {c : CannonId} {y : Cannon} {reply : Reply}

theorem launchSpawned_traffic {outcome : Outcome} (unpooled : outcome ≠ .pooled)
    (launches : Launches w event { launch := some c } c y outcome reply) {y₁ : Cannon}
    (there : w₁.cannons[c]? = some y₁) (ammunition : y₁.projectileClass = y.projectileClass)
    (pools : w₁.pools = w.pools) (projectiles : w₁.projectiles = w.projectiles) (stays : event.retires = none)
    (still : ∀ j forward, event ≠ .move j forward) :
    Traffic w event { launch := some c } (w₁.launchSpawned c reply) := by
  have read : w₁.cannons[c]?.bind (·.projectileClass) = y.projectileClass := by
    rw [there, Option.bind_some, ammunition]
  cases source : y.projectileClass with
  | none =>
      have same : w₁.launchSpawned c reply = w₁ := by simp only [launchSpawned, read, source]
      rw [same]
      exact .quiet pools projectiles stays still
  | some cls =>
      cases spawned : reply.spawned with
      | false =>
          have same : w₁.launchSpawned c reply = w₁ := by simp only [launchSpawned, read, source, spawned]
          rw [same]
          exact .quiet pools projectiles stays still
      | true =>
          refine .spawned launches unpooled source ?_ ?_
          · simp only [launchSpawned, read, source, spawned, pools]
          · simp only [launchSpawned, read, source, spawned, projectiles]

theorem launchPooled_traffic (launches : Launches w event { launch := some c } c y .pooled reply) {y₁ : Cannon}
    (there : w₁.cannons[c]? = some y₁) (supply : y₁.projectilePool = y.projectilePool)
    (pools : w₁.pools = w.pools) (projectiles : w₁.projectiles = w.projectiles) (stays : event.retires = none)
    (still : ∀ j forward, event ≠ .move j forward) :
    Traffic w event { launch := some c } (w₁.launchPooled c reply) := by
  have read : w₁.cannons[c]?.bind (·.projectilePool) = y.projectilePool := by rw [there, Option.bind_some, supply]
  cases holds : y.projectilePool with
  | none =>
      have same : w₁.launchPooled c reply = w₁ := by simp only [launchPooled, read, holds]
      rw [same]
      exact .quiet pools projectiles stays still
  | some k =>
      cases known : w.pools[k]? with
      | none =>
          have same : w₁.launchPooled c reply = w₁ := by simp only [launchPooled, read, holds, pools, known]
          rw [same]
          exact .quiet pools projectiles stays still
      | some pool =>
          have final : w₁.launchPooled c reply =
              { w₁ with
                pools := w.pools.modify k fun _ =>
                  (PoolState.getProjectile { pool, projectiles := w.projectiles } reply.location reply.rotation
                    reply.spawned).pool
                projectiles := (PoolState.getProjectile { pool, projectiles := w.projectiles } reply.location
                  reply.rotation reply.spawned).projectiles.modify
                    ((PoolState.firstIdle { pool, projectiles := w.projectiles }).getD w.projectiles.length)
                    fun q => { q with launcher := some c } } := by
            simp only [launchPooled, read, holds, pools, known, projectiles]
          rw [final]
          rcases PoolState.getProjectile_cases { pool, projectiles := w.projectiles } reply.location
            reply.rotation reply.spawned with
              ⟨j, member, search, idle, same⟩ | ⟨search, cls, source, -, same⟩ | ⟨search, -, same⟩
          · obtain ⟨q, found, rests⟩ : ∃ q, w.projectiles[j]? = some q ∧ q.bIsActivation = false := by
              simpa [PoolState.isIdle, Option.any_eq_true] using idle
            refine .reused launches holds known member found rests ?_ ?_
            · simp only [same]
            · simp only [same, search, Option.getD_some, List.modify_modify_eq]
              rfl
          · refine .grown launches holds known (List.find?_eq_none.mp search) source ?_ ?_
            · simp only [same]
            · simp only [same, search, Option.getD_none, modify_concat]
              rfl
          · refine .missed launches holds known ?_ ?_
            · simp only [same]
            · simp only [same, search, Option.getD_none, List.modify_eq_self (le_refl _)]

/-! Hits. -/

theorem takeDamage_pools (w : World) (p : PawnId) (damageData : FDamageData) :
    (w.takeDamage p damageData).pools = w.pools := by
  unfold takeDamage
  cases w.pawns[p]? with
  | none => rfl
  | some x =>
      simp only []
      split
      · split
        · rfl
        · rw [die_eq]
          exact (destroyOld_stores _ _).1
      · rfl

theorem broadcast_stores (w : World) (j : ProjectileId) (scoreValue : Scalar) :
    (w.broadcastOnKilled j scoreValue).pools = w.pools ∧
      (w.broadcastOnKilled j scoreValue).projectiles = w.projectiles := by
  unfold broadcastOnKilled
  refine List.foldlRecOn
    (motive := fun heard : World => heard.pools = w.pools ∧ heard.projectiles = w.projectiles) _ _ ⟨rfl, rfl⟩ ?_
  intro heard kept c _
  unfold addScore
  split
  · refine List.foldlRecOn
      (motive := fun told : World => told.pools = w.pools ∧ told.projectiles = w.projectiles) _ _ kept ?_
    intro told same p _
    unfold showScore
    split <;> exact same
  · exact kept

theorem overlap_stores {j : ProjectileId} {q : Projectile} (found : w.projectiles[j]? = some q) (other : Actor) :
    (w.onMeshOverlapBegin j other).1.pools = w.pools ∧
      (w.onMeshOverlapBegin j other).1.projectiles = w.projectiles.modify j Projectile.deactivate := by
  rcases overlap_cases found other with ⟨same, _⟩ | ⟨v, _, _, _, same⟩
  · rw [same]
    exact ⟨rfl, rfl⟩
  · rw [same]
    simp only [updateProjectile]
    split
    · obtain ⟨pools, projectiles⟩ := broadcast_stores (w.takeDamage v (overlapData j q)) j (w.pointsOf (.pawn v))
      rw [pools, projectiles, takeDamage_pools, takeDamage_projectiles]
      exact ⟨rfl, rfl⟩
    · rw [takeDamage_pools, takeDamage_projectiles]
      exact ⟨rfl, rfl⟩

theorem lineTrace_stores (w : World) (c : CannonId) (hit : Option Actor) :
    (w.lineTrace c hit).1.pools = w.pools ∧ (w.lineTrace c hit).1.projectiles = w.projectiles := by
  rcases lineTrace_cases w c hit with missed | ⟨y, v, _, _, _, _, dealt⟩
  · rw [missed]
    exact ⟨rfl, rfl⟩
  · rw [dealt]
    exact ⟨takeDamage_pools w v _, takeDamage_projectiles w v _⟩

/-! One step. -/

/-- An event that calls a cannon names no projectile. -/
theorem calls_plain {called : CannonId × Cannon.Event} (made : w.calls event = some called) :
    event.retires = none ∧ ∀ j forward, event ≠ .move j forward := by
  cases event <;> first | (cases made; done) | exact ⟨rfl, by simp⟩

theorem reply_plain (brings : event.reply = some reply) :
    event.retires = none ∧ ∀ j forward, event ≠ .move j forward := by
  cases event <;> first | (cases brings; done) | exact ⟨rfl, by simp⟩

theorem step_traffic (wired : w.links.Wired) {result : World × Report} (taken : w.step event = some result) :
    Traffic w event result.2 result.1 := by
  cases made : w.calls event with
  | some called =>
      obtain ⟨c, call⟩ := called
      obtain ⟨stays, still⟩ := calls_plain made
      obtain ⟨y, ⟨y', outcome⟩, reply, here, acted, _, brings, rfl⟩ := calls_acts wired taken made
      have there : (w.updateCannon c fun _ => y').cannons[c]? = some y' := by simp [updateCannon, here]
      have move := Cannon.step_transition acted
      have ammunition : y'.projectileClass = y.projectileClass := congrArg CannonClass.projectileClass move.config
      cases outcome with
      | spawned | burstShot =>
          have launches : Launches w event { launch := some c } c y _ reply :=
            ⟨here, ⟨call, y', made, acted⟩, rfl, brings rfl⟩
          exact launchSpawned_traffic (by simp) launches there ammunition rfl rfl stays still
      | pooled =>
          have launches : Launches w event { launch := some c } c y _ reply :=
            ⟨here, ⟨call, y', made, acted⟩, rfl, brings rfl⟩
          exact launchPooled_traffic launches there move.pool rfl rfl stays still
      | traced =>
          obtain ⟨pools, projectiles⟩ := lineTrace_stores (w.updateCannon c fun _ => y') c reply.traceHit
          exact .quiet pools projectiles stays still
      | refused | burstCompleted | reloaded | resupplied => exact .quiet rfl rfl stays still
  | none =>
      cases step_transition taken with
      | @beginPlay p _ _ _ _ _ _ _ done =>
          have begun : Restocks w (w.updatePawn p MachinePawn.beginPlay) := restocks_same rfl rfl
          unfold beginPlay at done
          exact .restock made rfl (by simp) (begun.trans (setupCannon_restocks done))
      | setupCannon _ _ done => exact .restock made rfl (by simp) (setupCannon_restocks done)
      | unarmed brings =>
          obtain ⟨stays, still⟩ := reply_plain brings
          exact .quiet rfl rfl stays still
      | fire found _ holds => simp [calls, found, holds] at made
      | alternateFire found _ holds => simp [calls, found, holds] at made
      | reloadTimer | burstFireTimer | increaseAmmoValue => cases made
      | move found pending => exact .moved rfl found pending rfl rfl
      | deactivateTimer found pending => exact .stopped rfl found (fun _ => pending) rfl rfl
      | @meshOverlapBegin j other q found =>
          obtain ⟨pools, projectiles⟩ := overlap_stores found other
          exact .stopped rfl found (by simp) pools projectiles
      | takeDamage => exact .quiet (takeDamage_pools w _ _) (takeDamage_projectiles w _ _) rfl (by simp)

end World

end TankoGeddon
