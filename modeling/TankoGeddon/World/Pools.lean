import TankoGeddon.ProjectilePool.Contract
import TankoGeddon.World.Traffic

/-! The pools of a level, all of them at once.

A level holds many pools and every projectile in one list, so the promise of a pool
has to survive what the other pools, the spawned projectiles and the hits do to that
list. No projectile is an element of two pools, and an array grows only when all of it
is in flight.
-/

set_option autoImplicit false

namespace TankoGeddon

open Foundation (Timer Run Step SlotStep peak peak_nil peak_snoc getElem?_concat perform_run)

/-- Flag, collision and timers tell the same story at every rate: a timer is pending where
the projectile is in use and its rate arms one, since the present flight. -/
structure Projectile.Steady (q : Projectile) : Prop where
  collision : q.bActorEnableCollision = q.bIsActivation
  move : q.moveTimer = if q.bIsActivation then Timer.set q.moveRate q.flight else none
  deactivate : q.deactivateTimer = if q.bIsActivation then Timer.set q.deactivateTime q.flight else none

theorem Projectile.stored_steady (cls : ProjectileClass) : (PoolState.stored cls).Steady := ⟨rfl, rfl, rfl⟩

theorem Projectile.relaunch_steady (location : FVector) (rotation : FRotator) (launcher : CannonId)
    (q : Projectile) : (q.relaunch location rotation launcher).Steady := ⟨rfl, rfl, rfl⟩

theorem Projectile.deactivate_steady (q : Projectile) : q.deactivate.Steady := ⟨rfl, rfl, rfl⟩

namespace Projectile.Steady

variable {q : Projectile}

theorem of_move (steady : q.Steady) (forward : FVector) : (q.move forward).Steady :=
  ⟨steady.collision, steady.move, steady.deactivate⟩

theorem moves_iff (steady : q.Steady) : q.moveTimer.isSome = true ↔ q.bIsActivation = true ∧ 0 < q.moveRate := by
  rw [steady.move]
  cases q.bIsActivation <;> simp [Timer.set_isSome_iff]

theorem expires_iff (steady : q.Steady) :
    q.deactivateTimer.isSome = true ↔ q.bIsActivation = true ∧ 0 < q.deactivateTime := by
  rw [steady.deactivate]
  cases q.bIsActivation <;> simp [Timer.set_isSome_iff]

theorem armed (steady : q.Steady) {armed : Nat} (pending : q.moveTimer = some armed ∨ q.deactivateTimer = some armed) :
    armed = q.flight := by
  rw [steady.move, steady.deactivate] at pending
  cases flies : q.bIsActivation <;> simp [flies, Timer.set] at pending
  rcases pending with ⟨_, same⟩ | ⟨_, same⟩ <;> exact same.symm

end Projectile.Steady

namespace World

/-- The elements of each pool are there, of its class, steady and nobody else's. -/
structure PoolsSound (w : World) : Prop where
  element : ∀ (k : PoolId) (pool : ProjectilePool), w.pools[k]? = some pool → ∀ j ∈ pool.projectilePool,
    ∃ q, w.projectiles[j]? = some q ∧ pool.projectileClass = some q.toProjectileClass ∧ q.Steady
  nodup : ∀ (k : PoolId) (pool : ProjectilePool), w.pools[k]? = some pool → pool.projectilePool.Nodup
  disjoint : ∀ (k k' : PoolId) (pool pool' : ProjectilePool) (j : ProjectileId), w.pools[k]? = some pool →
    w.pools[k']? = some pool' → j ∈ pool.projectilePool → j ∈ pool'.projectilePool → k = k'

variable {w w' : World}

theorem PoolsSound.there (sound : w.PoolsSound) {k : PoolId} {pool : ProjectilePool} {j : ProjectileId}
    (known : w.pools[k]? = some pool) (member : j ∈ pool.projectilePool) : j < w.projectiles.length := by
  obtain ⟨q, found, _⟩ := sound.element k pool known j member
  exact (List.getElem?_eq_some_iff.mp found).1

theorem Initial.poolsSound (initial : w.Initial) : w.PoolsSound := by
  constructor <;> simp [initial.pools]

/-- Every pool keeps its class and its array. -/
def SameArrays (w w' : World) : Prop :=
  ∀ (k : PoolId) (pool' : ProjectilePool), w'.pools[k]? = some pool' → ∃ pool, w.pools[k]? = some pool ∧
    pool'.toPoolClass = pool.toPoolClass ∧ pool'.projectilePool = pool.projectilePool

theorem SameArrays.of_eq (pools : w'.pools = w.pools) : SameArrays w w' := by
  intro k pool' known
  rw [pools] at known
  exact ⟨pool', known, rfl, rfl⟩

/-- A pool put back with another value of its flag. -/
theorem SameArrays.of_flag {k : PoolId} {pool : ProjectilePool} {flag : Bool} (known : w.pools[k]? = some pool)
    (pools : w'.pools = w.pools.modify k fun _ => { pool with bHaveActiveProjectile := flag }) :
    SameArrays w w' := by
  intro i pool' found
  rw [pools, List.getElem?_modify] at found
  obtain ⟨old, here, same⟩ := Option.map_eq_some_iff.mp found
  by_cases own : k = i
  · subst own
    obtain rfl := Option.some.inj (known.symm.trans here)
    rw [if_pos rfl] at same
    subst same
    exact ⟨pool, here, rfl, rfl⟩
  · rw [if_neg own] at same
    exact ⟨old, here, by rw [← same]; exact ⟨rfl, rfl⟩⟩

/-- Every projectile is still there, of its class and steady. -/
def SameStock (w w' : World) : Prop :=
  ∀ (j : ProjectileId) (q : Projectile), w.projectiles[j]? = some q → q.Steady →
    ∃ q', w'.projectiles[j]? = some q' ∧ q'.toProjectileClass = q.toProjectileClass ∧ q'.Steady

theorem SameStock.of_eq (projectiles : w'.projectiles = w.projectiles) : SameStock w w' :=
  fun _ q found steady => ⟨q, by rw [projectiles]; exact found, rfl, steady⟩

theorem SameStock.of_append {added : List Projectile} (projectiles : w'.projectiles = w.projectiles ++ added) :
    SameStock w w' := by
  intro j q found steady
  refine ⟨q, ?_, rfl, steady⟩
  rw [projectiles, List.getElem?_append_left (List.getElem?_eq_some_iff.mp found).1]
  exact found

theorem SameStock.of_modify {j : ProjectileId} {f : Projectile → Projectile}
    (projectiles : w'.projectiles = w.projectiles.modify j f)
    (keeps : ∀ q : Projectile, q.Steady → (f q).toProjectileClass = q.toProjectileClass ∧ (f q).Steady) :
    SameStock w w' := by
  intro i q found steady
  rw [projectiles, List.getElem?_modify, found]
  by_cases own : j = i
  · exact ⟨f q, by simp [own], keeps q steady⟩
  · exact ⟨q, by simp [own], rfl, steady⟩

theorem PoolsSound.of_same (sound : w.PoolsSound) (arrays : SameArrays w w') (stock : SameStock w w') :
    w'.PoolsSound where
  element := by
    intro k pool' known j member
    obtain ⟨pool, before, settings, same⟩ := arrays k pool' known
    rw [same] at member
    obtain ⟨q, found, kind, steady⟩ := sound.element k pool before j member
    obtain ⟨q', after, kept, steady'⟩ := stock j q found steady
    refine ⟨q', after, ?_, steady'⟩
    rw [kept, congrArg PoolClass.projectileClass settings]
    exact kind
  nodup := by
    intro k pool' known
    obtain ⟨pool, before, _, same⟩ := arrays k pool' known
    rw [same]
    exact sound.nodup k pool before
  disjoint := by
    intro k k' pool pool' j known known' member member'
    obtain ⟨old, before, _, same⟩ := arrays k pool known
    obtain ⟨old', before', _, same'⟩ := arrays k' pool' known'
    rw [same] at member
    rw [same'] at member'
    exact sound.disjoint k k' old old' j before before' member member'

/-- A new pool takes only new projectiles. -/
theorem PoolsSound.restock (sound : w.PoolsSound) (restock : Restock w w') : w'.PoolsSound := by
  obtain ⟨pools, projectiles, empty⟩ := restock
  rename_i pc n
  have longer : SameStock w w' := by
    cases source : pc.projectileClass with
    | none => exact .of_eq (empty source).2
    | some cls => exact .of_append (projectiles cls source)
  -- an element of the last pool is a new projectile
  have young : ∀ j ∈ List.range' w.projectiles.length n, w.projectiles.length ≤ j ∧
      ∃ q, w'.projectiles[j]? = some q ∧ pc.projectileClass = some q.toProjectileClass ∧ q.Steady := by
    intro j member
    obtain ⟨above, below⟩ := List.mem_range'_1.mp member
    refine ⟨above, ?_⟩
    cases source : pc.projectileClass with
    | none =>
        obtain ⟨rfl, _⟩ := empty source
        exact absurd below (Nat.not_lt_of_le above)
    | some cls =>
        refine ⟨PoolState.stored cls, ?_, rfl, Projectile.stored_steady cls⟩
        rw [projectiles cls source, List.getElem?_append_right above, List.getElem?_replicate]
        exact if_pos (by omega)
  constructor
  · intro k pool known j member
    rw [pools] at known
    rcases getElem?_concat known with old | ⟨_, rfl⟩
    · obtain ⟨q, found, kind, steady⟩ := sound.element k pool old j member
      obtain ⟨q', after, kept, steady'⟩ := longer j q found steady
      exact ⟨q', after, by rw [kept]; exact kind, steady'⟩
    · exact (young j member).2
  · intro k pool known
    rw [pools] at known
    rcases getElem?_concat known with old | ⟨_, rfl⟩
    · exact sound.nodup k pool old
    · exact List.nodup_range' _
  · intro k k' pool pool' j known known' member member'
    rw [pools] at known known'
    rcases getElem?_concat known with old | ⟨rfl, rfl⟩
    · rcases getElem?_concat known' with old' | ⟨rfl, rfl⟩
      · exact sound.disjoint k k' pool pool' j old old' member member'
      · exact absurd (sound.there old member) (Nat.not_lt_of_le (young j member').1)
    · rcases getElem?_concat known' with old' | ⟨rfl, rfl⟩
      · exact absurd (sound.there old' member') (Nat.not_lt_of_le (young j member).1)
      · rfl

/-- A full pool takes one more projectile, which is new. -/
theorem PoolsSound.grow (sound : w.PoolsSound) {k : PoolId} {pool : ProjectilePool} {cls : ProjectileClass}
    {q₀ : Projectile} {flag : Bool} (there : w.pools[k]? = some pool) (source : pool.projectileClass = some cls)
    (kind : q₀.toProjectileClass = cls) (steady₀ : q₀.Steady)
    (pools : w'.pools = w.pools.modify k fun _ =>
      { pool with
        projectilePool := pool.projectilePool ++ [w.projectiles.length]
        bHaveActiveProjectile := flag })
    (projectiles : w'.projectiles = w.projectiles ++ [q₀]) : w'.PoolsSound := by
  have longer : SameStock w w' := .of_append projectiles
  have newest : w'.projectiles[w.projectiles.length]? = some q₀ := by simp [projectiles]
  -- an element is an old one, or the new one of this pool
  have cases : ∀ (i : PoolId) (pool' : ProjectilePool), w'.pools[i]? = some pool' →
      ∃ old, w.pools[i]? = some old ∧ pool'.toPoolClass = old.toPoolClass ∧
        (pool'.projectilePool = old.projectilePool ∨
          i = k ∧ pool'.projectilePool = old.projectilePool ++ [w.projectiles.length]) := by
    intro i pool' known
    rw [pools, List.getElem?_modify] at known
    obtain ⟨old, before, same⟩ := Option.map_eq_some_iff.mp known
    by_cases own : k = i
    · subst own
      obtain rfl := Option.some.inj (there.symm.trans before)
      rw [if_pos rfl] at same
      subst same
      exact ⟨pool, before, rfl, .inr ⟨rfl, rfl⟩⟩
    · rw [if_neg own] at same
      subst same
      exact ⟨old, before, rfl, .inl rfl⟩
  have split : ∀ (i : PoolId) (pool' : ProjectilePool) (j : ProjectileId), w'.pools[i]? = some pool' →
      j ∈ pool'.projectilePool → ∃ old, w.pools[i]? = some old ∧ pool'.toPoolClass = old.toPoolClass ∧
        (j ∈ old.projectilePool ∨ i = k ∧ j = w.projectiles.length) := by
    intro i pool' j known member
    obtain ⟨old, before, settings, same | ⟨own, same⟩⟩ := cases i pool' known
    · exact ⟨old, before, settings, .inl (by rw [← same]; exact member)⟩
    · rw [same] at member
      rcases List.mem_append.mp member with member | last
      · exact ⟨old, before, settings, .inl member⟩
      · exact ⟨old, before, settings, .inr ⟨own, List.mem_singleton.mp last⟩⟩
  constructor
  · intro i pool' known j member
    obtain ⟨old, before, settings, member | ⟨rfl, rfl⟩⟩ := split i pool' j known member
    · obtain ⟨q, found, kind', steady⟩ := sound.element i old before j member
      obtain ⟨q', after, kept, steady'⟩ := longer j q found steady
      refine ⟨q', after, ?_, steady'⟩
      rw [kept, congrArg PoolClass.projectileClass settings]
      exact kind'
    · obtain rfl := Option.some.inj (there.symm.trans before)
      refine ⟨q₀, newest, ?_, steady₀⟩
      rw [congrArg PoolClass.projectileClass settings, source, kind]
  · intro i pool' known
    obtain ⟨old, before, _, same | ⟨rfl, same⟩⟩ := cases i pool' known
    · rw [same]
      exact sound.nodup i old before
    · rw [same]
      refine List.nodup_append.mpr ⟨sound.nodup i old before, List.nodup_singleton _, ?_⟩
      intro j member j' last
      rw [List.mem_singleton.mp last]
      exact Nat.ne_of_lt (sound.there before member)
  · intro i i' pool₁ pool₂ j known known' member member'
    obtain ⟨old, before, _, member | ⟨rfl, rfl⟩⟩ := split i pool₁ j known member
    · obtain ⟨old', before', _, member' | ⟨_, rfl⟩⟩ := split i' pool₂ j known' member'
      · exact sound.disjoint i i' old old' j before before' member member'
      · exact absurd (sound.there before member) (Nat.lt_irrefl _)
    · obtain ⟨old', before', _, member' | ⟨rfl, _⟩⟩ := split i' pool₂ _ known' member'
      · exact absurd (sound.there before' member') (Nat.lt_irrefl _)
      · rfl

theorem PoolsSound.step (sound : w.PoolsSound) {event : Event} {report : Report}
    (traffic : Traffic w event report w') : w'.PoolsSound := by
  cases traffic with
  | quiet pools projectiles => exact sound.of_same (.of_eq pools) (.of_eq projectiles)
  | restock _ _ _ restocks =>
      induction restocks with
      | refl => exact sound
      | tail _ last ih =>
          rcases last with restock | ⟨pools, projectiles⟩
          · exact ih.restock restock
          · exact ih.of_same (.of_eq pools) (.of_eq projectiles)
  | moved _ _ _ pools projectiles =>
      exact sound.of_same (.of_eq pools) (.of_modify projectiles fun q steady => ⟨rfl, steady.of_move _⟩)
  | stopped _ _ _ pools projectiles =>
      exact sound.of_same (.of_eq pools)
        (.of_modify projectiles fun q _ => ⟨rfl, q.deactivate_steady⟩)
  | spawned _ _ _ pools projectiles => exact sound.of_same (.of_eq pools) (.of_append projectiles)
  | reused _ _ there _ _ _ pools projectiles =>
      exact sound.of_same (.of_flag there pools)
        (.of_modify projectiles fun q _ => ⟨rfl, q.relaunch_steady _ _ _⟩)
  | grown _ _ there _ source pools projectiles =>
      exact sound.grow there source rfl (Projectile.relaunch_steady _ _ _ _) pools projectiles
  | missed _ _ there pools projectiles => exact sound.of_same (.of_flag there pools) (.of_eq projectiles)

/-! Who asks a pool. -/

theorem takeDamage_sound (sound : w.depot.Sound) (p : PawnId) (damageData : FDamageData) :
    (w.takeDamage p damageData).depot.Sound := by
  rcases takeDamage_depot w p damageData with ⟨_, _, same⟩ | ⟨_, same⟩
  · rw [same]
    exact sound.destroyOld _
  · rw [same]
    exact sound

theorem perform_sound (sound : w.depot.Sound) {c : CannonId} {y : Cannon} (here : w.cannons[c]? = some y)
    (outcome : Outcome) (reply : Reply) : (w.perform c outcome reply).1.depot.Sound := by
  cases outcome with
  | spawned | burstShot =>
      simp only [perform]
      rcases launchSpawned_depot here reply with ⟨_, _, _, same⟩ | ⟨_, same⟩
      · rw [same]
        exact sound.spawn _
      · rw [same]
        exact sound
  | pooled =>
      simp only [perform]
      rcases launchPooled_depot w c reply with ⟨_, same⟩ | ⟨k, _, cls, _, _, _, ⟨j, _, same⟩ | same⟩
      · rw [same]
        exact sound
      · rw [same]
        exact sound.set j cls.launched
      · rw [same]
        exact sound.extend k cls.launched
  | traced =>
      simp only [perform]
      rcases lineTrace_cases w c reply.traceHit with missed | ⟨_, v, _, _, _, _, dealt⟩
      · rw [missed]
        exact sound
      · rw [dealt]
        exact takeDamage_sound sound v _
  | refused | burstCompleted | reloaded | resupplied => exact sound

theorem act_sound (sound : w.depot.Sound) {c : CannonId} {y : Cannon} {event : Cannon.Event}
    {next : Cannon × Outcome} (here : w.cannons[c]? = some y) (acted : y.step event = some next) (reply : Reply) :
    ((w.updateCannon c fun _ => next.1).perform c next.2 reply).1.depot.Sound := by
  have there : (w.updateCannon c fun _ => next.1).cannons[c]? = some next.1 := by simp [updateCannon, here]
  apply perform_sound _ there
  rw [depot_acted here acted]
  exact sound

theorem setupCannon_sound (sound : w.depot.Sound) {p : PawnId} {cls : Option CannonClass}
    {main alternate : CannonReply} (done : w.setupCannon p cls main alternate = some w') : w'.depot.Sound := by
  unfold setupCannon at done
  split at done
  · obtain rfl := Option.some.inj done
    exact sound
  · obtain ⟨w₁, first, second⟩ := Option.bind_eq_some_iff.mp done
    have sound₁ : w₁.depot.Sound := by
      rw [setupMain_depot first]
      exact sound.arm _ _ _
    rcases setupAlternate_depot second with ⟨_, same⟩ | ⟨cls', _, same⟩
    · rw [same]
      exact sound₁
    · rw [same]
      exact sound₁.arm _ _ _

theorem overlap_sound (sound : w.depot.Sound) {j : ProjectileId} {q : Projectile}
    (found : w.projectiles[j]? = some q) (other : Actor) : (w.onMeshOverlapBegin j other).1.depot.Sound := by
  rcases overlap_cases found other with ⟨same, _⟩ | ⟨v, _, _, _, same⟩
  · rw [same, depot_deactivate]
    exact sound.set j Shot.stored
  · rw [same, depot_deactivate]
    apply Depot.Sound.set
    split
    · rw [depot_broadcastOnKilled]
      exact takeDamage_sound sound v _
    · exact takeDamage_sound sound v _

/-- No step makes two cannons share a pool. -/
theorem step_sound (sound : w.depot.Sound) {event : Event} {result : World × Report}
    (taken : w.step event = some result) : result.1.depot.Sound := by
  cases step_transition taken with
  | @beginPlay p _ _ _ _ _ _ _ done =>
      have begun : (w.updatePawn p MachinePawn.beginPlay).depot.Sound := sound
      exact setupCannon_sound begun done
  | setupCannon _ _ done => exact setupCannon_sound sound done
  | unarmed => exact sound
  | fire _ _ _ here acted | alternateFire _ _ _ here acted | reloadTimer here acted
  | burstFireTimer here acted => exact act_sound sound here acted _
  | @increaseAmmoValue c _ y here =>
      rw [depot_updateCannon w c]
      · exact sound
      · intro y₀ here₀
        obtain rfl := Option.some.inj (here.symm.trans here₀)
        rfl
  | @move j forward =>
      rw [depot_move]
      exact sound
  | @deactivateTimer j =>
      rw [depot_deactivate]
      exact sound.set j Shot.stored
  | meshOverlapBegin found => exact overlap_sound sound found _
  | takeDamage => exact takeDamage_sound sound _ _

/-! How full a pool is. -/

/-- The elements of a pool, none where there is no such pool. -/
def poolSize (k : PoolId) (w : World) : Nat := (w.pools[k]?.map (·.projectilePool.length)).getD 0

/-- Its elements in flight. -/
def poolInFlight (k : PoolId) (w : World) : Nat :=
  (w.pools[k]?.map fun pool => pool.projectilePool.countP (PoolState.isActive w.projectiles)).getD 0

theorem poolInFlight_le (k : PoolId) (w : World) : poolInFlight k w ≤ poolSize k w := by
  unfold poolInFlight poolSize
  cases w.pools[k]? with
  | none => exact Nat.le_refl 0
  | some pool => exact List.countP_le_length

/-- The pool grows by one projectile, in flight, and all the others were in flight. -/
def Grows (w w' : World) (pool pool' : ProjectilePool) : Prop :=
  pool'.projectilePool = pool.projectilePool ++ [w.projectiles.length] ∧
    (∀ j ∈ pool.projectilePool, ¬ PoolState.isIdle w.projectiles j = true) ∧
    ∃ q, w'.projectiles = w.projectiles ++ [q] ∧ q.bIsActivation = true

theorem Restock.keeps {k : PoolId} {pool : ProjectilePool} (restock : Restock w w')
    (known : w.pools[k]? = some pool) : w'.pools[k]? = some pool := by
  obtain ⟨pools, _, _⟩ := restock
  rw [pools, List.getElem?_append_left (List.getElem?_eq_some_iff.mp known).1]
  exact known

theorem Restocks.keeps {k : PoolId} {pool : ProjectilePool} (restocks : Restocks w w')
    (known : w.pools[k]? = some pool) : w'.pools[k]? = some pool := by
  induction restocks with
  | refl => exact known
  | tail _ last ih =>
      rcases last with restock | ⟨pools, _⟩
      · exact restock.keeps ih
      · rw [pools]
        exact ih

/-- What a step does to one pool. -/
theorem pool_step {event : Event} {report : Report} (traffic : Traffic w event report w') {k : PoolId}
    {pool : ProjectilePool} (known : w.pools[k]? = some pool) :
    ∃ pool', w'.pools[k]? = some pool' ∧ pool'.toPoolClass = pool.toPoolClass ∧
      (pool'.projectilePool = pool.projectilePool ∨ Grows w w' pool pool') := by
  have flagged : ∀ {i : PoolId} {old new : ProjectilePool}, w.pools[i]? = some old →
      w'.pools = w.pools.modify i (fun _ => new) → new.toPoolClass = old.toPoolClass →
      (new.projectilePool = old.projectilePool ∨ Grows w w' old new) →
      ∃ pool', w'.pools[k]? = some pool' ∧ pool'.toPoolClass = pool.toPoolClass ∧
        (pool'.projectilePool = pool.projectilePool ∨ Grows w w' pool pool') := by
    intro i old new there pools settings array
    rw [pools, List.getElem?_modify, known]
    by_cases own : i = k
    · subst own
      obtain rfl := Option.some.inj (known.symm.trans there)
      exact ⟨new, by simp, settings, array⟩
    · exact ⟨pool, by simp [own], rfl, .inl rfl⟩
  cases traffic with
  | quiet pools | moved _ _ _ pools | stopped _ _ _ pools | spawned _ _ _ pools =>
      exact ⟨pool, by rw [pools]; exact known, rfl, .inl rfl⟩
  | restock _ _ _ restocks => exact ⟨pool, restocks.keeps known, rfl, .inl rfl⟩
  | reused _ _ there _ _ _ pools | missed _ _ there pools => exact flagged there pools rfl (.inl rfl)
  | grown _ _ there full _ pools projectiles =>
      exact flagged there pools rfl (.inr ⟨rfl, full, _, projectiles, rfl⟩)

/-- The array only grows when all of it is in flight. -/
theorem pool_slotStep (sound : w.PoolsSound) {event : Event} {report : Report}
    (traffic : Traffic w event report w') {k : PoolId} {pool : ProjectilePool} (known : w.pools[k]? = some pool) :
    SlotStep (poolSize k w) (poolInFlight k w) (poolSize k w') (poolInFlight k w') := by
  obtain ⟨pool', after, _, same | ⟨array, full, q, projectiles, flies⟩⟩ := pool_step traffic known
  · have size : poolSize k w' = poolSize k w := by simp [poolSize, known, after, same]
    have bound := poolInFlight_le k w'
    rw [size] at bound ⊢
    exact .within bound
  · have busy : poolInFlight k w = poolSize k w := by
      simp only [poolInFlight, poolSize, known, Option.map_some, Option.getD_some]
      refine List.countP_eq_length.mpr fun j member => ?_
      obtain ⟨q, found, _⟩ := sound.element k pool known j member
      have rests := full j member
      simpa [PoolState.isIdle, PoolState.isActive, found] using rests
    have size : poolSize k w' = poolSize k w + 1 := by simp [poolSize, known, after, array]
    have more : poolInFlight k w' = poolInFlight k w + 1 := by
      simp only [poolInFlight, known, after, Option.map_some, Option.getD_some, array, projectiles,
        List.countP_append]
      congr 1
      · refine List.countP_congr fun j member => ?_
        simp only [PoolState.isActive, List.getElem?_append_left (sound.there known member)]
      · simp [PoolState.isActive, flies]
    rw [more, size, busy]
    exact .grow

/-! The whole life of a pool. -/

/-- What a level promises of one of its pools. -/
structure PoolKept (w : World) (k : PoolId) (pool : ProjectilePool) : Prop where
  distinct : pool.projectilePool.Nodup
  element : ∀ j ∈ pool.projectilePool, ∃ q, w.projectiles[j]? = some q ∧
    pool.projectileClass = some q.toProjectileClass ∧
    q.bActorEnableCollision = q.bIsActivation ∧
    (q.moveTimer.isSome = true ↔ q.bIsActivation = true ∧ 0 < q.moveRate) ∧
    (q.deactivateTimer.isSome = true ↔ q.bIsActivation = true ∧ 0 < q.deactivateTime) ∧
    ∀ armed, q.moveTimer = some armed ∨ q.deactivateTimer = some armed → armed = q.flight
  apart : ∀ k' pool', w.pools[k']? = some pool' → k' ≠ k → ∀ j ∈ pool.projectilePool, j ∉ pool'.projectilePool
  served : ∀ (c c' : CannonId) (y y' : Cannon), w.cannons[c]? = some y → w.cannons[c']? = some y' →
    y.projectilePool = some k → y'.projectilePool = some k → c = c'

theorem PoolsSound.kept (sound : w.PoolsSound) (owned : w.depot.Sound) {k : PoolId} {pool : ProjectilePool}
    (known : w.pools[k]? = some pool) : w.PoolKept k pool where
  distinct := sound.nodup k pool known
  element := by
    intro j member
    obtain ⟨q, found, kind, steady⟩ := sound.element k pool known j member
    exact ⟨q, found, kind, steady.collision, steady.moves_iff, steady.expires_iff, fun _ pending => steady.armed pending⟩
  apart := by
    intro k' pool' known' ne j member member'
    exact ne (sound.disjoint k' k pool' pool j known' known member' member)
  served := by
    intro c c' y y' here here' holds holds'
    exact owned.own c c' y.mount y'.mount k (mount_at here) (mount_at here') holds holds'

theorem run_pools {trace : List (Step World Event Report)} (initial : w.Initial)
    (run : Run World.step w trace w') :
    (w'.PoolsSound ∧ w'.depot.Sound) ∧ ∀ t ∈ trace, (t.before.PoolsSound ∧ t.before.depot.Sound) ∧
      t.after.PoolsSound ∧ t.after.depot.Sound := by
  have wired := run_wired initial run
  exact run.invariant (fun w => w.PoolsSound ∧ w.depot.Sound) ⟨initial.poolsSound, initial.reclaimed.1⟩
    fun t member taken before =>
      ⟨before.1.step (step_traffic (wired.2 t member).1 taken), step_sound before.2 taken⟩

/-- The pool was stocked in a step of the run and has grown to its largest demand since. -/
def Stocking (w : World) (k : PoolId) (pool : ProjectilePool) (trace : List (Step World Event Report)) : Prop :=
  ∃ t ∈ trace, ∃ stocked, t.before.pools[k]? = none ∧ t.after.pools[k]? = some stocked ∧
    stocked.toPoolClass = pool.toPoolClass ∧
    pool.projectilePool.length = max stocked.projectilePool.length (peak (poolInFlight k) w trace)

/-- Every pool was stocked in some step, and never has more elements than it was stocked
with or has had in flight at one time. -/
theorem run_stocking {trace : List (Step World Event Report)} (initial : w.Initial)
    (run : Run World.step w trace w') {k : PoolId} {pool : ProjectilePool} (known : w'.pools[k]? = some pool) :
    Stocking w k pool trace := by
  have wired := run_wired initial run
  have sound := run_pools initial run
  have absent : ∀ s : World, s.pools[k]? = none → poolInFlight k s = 0 := by
    intro s missing
    simp [poolInFlight, missing]
  have law : (∀ t ∈ trace, t.before.PoolsSound ∧ t.before.links.Wired) →
      (w'.pools[k]? = none → peak (poolInFlight k) w trace = 0) ∧
      ∀ pool, w'.pools[k]? = some pool → Stocking w k pool trace := by
    refine run.growing (motive := fun trace (s : World) =>
      (∀ t ∈ trace, t.before.PoolsSound ∧ t.before.links.Wired) →
        (s.pools[k]? = none → peak (poolInFlight k) w trace = 0) ∧
        ∀ pool, s.pools[k]? = some pool → Stocking w k pool trace) ?nil ?snoc
    case nil =>
      intro _
      refine ⟨fun missing => absent w missing, ?_⟩
      intro pool there
      simp [initial.pools] at there
    case snoc =>
      intro trace t _ taken ih each
      obtain ⟨silent, stocked⟩ := ih fun u member => each u (List.mem_append_left _ member)
      obtain ⟨sound, wired⟩ := each t (by simp)
      have traffic := step_traffic wired taken
      rw [peak_snoc]
      cases before : t.before.pools[k]? with
      | none =>
          rw [silent before]
          refine ⟨fun missing => by rw [absent _ missing]; rfl, ?_⟩
          intro pool there
          have bound := poolInFlight_le k t.after
          refine ⟨t, by simp, pool, before, there, rfl, ?_⟩
          simp only [poolSize, there, Option.map_some, Option.getD_some] at bound
          rw [peak_snoc, silent before]
          omega
      | some pool₀ =>
          obtain ⟨pool₁, after, settings, _⟩ := pool_step traffic before
          rw [after]
          refine ⟨nofun, ?_⟩
          rintro _ ⟨⟩
          obtain ⟨u, member, first, missing, there, kind, size⟩ := stocked pool₀ before
          refine ⟨u, List.mem_append_left _ member, first, missing, there, kind.trans settings.symm, ?_⟩
          have slot := pool_slotStep sound traffic before
          simp only [poolSize, before, after, Option.map_some, Option.getD_some] at slot
          rw [peak_snoc]
          generalize poolInFlight k t.before = busy at slot
          generalize poolInFlight k t.after = busy' at slot ⊢
          generalize pool₀.projectilePool.length = size₀ at slot size
          generalize pool₁.projectilePool.length = size₁ at slot ⊢
          cases slot with
          | within bound => omega
          | grow => omega
  exact (law fun t member => ⟨(sound.2 t member).1.1, (wired.2 t member).1⟩).2 pool known

/-- Many pools in one level, each with the contract of a pool that is alone: no
projectile twice, in no other pool, flags and timers in step, one cannon to serve, and
a size that is its largest demand. -/
theorem level_pools {trace : List (Step World Event Report)} (initial : w.Initial)
    (run : Run World.step w trace w') {k : PoolId} {pool : ProjectilePool} (known : w'.pools[k]? = some pool) :
    w'.PoolKept k pool ∧ Stocking w k pool trace := by
  have sound := run_pools initial run
  exact ⟨sound.1.1.kept sound.1.2 known, run_stocking initial run known⟩

/-- Two pawns, each with a cannon that launches from a pool of one. -/
def skirmish : World :=
  { pawns := List.replicate 2
      { cannonClass := some
          { cannonType := .fireProjectile
            projectileClass := none
            projectilePoolClass := some { poolSize := 1, projectileClass := some {} } }
        alternateCannonClass := none } }

theorem skirmish_initial : skirmish.Initial := ⟨rfl, rfl, rfl, by simp [skirmish]⟩

-- The first pawn shoots again while its first shot flies.
def exchange : List Event :=
  [.beginPlay 0 {} {}, .beginPlay 1 {} {}, .fire 0 {}, .fire 1 {}, .reloadTimer 0, .fire 0 {}]

theorem level_pools_exchange : ∃ pool, (Foundation.perform World.step skirmish exchange).2.pools[0]? = some pool ∧
    pool.projectilePool = [0, 2] ∧ (Foundation.perform World.step skirmish exchange).2.PoolKept 0 pool ∧
      Stocking skirmish 0 pool (Foundation.perform World.step skirmish exchange).1 := by
  refine ⟨{ projectileClass := some {}, poolSize := 1, projectilePool := [0, 2] }, ?_, rfl, ?_⟩
  · decide +kernel
  · exact level_pools skirmish_initial (perform_run _ _ _) (by decide +kernel)

end World

end TankoGeddon
