import TankoGeddon.Foundation.Table
import TankoGeddon.ProjectilePool.Contract

/-! Launches with hits reported from inside them.

`SpawnActor` and `SetActorEnableCollision(true)` may call `OnMeshOverlapBegin` before
they return. The pool functions are followed statement by statement here, with the
notifications that come from inside each of the two calls.
-/

set_option autoImplicit false

namespace TankoGeddon

open Foundation (Timer Run Step perform perform_run)

namespace Projectile

structure Settled (p : Projectile) : Prop where
  flag : p.bIsActivation = true ↔ p.bActorEnableCollision = true
  timers : p.bActorEnableCollision = true ↔ p.moveTimer.isSome = true ∧ p.deactivateTimer.isSome = true

structure Inactive (p : Projectile) : Prop where
  flag : p.bIsActivation = false
  collision : p.bActorEnableCollision = false
  move : p.moveTimer = none
  deactivate : p.deactivateTimer = none

theorem Inactive.settled {p : Projectile} (inactive : p.Inactive) : p.Settled where
  flag := by simp [inactive.flag, inactive.collision]
  timers := by simp [inactive.collision, inactive.move]

theorem deactivate_inactive (p : Projectile) : p.deactivate.Inactive := ⟨rfl, rfl, rfl, rfl⟩

theorem Settled.of_move {p : Projectile} (settled : p.Settled) (forward : FVector) :
    (p.move forward).Settled :=
  ⟨settled.flag, settled.timers⟩

/-- The flag and the collision as a launch sets them. -/
def enabled (p : Projectile) : Projectile := { p with bIsActivation := true, bActorEnableCollision := true }

/-- A launch not hit at `SetActorEnableCollision` settles when both timers are armed. -/
theorem start_enabled_settled (p : Projectile) :
    p.enabled.start.Settled ↔ 0 < p.moveRate ∧ 0 < p.deactivateTime := by
  constructor
  · intro settled
    obtain ⟨move, deactivate⟩ := settled.timers.mp rfl
    exact ⟨(Timer.set_isSome_iff _ _).mp move, (Timer.set_isSome_iff _ _).mp deactivate⟩
  · rintro ⟨moves, expires⟩
    exact ⟨by simp [start, enabled], by simp [start, enabled, Timer.set_pos moves, Timer.set_pos expires]⟩

/-- `Start` after a hit arms the timers of an element that is flagged idle. -/
theorem start_deactivate_inactive (p : Projectile) :
    p.deactivate.start.Inactive ↔ ¬ 0 < p.moveRate ∧ ¬ 0 < p.deactivateTime := by
  constructor
  · intro inactive
    exact ⟨(Timer.set_eq_none_iff _ _).mp inactive.move, (Timer.set_eq_none_iff _ _).mp inactive.deactivate⟩
  · rintro ⟨moves, expires⟩
    exact ⟨rfl, rfl, (Timer.set_eq_none_iff _ _).mpr moves, (Timer.set_eq_none_iff _ _).mpr expires⟩

end Projectile

namespace PoolState

/-- The projectiles notified from inside the two calls, in order. -/
structure Nesting where
  spawning : List ProjectileId := []
  enabling : List ProjectileId := []

def update (s : PoolState) (j : ProjectileId) (f : Projectile → Projectile) : PoolState :=
  { s with projectiles := s.projectiles.modify j f }

/-- `OnMeshOverlapBegin` on each, of which the pool sees `Deactivate`. -/
def notify (s : PoolState) (hits : List ProjectileId) : PoolState :=
  hits.foldl (fun s j => s.update j Projectile.deactivate) s

def setActorEnableCollision (s : PoolState) (j : ProjectileId) (enabled : Bool) (hits : List ProjectileId) :
    PoolState :=
  let s := s.update j fun p => { p with bActorEnableCollision := enabled }
  if enabled then s.notify hits else s

def nestedSpawnProjectile (s : PoolState) (spawnLocation : FVector) (spawnRotation : FRotator)
    (bIsActive : Bool) (spawned : Bool) (hits : Nesting) : PoolState :=
  match s.pool.projectileClass, spawned with
  | some cls, true =>
      let j := s.projectiles.length
      let s := { s with projectiles := s.projectiles ++ [Projectile.spawn cls spawnLocation spawnRotation] }
      let s := s.notify hits.spawning
      let s := { s with pool := { s.pool with projectilePool := s.pool.projectilePool ++ [j] } }
      let s := s.update j fun p => { p with bIsActivation := bIsActive }
      let s := s.setActorEnableCollision j bIsActive hits.enabling
      if bIsActive then s.update j Projectile.start else s
  | _, _ => s

def nestedGetProjectile (s : PoolState) (spawnLocation : FVector) (spawnRotation : FRotator)
    (spawned : Bool) (hits : Nesting) : PoolState :=
  let s := { s with pool := { s.pool with bHaveActiveProjectile := false } }
  match s.firstIdle with
  | some j =>
      let s := s.update j fun p =>
        { p with location := spawnLocation, rotation := spawnRotation, bIsActivation := true }
      let s := { s with pool := { s.pool with bHaveActiveProjectile := true } }
      let s := s.setActorEnableCollision j true hits.enabling
      s.update j Projectile.start
  | none =>
      if s.pool.bHaveActiveProjectile = false then
        s.nestedSpawnProjectile spawnLocation spawnRotation true spawned hits
      else s

/-! Without notifications these are the functions of the pool. -/

theorem nestedSpawnProjectile_quiet (s : PoolState) (location : FVector) (rotation : FRotator)
    (bIsActive spawned : Bool) :
    s.nestedSpawnProjectile location rotation bIsActive spawned {} =
      s.spawnProjectile location rotation bIsActive spawned := by
  unfold nestedSpawnProjectile spawnProjectile
  cases s.pool.projectileClass with
  | none => rfl
  | some cls =>
      cases spawned with
      | false => rfl
      | true =>
          cases bIsActive <;>
            simp [setActorEnableCollision, notify, update, Foundation.modify_concat]

theorem nestedGetProjectile_quiet (s : PoolState) (location : FVector) (rotation : FRotator) (spawned : Bool) :
    s.nestedGetProjectile location rotation spawned {} = s.getProjectile location rotation spawned := by
  unfold nestedGetProjectile getProjectile
  simp only [nestedSpawnProjectile_quiet]
  have same : ({ s with pool := { s.pool with bHaveActiveProjectile := false } } : PoolState).firstIdle =
      s.firstIdle := rfl
  rw [same]
  cases s.firstIdle with
  | none => rfl
  | some j =>
      simp only [setActorEnableCollision, notify, List.foldl_nil, update, if_true, List.modify_modify_eq]
      rfl

/-! What the calls leave of each projectile. -/

theorem notify_pool (s : PoolState) (hits : List ProjectileId) : (s.notify hits).pool = s.pool := by
  induction hits generalizing s with
  | nil => rfl
  | cons j hits ih => exact ih (s.update j Projectile.deactivate)

theorem notify_lookup (s : PoolState) (hits : List ProjectileId) (i : ProjectileId) :
    (s.notify hits).projectiles[i]? =
      s.projectiles[i]?.map fun p => if i ∈ hits then p.deactivate else p := by
  induction hits generalizing s with
  | nil => simp [notify]
  | cons j hits ih =>
      have rest := ih (s.update j Projectile.deactivate)
      rw [notify, List.foldl_cons]
      refine rest.trans ?_
      simp only [update, List.getElem?_modify]
      cases s.projectiles[i]? with
      | none => rfl
      | some p =>
          -- A second notification finds an inactive projectile and leaves it so.
          have again : p.deactivate.deactivate = p.deactivate := rfl
          by_cases here : j = i
          · simp [here, again]
          · simp [here, Ne.symm here]

/-- Unchanged or deactivated. -/
def Kept (s s' : PoolState) (i : ProjectileId) : Prop :=
  ∀ p, s.projectiles[i]? = some p → s'.projectiles[i]? = some p ∨ s'.projectiles[i]? = some p.deactivate

theorem notify_kept (s : PoolState) (hits : List ProjectileId) (i : ProjectileId) : s.Kept (s.notify hits) i := by
  intro p found
  rw [notify_lookup, found]
  by_cases hit : i ∈ hits
  · exact .inr (by simp [hit])
  · exact .inl (by simp [hit])

theorem update_lookup (s : PoolState) {i j : ProjectileId} (ne : i ≠ j) (f : Projectile → Projectile) :
    (s.update j f).projectiles[i]? = s.projectiles[i]? :=
  List.getElem?_modify_ne f s.projectiles (Ne.symm ne)

/-- The last statements of a launch. -/
theorem finish_launch {s : PoolState} {j : ProjectileId} {q : Projectile} (hits : List ProjectileId)
    (found : s.projectiles[j]? = some q) (flag : q.bIsActivation = true) :
    ((s.setActorEnableCollision j true hits).update j Projectile.start).projectiles[j]? =
      some (if j ∈ hits then q.enabled.deactivate.start else q.enabled.start) := by
  have on : { q with bActorEnableCollision := true } = q.enabled := by simp [Projectile.enabled, ← flag]
  simp only [setActorEnableCollision, update, if_true, List.getElem?_modify_eq]
  rw [notify_lookup, List.getElem?_modify_eq, found]
  by_cases hit : j ∈ hits
  · simp [hit, on]
  · simp [hit, on]

theorem finish_kept (s : PoolState) {i j : ProjectileId} (ne : i ≠ j) (enabled : Bool)
    (hits : List ProjectileId) : s.Kept (s.setActorEnableCollision j enabled hits) i := by
  intro p found
  unfold setActorEnableCollision
  split
  · exact notify_kept _ hits i p (by rw [update_lookup s ne]; exact found)
  · exact .inl (by rw [update_lookup s ne]; exact found)

/-- One launch: the element it starts, and where that element was hit meanwhile. -/
structure Launch where
  id : ProjectileId
  cls : ProjectileClass
  hitSpawning : Bool
  hitEnabling : Bool

/-- What a launch leaves. -/
structure Launched (launch : Launch) (s s' : PoolState) : Prop where
  array : s'.pool.projectilePool = s.pool.projectilePool ∨
    s'.pool.projectilePool = s.pool.projectilePool ++ [launch.id]
  member : launch.id ∈ s'.pool.projectilePool
  element : ∃ q : Projectile, q.toProjectileClass = launch.cls ∧ s'.projectiles[launch.id]? =
    some (if launch.hitEnabling then q.enabled.deactivate.start else q.enabled.start)
  others : ∀ i, i ≠ launch.id → s.Kept s' i

/-- The launch of `SpawnProjectile`, if it comes to one. -/
def fresh (s : PoolState) (spawned : Bool) (hits : Nesting) : Option Launch :=
  match s.pool.projectileClass, spawned with
  | some cls, true => some
      { id := s.projectiles.length
        cls
        hitSpawning := decide (s.projectiles.length ∈ hits.spawning)
        hitEnabling := decide (s.projectiles.length ∈ hits.enabling) }
  | _, _ => none

/-- The launch of `GetProjectile`: of the first idle element, of a new one, or none. -/
def launchOf (s : PoolState) (spawned : Bool) (hits : Nesting) : Option Launch :=
  match s.firstIdle with
  | some j => s.projectiles[j]?.map fun p =>
      { id := j
        cls := p.toProjectileClass
        hitSpawning := false
        hitEnabling := decide (j ∈ hits.enabling) }
  | none => s.fresh spawned hits

/-- The element `SpawnProjectile` has just added, before the collision is set. -/
theorem spawned_lookup (s : PoolState) (q : Projectile) (hits : List ProjectileId) :
    ∃ q' : Projectile, q'.toProjectileClass = q.toProjectileClass ∧
      (q' = q ∨ q' = q.deactivate) ∧
      (({ s with projectiles := s.projectiles ++ [q] } : PoolState).notify hits).projectiles[s.projectiles.length]? =
        some q' := by
  rw [notify_lookup]
  by_cases hit : s.projectiles.length ∈ hits
  · exact ⟨q.deactivate, rfl, .inr rfl, by simp [hit]⟩
  · exact ⟨q, rfl, .inl rfl, by simp [hit]⟩

theorem append_kept (s : PoolState) (q : Projectile) (hits : List ProjectileId) (i : ProjectileId) :
    s.Kept (({ s with projectiles := s.projectiles ++ [q] } : PoolState).notify hits) i := by
  intro p found
  apply notify_kept
  rw [List.getElem?_append_left (List.getElem?_eq_some_iff.mp found).1]
  exact found

theorem Kept.trans {s₁ s₂ s₃ : PoolState} {i : ProjectileId} (first : s₁.Kept s₂ i) (second : s₂.Kept s₃ i) :
    s₁.Kept s₃ i := by
  intro p found
  have again : p.deactivate.deactivate = p.deactivate := rfl
  rcases first p found with same | retired
  · exact second p same
  · rcases second _ retired with same | twice
    · exact .inr same
    · exact .inr (again ▸ twice)

theorem Kept.of_lookup {s s' : PoolState} {i : ProjectileId} (same : s'.projectiles[i]? = s.projectiles[i]?) :
    s.Kept s' i := fun _ found => .inl (same.trans found)

theorem setActorEnableCollision_pool (s : PoolState) (j : ProjectileId) (enabled : Bool)
    (hits : List ProjectileId) : (s.setActorEnableCollision j enabled hits).pool = s.pool := by
  unfold setActorEnableCollision
  split
  · exact notify_pool _ _
  · rfl

/-- A launch leaves the other projectiles, but for what it reports as hit. -/
theorem launch_kept (s : PoolState) {i j : ProjectileId} (ne : i ≠ j) (f g : Projectile → Projectile)
    (enabled : Bool) (hits : List ProjectileId) :
    s.Kept (((s.update j f).setActorEnableCollision j enabled hits).update j g) i := by
  have first : s.Kept (s.update j f) i := .of_lookup (update_lookup s ne f)
  have second := finish_kept (s.update j f) ne enabled hits
  exact first.trans (second.trans (.of_lookup (update_lookup _ ne g)))

theorem nestedSpawnProjectile_launched {s : PoolState} {spawned : Bool} {hits : Nesting} {launch : Launch}
    (location : FVector) (rotation : FRotator) (target : s.fresh spawned hits = some launch) :
    Launched launch s (s.nestedSpawnProjectile location rotation true spawned hits) := by
  unfold fresh at target
  split at target
  next cls source =>
    obtain rfl := Option.some.inj target
    obtain ⟨q, kind, _, found⟩ := spawned_lookup s (.spawn cls location rotation) hits.spawning
    simp only [nestedSpawnProjectile, source, if_true]
    -- the state in which the collision is set
    generalize known : (PoolState.notify { s with
      projectiles := s.projectiles ++ [.spawn cls location rotation] } hits.spawning) = s₁ at found ⊢
    have pool : s₁.pool = s.pool := by
      rw [← known]
      exact notify_pool _ _
    have lookup : (({ s₁ with pool := { s₁.pool with
        projectilePool := s₁.pool.projectilePool ++ [s.projectiles.length] } } : PoolState).update
          s.projectiles.length fun p => { p with bIsActivation := true }).projectiles[s.projectiles.length]? =
        some { q with bIsActivation := true } := by
      simp [update, found]
    refine ⟨.inr ?_, ?_, ⟨{ q with bIsActivation := true }, kind, ?_⟩, fun i ne => ?_⟩
    · simp only [update, setActorEnableCollision_pool, pool]
    · simp [update, setActorEnableCollision_pool]
    · have done := finish_launch hits.enabling lookup rfl
      simp only [decide_eq_true_eq]
      exact done
    · have kept := append_kept s (.spawn cls location rotation) hits.spawning i
      rw [known] at kept
      exact kept.trans (launch_kept { s₁ with pool := { s₁.pool with
        projectilePool := s₁.pool.projectilePool ++ [s.projectiles.length] } } ne _ _ true hits.enabling)
  next => cases target

theorem nestedGetProjectile_launched {s : PoolState} {spawned : Bool} {hits : Nesting} {launch : Launch}
    (location : FVector) (rotation : FRotator) (target : s.launchOf spawned hits = some launch) :
    Launched launch s (s.nestedGetProjectile location rotation spawned hits) := by
  have same : ({ s with pool := { s.pool with bHaveActiveProjectile := false } } : PoolState).firstIdle =
      s.firstIdle := rfl
  unfold launchOf at target
  simp only [nestedGetProjectile, same]
  cases search : s.firstIdle with
  | none =>
      rw [search] at target
      have done := nestedSpawnProjectile_launched
        (s := { s with pool := { s.pool with bHaveActiveProjectile := false } }) location rotation target
      exact ⟨done.array, done.member, done.element, done.others⟩
  | some j =>
      rw [search] at target
      obtain ⟨p, found, rfl⟩ := Option.map_eq_some_iff.mp target
      have lookup : (s.update j fun p => { p with
          location := location, rotation := rotation, bIsActivation := true }).projectiles[j]? =
          some { p with location := location, rotation := rotation, bIsActivation := true } := by
        simp [update, found]
      refine ⟨.inl ?_, ?_, ⟨{ p with location := location, rotation := rotation, bIsActivation := true }, rfl, ?_⟩,
        fun i ne => ?_⟩
      · simp only [update, setActorEnableCollision_pool]
      · have inside : j ∈ s.pool.projectilePool := List.mem_of_find?_eq_some search
        simpa only [update, setActorEnableCollision_pool] using inside
      · simp only [decide_eq_true_eq]
        exact finish_launch hits.enabling lookup rfl
      · have first : s.Kept (s.update j fun p => { p with
            location := location, rotation := rotation, bIsActivation := true }) i :=
          .of_lookup (update_lookup s ne _)
        have second : (s.update j fun p => { p with
            location := location, rotation := rotation, bIsActivation := true }).Kept _ i :=
          finish_kept { s.update j _ with pool := { s.pool with bHaveActiveProjectile := true } } ne true
            hits.enabling
        exact first.trans (second.trans (.of_lookup (update_lookup _ ne _)))

/-- A call that comes to no launch leaves the array and the projectiles. -/
theorem nestedGetProjectile_idle {s : PoolState} {spawned : Bool} {hits : Nesting} (location : FVector)
    (rotation : FRotator) (target : s.launchOf spawned hits = none) :
    (s.nestedGetProjectile location rotation spawned hits).pool.projectilePool = s.pool.projectilePool ∧
      (s.nestedGetProjectile location rotation spawned hits).projectiles = s.projectiles := by
  have same : ({ s with pool := { s.pool with bHaveActiveProjectile := false } } : PoolState).firstIdle =
      s.firstIdle := rfl
  unfold launchOf at target
  simp only [nestedGetProjectile, same]
  cases search : s.firstIdle with
  | some j =>
      rw [search] at target
      have idle : isIdle s.projectiles j = true := List.find?_some search
      simp only [Option.map_eq_none_iff] at target
      simp [isIdle, target] at idle
  | none =>
      rw [search] at target
      cases source : s.pool.projectileClass with
      | none => simp [nestedSpawnProjectile, source]
      | some cls =>
          cases spawned with
          | false => simp [nestedSpawnProjectile]
          | true => simp [fresh, source] at target

/-- An element that `InitializePool` spawns is inactive, hit or not. -/
theorem nestedSpawnProjectile_inactive (s : PoolState) (location : FVector) (rotation : FRotator)
    (spawned : Bool) (hits : Nesting) :
    s.nestedSpawnProjectile location rotation false spawned hits = s ∨
      ((s.nestedSpawnProjectile location rotation false spawned hits).pool.projectilePool =
          s.pool.projectilePool ++ [s.projectiles.length] ∧
        (∃ q, (s.nestedSpawnProjectile location rotation false spawned hits).projectiles[s.projectiles.length]? =
          some q ∧ q.Inactive) ∧
        ∀ i, i ≠ s.projectiles.length → s.Kept (s.nestedSpawnProjectile location rotation false spawned hits) i) := by
  unfold nestedSpawnProjectile
  split
  next cls source =>
    obtain ⟨q, kind, how, found⟩ := spawned_lookup s (.spawn cls location rotation) hits.spawning
    have pool : (PoolState.notify { s with
      projectiles := s.projectiles ++ [.spawn cls location rotation] } hits.spawning).pool = s.pool :=
      notify_pool _ _
    refine .inr ⟨?_, ⟨{ q with bIsActivation := false, bActorEnableCollision := false }, ?_, ?_⟩, fun i ne => ?_⟩
    · simp [setActorEnableCollision, update, pool]
    · simp [setActorEnableCollision, update, found]
    · rcases how with rfl | rfl <;> exact ⟨rfl, rfl, rfl, rfl⟩
    · refine (append_kept s (.spawn cls location rotation) hits.spawning i).trans (.of_lookup ?_)
      simp [setActorEnableCollision, update, List.getElem?_modify_ne _ _ (Ne.symm ne)]
  next => exact .inl rfl

/-! Runs. -/

def AllSettled (s : PoolState) : Prop :=
  ∀ j ∈ s.pool.projectilePool, ∃ p, s.projectiles[j]? = some p ∧ p.Settled

theorem AllSettled.kept {s s' : PoolState} (settled : s.AllSettled) {j : ProjectileId}
    (member : j ∈ s.pool.projectilePool) (kept : s.Kept s' j) : ∃ p, s'.projectiles[j]? = some p ∧ p.Settled := by
  obtain ⟨p, found, agree⟩ := settled j member
  rcases kept p found with same | retired
  · exact ⟨p, same, agree⟩
  · exact ⟨p.deactivate, retired, p.deactivate_inactive.settled⟩

/-- The launched element was hit on the way. -/
def Launch.Hit (launch : Launch) : Prop := launch.hitSpawning = true ∨ launch.hitEnabling = true

/-- A launch that is not hit and arms both timers; or one hit at the collision whose
`Start` arms neither. -/
def Launch.Clean (launch : Launch) : Prop :=
  (¬ launch.Hit ∧ 0 < launch.cls.moveRate ∧ 0 < launch.cls.deactivateTime) ∨
    (launch.hitEnabling = true ∧ ¬ 0 < launch.cls.moveRate ∧ ¬ 0 < launch.cls.deactivateTime)

instance (launch : Launch) : Decidable launch.Clean :=
  inferInstanceAs (Decidable ((¬ (launch.hitSpawning = true ∨ launch.hitEnabling = true) ∧
      0 < launch.cls.moveRate ∧ 0 < launch.cls.deactivateTime) ∨
    (launch.hitEnabling = true ∧ ¬ 0 < launch.cls.moveRate ∧ ¬ 0 < launch.cls.deactivateTime)))

theorem Launched.clean_iff {launch : Launch} {s s' : PoolState} (launched : Launched launch s s')
    (settled : s.AllSettled) :
    (s'.AllSettled ∧ (launch.Hit → ∃ p, s'.projectiles[launch.id]? = some p ∧ p.Inactive)) ↔ launch.Clean := by
  obtain ⟨q, kind, found⟩ := launched.element
  have moveRate : q.moveRate = launch.cls.moveRate := congrArg ProjectileClass.moveRate kind
  have deactivateTime : q.deactivateTime = launch.cls.deactivateTime :=
    congrArg ProjectileClass.deactivateTime kind
  have started := q.start_enabled_settled
  have stopped := q.enabled.start_deactivate_inactive
  have same : q.enabled.moveRate = q.moveRate ∧ q.enabled.deactivateTime = q.deactivateTime := ⟨rfl, rfl⟩
  rw [same.1, same.2, moveRate, deactivateTime] at stopped
  rw [moveRate, deactivateTime] at started
  -- the other elements are as settled as before
  have rest : ∀ r, s'.projectiles[launch.id]? = some r → r.Settled → s'.AllSettled := by
    intro r here agree i member
    by_cases own : i = launch.id
    · exact ⟨r, own ▸ here, agree⟩
    · have old : i ∈ s.pool.projectilePool := by
        rcases launched.array with array | array
        · rwa [array] at member
        · rw [array, List.mem_append, List.mem_singleton] at member
          exact member.resolve_right own
      exact settled.kept old (launched.others i own)
  cases hit : launch.hitEnabling with
  | true =>
      rw [hit, if_pos rfl] at found
      constructor
      · rintro ⟨_, consumed⟩
        obtain ⟨p, here, inactive⟩ := consumed (.inr hit)
        obtain rfl := Option.some.inj (found.symm.trans here)
        exact .inr ⟨hit, stopped.mp inactive⟩
      · rintro (⟨missed, _⟩ | ⟨_, rates⟩)
        · exact absurd (.inr hit) missed
        · have inactive := stopped.mpr rates
          exact ⟨rest _ found inactive.settled, fun _ => ⟨_, found, inactive⟩⟩
  | false =>
      simp only [hit, Bool.false_eq_true, if_false] at found
      constructor
      · rintro ⟨all, consumed⟩
        obtain ⟨p, here, agree⟩ := all launch.id launched.member
        obtain rfl := Option.some.inj (found.symm.trans here)
        refine .inl ⟨?_, started.mp agree⟩
        intro struck
        obtain ⟨p, here, inactive⟩ := consumed struck
        obtain rfl := Option.some.inj (found.symm.trans here)
        cases inactive.flag
      · rintro (⟨missed, rates⟩ | ⟨struck, _⟩)
        · exact ⟨rest _ found (started.mpr rates), fun struck => absurd struck missed⟩
        · cases hit.symm.trans struck

/-- The two calls with what the engine answers and notifies, and the events between. -/
inductive NestedEvent where
  | getProjectile (spawnLocation : FVector) (spawnRotation : FRotator) (spawned : Bool) (hits : Nesting)
  | spawnProjectile (spawnLocation : FVector) (spawnRotation : FRotator) (bIsActive spawned : Bool)
      (hits : Nesting)
  | move (j : ProjectileId) (forward : FVector)
  | deactivateTimer (j : ProjectileId)
  | meshOverlapBegin (j : ProjectileId)

def nestedStep (s : PoolState) : NestedEvent → Option (PoolState × Unit)
  | .getProjectile spawnLocation spawnRotation spawned hits =>
      some (s.nestedGetProjectile spawnLocation spawnRotation spawned hits, ())
  | .spawnProjectile spawnLocation spawnRotation bIsActive spawned hits =>
      some (s.nestedSpawnProjectile spawnLocation spawnRotation bIsActive spawned hits, ())
  | .move j forward => s.onProjectile j (·.moveTimer.isSome) (Projectile.move forward)
  | .deactivateTimer j => s.onProjectile j (·.deactivateTimer.isSome) Projectile.deactivate
  | .meshOverlapBegin j => s.onProjectile j (fun _ => true) Projectile.deactivate

/-- The launch a call comes to, if any. -/
def launchBy (s : PoolState) : NestedEvent → Option Launch
  | .getProjectile _ _ spawned hits => s.launchOf spawned hits
  | .spawnProjectile _ _ true spawned hits => s.fresh spawned hits
  | _ => none

/-- After the outer call has returned. -/
structure LaunchSafe (t : Step PoolState NestedEvent Unit) : Prop where
  settled : t.after.AllSettled
  consumed : ∀ launch, t.before.launchBy t.event = some launch → launch.Hit →
    ∃ p, t.after.projectiles[launch.id]? = some p ∧ p.Inactive

theorem AllSettled.update {s : PoolState} (settled : s.AllSettled) (j : ProjectileId)
    {f : Projectile → Projectile} (keeps : ∀ p : Projectile, p.Settled → (f p).Settled) :
    (s.update j f).AllSettled := by
  intro i member
  obtain ⟨p, found, agree⟩ := settled i member
  by_cases same : j = i
  · subst same
    exact ⟨f p, by simp [PoolState.update, found], keeps p agree⟩
  · exact ⟨p, by rw [update_lookup s (Ne.symm same), found], agree⟩

/-- What a step does: one launch, or nothing that unsettles an element. -/
theorem nestedStep_cases {s s' : PoolState} {event : NestedEvent} {out : Unit}
    (taken : s.nestedStep event = some (s', out)) :
    (∃ launch, s.launchBy event = some launch ∧ Launched launch s s') ∨
      (s.launchBy event = none ∧ (s.AllSettled → s'.AllSettled)) := by
  cases event with
  | getProjectile location rotation spawned hits =>
      cases taken
      cases target : s.launchOf spawned hits with
      | some launch => exact .inl ⟨launch, target, nestedGetProjectile_launched location rotation target⟩
      | none =>
          obtain ⟨array, same⟩ := nestedGetProjectile_idle location rotation target
          refine .inr ⟨target, ?_⟩
          unfold AllSettled
          rw [array, same]
          exact id
  | spawnProjectile location rotation bIsActive spawned hits =>
      cases taken
      cases bIsActive with
      | true =>
          cases target : s.fresh spawned hits with
          | some launch => exact .inl ⟨launch, target, nestedSpawnProjectile_launched location rotation target⟩
          | none =>
              refine .inr ⟨target, ?_⟩
              cases source : s.pool.projectileClass with
              | none => simp [nestedSpawnProjectile, source]
              | some cls =>
                  cases spawned with
                  | false => simp [nestedSpawnProjectile]
                  | true => simp [fresh, source] at target
      | false =>
          refine .inr ⟨rfl, fun settled => ?_⟩
          rcases s.nestedSpawnProjectile_inactive location rotation spawned hits with
            same | ⟨array, ⟨q, found, inactive⟩, others⟩
          · rwa [same]
          · intro i member
            by_cases own : i = s.projectiles.length
            · exact ⟨q, own ▸ found, inactive.settled⟩
            · rw [array, List.mem_append, List.mem_singleton] at member
              exact settled.kept (member.resolve_right own) (others i own)
  | move j forward =>
      obtain ⟨_, _, _, rfl⟩ := onProjectile_cases taken
      exact .inr ⟨rfl, fun settled => settled.update j fun p agree => agree.of_move forward⟩
  | deactivateTimer j | meshOverlapBegin j =>
      obtain ⟨_, _, _, rfl⟩ := onProjectile_cases taken
      exact .inr ⟨rfl, fun settled => settled.update j fun p _ => p.deactivate_inactive.settled⟩

/-- The pool recovers from every launch of a run exactly when every launch is clean.
The run begins before `InitializePool`, whose calls are among its events. -/
theorem launchSafe_iff {start final : PoolState} {trace : List (Step PoolState NestedEvent Unit)}
    (empty : start.pool.projectilePool = []) (run : Run nestedStep start trace final) :
    (∀ t ∈ trace, LaunchSafe t) ↔
      ∀ t ∈ trace, ∀ launch, t.before.launchBy t.event = some launch → launch.Clean := by
  have step : ∀ t : Step PoolState NestedEvent Unit,
      t.before.nestedStep t.event = some (t.after, t.output) → t.before.AllSettled →
        (LaunchSafe t ↔ ∀ launch, t.before.launchBy t.event = some launch → launch.Clean) := by
    intro t taken settled
    rcases nestedStep_cases taken with ⟨launch, target, launched⟩ | ⟨unaimed, keeps⟩
    · constructor
      · rintro ⟨after, consumed⟩ launch' target'
        obtain rfl := Option.some.inj (target.symm.trans target')
        exact (launched.clean_iff settled).mp ⟨after, consumed launch target⟩
      · intro clean
        obtain ⟨after, consumed⟩ := (launched.clean_iff settled).mpr (clean launch target)
        refine ⟨after, fun launch' target' => ?_⟩
        obtain rfl := Option.some.inj (target.symm.trans target')
        exact consumed
    · constructor
      · rintro _ launch target
        cases unaimed.symm.trans target
      · intro _
        exact ⟨keeps settled, fun launch target => by cases unaimed.symm.trans target⟩
  refine run.forall_iff AllSettled _ _ ?_ ?_ step
  · intro j member
    rw [empty] at member
    cases member
  · intro t taken settled clean
    exact ((step t taken settled).mpr clean).settled

/-- A pool of the default class, before `InitializePool`. -/
def emptyPool : PoolState := { pool := { projectileClass := some {} }, projectiles := [] }

/-- One idle element, then two launches; the second finds the pool full. -/
def launchTrace (hits : Nesting) : List (Step PoolState NestedEvent Unit) :=
  (perform nestedStep emptyPool
    [.spawnProjectile Projectile.hidden ⟨0, 0, 0⟩ false true { spawning := [0] },
      .getProjectile ⟨0, 0, 0⟩ ⟨0, 0, 0⟩ true hits, .getProjectile ⟨0, 0, 0⟩ ⟨0, 0, 0⟩ true { enabling := [0] }]).1

theorem launchTrace_clean : ∀ t ∈ launchTrace {},
    (t.before.launchBy t.event).all (fun launch => decide launch.Clean) = true := by decide +kernel

-- The last launch notifies the element that is already in flight, not its own.
theorem launchSafe_iff_quiet : emptyPool.pool.projectilePool = [] ∧ ∀ t ∈ launchTrace {}, LaunchSafe t :=
  ⟨rfl, (launchSafe_iff rfl (perform_run _ _ _)).mpr fun t member launch target => by
    have clean := launchTrace_clean t member
    simpa [target] using clean⟩

theorem launchTrace_second : 1 < (launchTrace { enabling := [0] }).length := by decide +kernel

-- The muzzle touches a target: idle and without collision, yet moving.
theorem struck_launch_unsettled :
    ¬ ∀ (final : PoolState) (trace : List (Step PoolState NestedEvent Unit)),
      Run nestedStep emptyPool trace final → ∀ t ∈ trace, LaunchSafe t := by
  intro claim
  have safe := claim _ _ (perform_run _ _ _) _ (List.get_mem (launchTrace { enabling := [0] }) ⟨1, launchTrace_second⟩)
  obtain ⟨p, found, agree⟩ := safe.settled 0 (by decide +kernel)
  have moving : (((launchTrace { enabling := [0] }).get ⟨1, launchTrace_second⟩).after.projectiles[0]?).any
      (fun p => !p.bActorEnableCollision && (p.moveTimer.isSome && p.deactivateTimer.isSome)) = true := by
    decide +kernel
  rw [found] at moving
  simp only [Option.any_some, Bool.and_eq_true, Bool.not_eq_true'] at moving
  have collides := agree.timers.mpr moving.2
  cases collides.symm.trans moving.1

end PoolState

end TankoGeddon
