import Mathlib.Data.List.Nodup
import TankoGeddon.Foundation.Slots
import TankoGeddon.ProjectilePool

/-! What a projectile pool promises over its whole life.

The functions of two classes write the flag, the collision state and the timers
of an element; all of them keep the element consistent, and the array only grows
when every element is in flight.
-/

set_option autoImplicit false

namespace TankoGeddon.PoolState

open Foundation (Timer Run Step SlotStep peak peak_nil size_eq_peak perform perform_run)

/-- `GetProjectile` with a successful spawn, the two timer callbacks of a
projectile and its begin-overlap, of which the pool sees `Deactivate`. -/
inductive Event where
  | getProjectile (spawnLocation : FVector) (spawnRotation : FRotator)
  | move (j : ProjectileId) (forward : FVector)
  | deactivateTimer (j : ProjectileId)
  | meshOverlapBegin (j : ProjectileId)

/-- A projectile that is there and for which the engine has the event on offer. -/
def onProjectile (s : PoolState) (j : ProjectileId) (offered : Projectile → Bool)
    (f : Projectile → Projectile) : Option (PoolState × Unit) :=
  match s.projectiles[j]? with
  | some p => if offered p then some ({ s with projectiles := s.projectiles.modify j f }, ()) else none
  | none => none

def step (s : PoolState) : Event → Option (PoolState × Unit)
  | .getProjectile spawnLocation spawnRotation =>
      some (s.getProjectile spawnLocation spawnRotation true, ())
  | .move j forward => s.onProjectile j (·.moveTimer.isSome) (Projectile.move forward)
  | .deactivateTimer j => s.onProjectile j (·.deactivateTimer.isSome) Projectile.deactivate
  | .meshOverlapBegin j => s.onProjectile j (·.bActorEnableCollision) Projectile.deactivate

/-- The element is there and flagged. -/
def isActive (projectiles : List Projectile) (j : ProjectileId) : Bool :=
  projectiles[j]?.any (·.bIsActivation)

/-- How many elements of the array are in flight. -/
def inFlight (s : PoolState) : Nat := s.pool.projectilePool.countP (isActive s.projectiles)

structure Sound (cls : ProjectileClass) (s : PoolState) : Prop where
  source : s.pool.projectileClass = some cls
  nodup : s.pool.projectilePool.Nodup
  element : ∀ j ∈ s.pool.projectilePool,
    ∃ p, s.projectiles[j]? = some p ∧ p.toProjectileClass = cls ∧ p.Consistent

variable {cls : ProjectileClass} {s s' : PoolState}

theorem Sound.lt_length (sound : s.Sound cls) {j : ProjectileId} (member : j ∈ s.pool.projectilePool) :
    j < s.projectiles.length := by
  obtain ⟨p, found, _⟩ := sound.element j member
  exact (List.getElem?_eq_some_iff.mp found).1

theorem Sound.active_of_not_idle (sound : s.Sound cls) {j : ProjectileId}
    (member : j ∈ s.pool.projectilePool) (busy : isIdle s.projectiles j ≠ true) :
    isActive s.projectiles j = true := by
  obtain ⟨p, found, _⟩ := sound.element j member
  simpa [isActive, isIdle, found] using busy

/-- An update of one projectile that keeps elements consistent keeps the pool sound. -/
theorem Sound.modify (sound : s.Sound cls) (j : ProjectileId) (f : Projectile → Projectile)
    (keeps : ∀ p : Projectile, p.toProjectileClass = cls → p.Consistent →
      (f p).toProjectileClass = cls ∧ (f p).Consistent) :
    Sound cls { s with projectiles := s.projectiles.modify j f } where
  source := sound.source
  nodup := sound.nodup
  element := by
    intro i member
    obtain ⟨p, found, kind, agree⟩ := sound.element i member
    by_cases same : j = i
    · subst same
      exact ⟨f p, by simp [found], keeps p kind agree⟩
    · exact ⟨p, by simp [List.getElem?_modify_ne f s.projectiles same, found], kind, agree⟩

/-- A spawned element joins the array under a number no element has. -/
theorem Sound.append (sound : s.Sound cls) {p : Projectile} (kind : p.toProjectileClass = cls)
    (agree : p.Consistent) :
    Sound cls { pool := { s.pool with projectilePool := s.pool.projectilePool ++ [s.projectiles.length] }
                projectiles := s.projectiles ++ [p] } where
  source := sound.source
  nodup := by
    refine List.nodup_append.mpr ⟨sound.nodup, List.nodup_singleton _, ?_⟩
    intro i member k last
    have bound := sound.lt_length member
    rw [List.mem_singleton.mp last]
    exact Nat.ne_of_lt bound
  element := by
    intro i member
    rcases List.mem_append.mp member with old | last
    · obtain ⟨q, found, rest⟩ := sound.element i old
      exact ⟨q, by rw [List.getElem?_append_left (sound.lt_length old)]; exact found, rest⟩
    · rw [List.mem_singleton] at last
      subst last
      exact ⟨p, by simp, kind, agree⟩

theorem reuse_consistent (moves : 0 < cls.moveRate) (expires : 0 < cls.deactivateTime)
    (location : FVector) (rotation : FRotator) {p : Projectile} (kind : p.toProjectileClass = cls) :
    (reuse location rotation p).toProjectileClass = cls ∧ (reuse location rotation p).Consistent := by
  subst kind
  exact ⟨rfl, Projectile.start_consistent rfl rfl moves expires⟩

/-- With spawns that succeed, a full pool always grows. -/
theorem getProjectile_spawned (source : s.pool.projectileClass = some cls) (location : FVector)
    (rotation : FRotator) :
    (∃ j ∈ s.pool.projectilePool, isIdle s.projectiles j = true ∧
      s.getProjectile location rotation true =
        { pool := { s.pool with bHaveActiveProjectile := true }
          projectiles := s.projectiles.modify j (reuse location rotation) }) ∨
    ((∀ j ∈ s.pool.projectilePool, isIdle s.projectiles j ≠ true) ∧
      s.getProjectile location rotation true =
        { pool := { s.pool with
            projectilePool := s.pool.projectilePool ++ [s.projectiles.length]
            bHaveActiveProjectile := false }
          projectiles := s.projectiles ++ [reuse location rotation (.spawn cls location rotation)] }) := by
  rcases s.getProjectile_cases location rotation true with
    ⟨j, member, _, idle, result⟩ | ⟨search, other, same, _, result⟩ | ⟨_, failed, _⟩
  · exact .inl ⟨j, member, idle, result⟩
  · rw [source] at same
    cases same
    exact .inr ⟨List.find?_eq_none.mp search, result⟩
  · simp [source] at failed

theorem Sound.getProjectile (sound : s.Sound cls) (moves : 0 < cls.moveRate)
    (expires : 0 < cls.deactivateTime) (location : FVector) (rotation : FRotator) :
    (s.getProjectile location rotation true).Sound cls := by
  rcases getProjectile_spawned sound.source location rotation with ⟨j, _, _, result⟩ | ⟨_, result⟩
  · have next := sound.modify j (reuse location rotation)
      fun p kind _ => reuse_consistent moves expires location rotation kind
    rw [result]
    exact ⟨next.source, next.nodup, next.element⟩
  · obtain ⟨kind, agree⟩ := reuse_consistent (p := .spawn cls location rotation) moves expires
      location rotation rfl
    have next := sound.append kind agree
    rw [result]
    exact ⟨next.source, next.nodup, next.element⟩

theorem onProjectile_cases {j : ProjectileId} {offered : Projectile → Bool}
    {f : Projectile → Projectile} {out : Unit} (taken : s.onProjectile j offered f = some (s', out)) :
    ∃ p, s.projectiles[j]? = some p ∧ offered p = true ∧
      s' = { s with projectiles := s.projectiles.modify j f } := by
  unfold onProjectile at taken
  split at taken
  next p found =>
    split at taken
    next ok =>
      cases taken
      exact ⟨p, found, ok, rfl⟩
    next => cases taken
  next => cases taken

/-- Every step is a `GetProjectile` or an update of one projectile that keeps
consistent elements consistent. -/
theorem step_cases {event : Event} {out : Unit} (taken : s.step event = some (s', out)) :
    (∃ location rotation, event = .getProjectile location rotation ∧
      s' = s.getProjectile location rotation true) ∨
    (∃ j f, s' = { s with projectiles := s.projectiles.modify j f } ∧
      ∀ p : Projectile, p.Consistent →
        (f p).toProjectileClass = p.toProjectileClass ∧ (f p).Consistent) := by
  cases event with
  | getProjectile location rotation =>
      cases taken
      exact .inl ⟨location, rotation, rfl, rfl⟩
  | move j forward =>
      obtain ⟨_, _, _, rfl⟩ := onProjectile_cases taken
      exact .inr ⟨j, _, rfl, fun p agree => ⟨rfl, agree.of_move forward⟩⟩
  | deactivateTimer j | meshOverlapBegin j =>
      obtain ⟨_, _, _, rfl⟩ := onProjectile_cases taken
      exact .inr ⟨j, _, rfl, fun p _ => ⟨rfl, p.deactivate_consistent⟩⟩

theorem Sound.step (sound : s.Sound cls) (moves : 0 < cls.moveRate) (expires : 0 < cls.deactivateTime)
    {event : Event} {out : Unit} (taken : s.step event = some (s', out)) : s'.Sound cls := by
  rcases step_cases taken with ⟨location, rotation, _, rfl⟩ | ⟨j, f, rfl, keeps⟩
  · exact sound.getProjectile moves expires location rotation
  · refine sound.modify j f fun p kind agree => ?_
    exact ⟨(keeps p agree).1.trans kind, (keeps p agree).2⟩

theorem inFlight_le (s : PoolState) : s.inFlight ≤ s.pool.projectilePool.length :=
  List.countP_le_length

/-- The array only grows when all of it is in flight. -/
theorem Sound.slotStep (sound : s.Sound cls) {event : Event} {out : Unit}
    (taken : s.step event = some (s', out)) :
    SlotStep s.pool.projectilePool.length s.inFlight s'.pool.projectilePool.length s'.inFlight := by
  rcases step_cases taken with ⟨location, rotation, _, rfl⟩ | ⟨j, f, rfl, _⟩
  · rcases getProjectile_spawned sound.source location rotation with ⟨j, _, _, result⟩ | ⟨busy, result⟩
    · have bound := inFlight_le (s.getProjectile location rotation true)
      have same : (s.getProjectile location rotation true).pool.projectilePool.length =
          s.pool.projectilePool.length := by rw [result]
      rw [same] at bound ⊢
      exact .within bound
    · have full : s.inFlight = s.pool.projectilePool.length := by
        refine List.countP_eq_length.mpr fun j member => ?_
        exact sound.active_of_not_idle member (busy j member)
      have after : (s.getProjectile location rotation true).inFlight =
          s.pool.projectilePool.length + 1 := by
        rw [result, inFlight, List.countP_append, List.countP_singleton]
        have old : s.pool.projectilePool.countP (isActive (s.projectiles ++
            [reuse location rotation (.spawn cls location rotation)])) = s.inFlight := by
          refine List.countP_congr fun j member => ?_
          simp only [isActive, List.getElem?_append_left (sound.lt_length member)]
        simp only [old, full]
        simp [isActive, reuse, Projectile.start]
      have size : (s.getProjectile location rotation true).pool.projectilePool.length =
          s.pool.projectilePool.length + 1 := by rw [result]; simp
      rw [after, size, full]
      exact .grow
  · exact .within (inFlight_le { s with projectiles := s.projectiles.modify j f })

/-- The pool after `InitializePool`, in a level that may hold other projectiles. -/
def initialized (pc : PoolClass) (others : List Projectile) : PoolState :=
  initializePool { pool := { pc with }, projectiles := others } fun _ => true

theorem initializeLoop_sound (pc : PoolClass) (others : List Projectile)
    (source : pc.projectileClass = some cls) (bound : Nat) :
    let s := initializeLoop (fun _ => true) bound { pool := { pc with }, projectiles := others }
    s.Sound cls ∧ s.inFlight = 0 ∧ s.pool.projectilePool.length = bound ∧ s.pool.toPoolClass = pc := by
  induction bound with
  | zero => exact ⟨⟨source, List.nodup_nil, by simp [initializeLoop]⟩, rfl, rfl, rfl⟩
  | succ bound ih =>
      obtain ⟨sound, idle, size, kind⟩ := ih
      simp only [initializeLoop]
      generalize initializeLoop (fun _ => true) bound
        { pool := { pc with }, projectiles := others } = s at sound idle size kind ⊢
      -- The element spawned last is idle, so nothing new is in flight.
      have spawned : s.spawnProjectile Projectile.hidden ⟨0, 0, 0⟩ false true =
          { pool := { s.pool with projectilePool := s.pool.projectilePool ++ [s.projectiles.length] }
            projectiles := s.projectiles ++ [{ Projectile.spawn cls Projectile.hidden ⟨0, 0, 0⟩ with
              bIsActivation := false, bActorEnableCollision := false }] } := by
        simp [spawnProjectile, sound.source]
      rw [spawned]
      refine ⟨sound.append rfl ⟨rfl, rfl, rfl⟩, ?_, by simp [size], kind⟩
      rw [inFlight, List.countP_append, List.countP_singleton]
      have old : s.pool.projectilePool.countP (isActive (s.projectiles ++
          [{ Projectile.spawn cls Projectile.hidden ⟨0, 0, 0⟩ with
            bIsActivation := false, bActorEnableCollision := false }])) = s.inFlight := by
        refine List.countP_congr fun j member => ?_
        simp only [isActive, List.getElem?_append_left (sound.lt_length member)]
      simp only [old, idle]
      simp [isActive]

theorem initialized_sound (pc : PoolClass) (others : List Projectile)
    (source : pc.projectileClass = some cls) :
    (initialized pc others).Sound cls ∧ (initialized pc others).inFlight = 0 ∧
      (initialized pc others).pool.projectilePool.length = pc.poolSize.toNat := by
  obtain ⟨sound, idle, size, _⟩ := initializeLoop_sound pc others source pc.poolSize.toNat
  exact ⟨sound, idle, size⟩

/-- One more projectile of the array flies, from the given pose, and the other
elements are as they were. -/
def LaunchesOne (s s' : PoolState) (location : FVector) (rotation : FRotator) : Prop :=
  ∃ j ∈ s'.pool.projectilePool, isActive s.projectiles j = false ∧
    (∃ p, s'.projectiles[j]? = some p ∧ p.bIsActivation = true ∧
      p.location = location ∧ p.rotation = rotation) ∧
    ∀ i ∈ s'.pool.projectilePool, i ≠ j → s'.projectiles[i]? = s.projectiles[i]?

theorem Sound.launchesOne (sound : s.Sound cls) (location : FVector) (rotation : FRotator) :
    LaunchesOne s (s.getProjectile location rotation true) location rotation := by
  rcases getProjectile_spawned sound.source location rotation with ⟨j, member, idle, result⟩ | ⟨_, result⟩
  · obtain ⟨p, found, _⟩ := sound.element j member
    rw [result]
    refine ⟨j, member, ?_, ⟨reuse location rotation p, by simp [found], rfl, rfl, rfl⟩, ?_⟩
    · simpa [isActive, isIdle, found] using idle
    · intro i _ other
      exact List.getElem?_modify_ne _ _ (Ne.symm other)
  · rw [result]
    refine ⟨s.projectiles.length, by simp, by simp [isActive],
      ⟨reuse location rotation (.spawn cls location rotation), by simp, rfl, rfl, rfl⟩, ?_⟩
    intro i member other
    rcases List.mem_append.mp member with old | last
    · exact List.getElem?_append_left (sound.lt_length old)
    · exact absurd (List.mem_singleton.mp last) other

theorem array_prefix (sound : s.Sound cls) {event : Event} {out : Unit}
    (taken : s.step event = some (s', out)) : s.pool.projectilePool <+: s'.pool.projectilePool := by
  rcases step_cases taken with ⟨location, rotation, _, rfl⟩ | ⟨j, f, rfl, _⟩
  · rcases getProjectile_spawned sound.source location rotation with ⟨_, _, _, result⟩ | ⟨_, result⟩
    · rewrite [result]
      exact List.prefix_refl _
    · rw [result]
      exact List.prefix_append _ _
  · exact List.prefix_refl _

/-- Flag, collision and timers of an element, and the flight its timers belong to. -/
def Agrees (s : PoolState) (j : ProjectileId) : Prop :=
  ∃ p, s.projectiles[j]? = some p ∧
    (p.bIsActivation = true ↔ p.bActorEnableCollision = true) ∧
    (p.bActorEnableCollision = true ↔ p.moveTimer.isSome = true ∧ p.deactivateTimer.isSome = true) ∧
    (∀ armed, p.moveTimer = some armed → armed = p.flight) ∧
    (∀ armed, p.deactivateTimer = some armed → armed = p.flight)

theorem Sound.agrees (sound : s.Sound cls) {j : ProjectileId} (member : j ∈ s.pool.projectilePool) :
    Agrees s j := by
  obtain ⟨p, found, _, agree⟩ := sound.element j member
  refine ⟨p, found, agree.flag_iff_collision, agree.collision_iff_timers, ?_, ?_⟩
  · intro armed pending
    rw [agree.move] at pending
    split at pending <;> cases pending
    rfl
  · intro armed pending
    rw [agree.deactivate] at pending
    split at pending <;> cases pending
    rfl

/-- The contract of a pool from `InitializePool` on. -/
theorem pool_contract {pc : PoolClass} {others : List Projectile} {final : PoolState}
    {trace : List (Step PoolState Event Unit)} (size : 0 ≤ pc.poolSize)
    (source : pc.projectileClass = some cls) (moves : 0 < cls.moveRate)
    (expires : 0 < cls.deactivateTime) (run : Run step (initialized pc others) trace final) :
    (∀ t ∈ trace, ∀ location rotation, t.event = .getProjectile location rotation →
      LaunchesOne t.before t.after location rotation) ∧
    (final.pool.projectilePool.Nodup ∧
      (∀ t ∈ trace, t.before.pool.projectilePool <+: t.after.pool.projectilePool) ∧
      (final.pool.projectilePool.length : Int) =
        max pc.poolSize (peak inFlight (initialized pc others) trace)) ∧
    (∀ j ∈ final.pool.projectilePool, Agrees final j) ∧
    (∀ t ∈ trace, ∀ j ∈ t.before.pool.projectilePool, Agrees t.before j) := by
  obtain ⟨initial, idle, length⟩ := initialized_sound pc others source
  obtain ⟨last, each⟩ := run.invariant (Sound cls) initial
    fun t _ taken sound => sound.step moves expires taken
  refine ⟨?_, ⟨last.nodup, ?_, ?_⟩, fun j member => last.agrees member,
    fun t member j element => (each t member).1.agrees element⟩
  · intro t member location rotation called
    have taken := run.taken member
    rw [called] at taken
    have after : t.before.getProjectile location rotation true = t.after :=
      congrArg Prod.fst (Option.some.inj taken)
    rw [← after]
    exact (each t member).1.launchesOne location rotation
  · intro t member
    exact array_prefix (each t member).1 (run.taken member)
  · have law := size_eq_peak run (fun s => s.pool.projectilePool.length) inFlight
      (by rw [idle]; exact Nat.zero_le _) fun t member => (each t member).1.slotStep (run.taken member)
    rw [length] at law
    omega

/-- A pool of one, a level without other projectiles. -/
def small : PoolState := initialized { poolSize := 1, projectileClass := some {} } []

-- Two launches, a hit and a third launch, which reuses the element that was hit.
theorem pool_contract_reuse :
    ((perform step small [.getProjectile ⟨0, 0, 0⟩ ⟨0, 0, 0⟩, .getProjectile ⟨1, 0, 0⟩ ⟨0, 0, 0⟩,
        .meshOverlapBegin 0, .getProjectile ⟨2, 0, 0⟩ ⟨0, 0, 0⟩]).2.pool.projectilePool.length : Int) =
      max 1 (peak inFlight small (perform step small [.getProjectile ⟨0, 0, 0⟩ ⟨0, 0, 0⟩,
        .getProjectile ⟨1, 0, 0⟩ ⟨0, 0, 0⟩, .meshOverlapBegin 0,
        .getProjectile ⟨2, 0, 0⟩ ⟨0, 0, 0⟩]).1) :=
  (pool_contract (by decide) rfl (by decide +kernel) (by decide +kernel)
    (perform_run step small _)).2.1.2.2

end TankoGeddon.PoolState
