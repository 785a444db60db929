import Mathlib.Logic.Relation
import TankoGeddon.Foundation.Run
import TankoGeddon.World.Transitions

/-! The level refines its links: every step is a sequence of moves on them. -/

set_option autoImplicit false

namespace TankoGeddon

open Foundation (Run Step map_modify modify_concat)

abbrev Moves := Relation.ReflTransGen Links.Move

theorem Links.Wired.moves {k k' : Links} (wired : k.Wired) (moves : Moves k k') : k'.Wired := by
  induction moves with
  | refl => exact wired
  | tail _ move ih => exact move.wired ih

namespace World

/-! Damage and score. -/

theorem die_eq (w : World) (p : PawnId) :
    w.die p = (w.destroyOld (w.pawns[p]?.bind (·.cannon))).updatePawn p MachinePawn.destroy := by
  unfold die
  cases w.pawns[p]?.bind (·.cannon) <;> rfl

theorem destroyOld_pawns (w : World) (old : Option CannonId) : (w.destroyOld old).pawns = w.pawns := by
  cases old <;> rfl

theorem links_die (w : World) (p : PawnId) : (w.die p).links = w.links.die p := by
  rw [die_eq, links_changePawn _ p (g := fun x => { x with destroyed := true }) fun x => rfl,
    links_destroyOld, Links.destroyOld_pawns, Links.die, slot_links]
  rfl

theorem takeDamage_moves (w : World) (p : PawnId) (damageData : FDamageData) :
    Moves w.links (w.takeDamage p damageData).links := by
  unfold takeDamage
  cases found : w.pawns[p]? with
  | none => exact .refl
  | some x =>
      have hurt : ∀ health, (w.updatePawn p fun x => { x with healthComponent := health }).links = w.links :=
        fun health => links_updatePawn w p fun _ => rfl
      simp only []
      split
      · split
        · rw [hurt]
        · rw [links_die, hurt]
          exact .single (.die (pawn_link found))
      · rw [hurt]

theorem links_showScore (w : World) (p : PawnId) (value : Scalar) :
    (w.showScore p value).links = w.links := by
  unfold showScore
  split
  · exact links_updatePawn w p fun _ => rfl
  · rfl

theorem links_addScore (w : World) (c : CannonId) (scoreValue : Scalar) :
    (w.addScore c scoreValue).links = w.links := by
  unfold addScore
  split
  · refine List.foldlRecOn (motive := fun heard : World => heard.links = w.links) _ _ rfl ?_
    intro heard kept p _
    exact (links_showScore heard p scoreValue).trans kept
  · rfl

theorem links_broadcastOnKilled (w : World) (j : ProjectileId) (scoreValue : Scalar) :
    (w.broadcastOnKilled j scoreValue).links = w.links := by
  unfold broadcastOnKilled
  refine List.foldlRecOn (motive := fun heard : World => heard.links = w.links) _ _ rfl ?_
  intro heard kept c _
  exact (links_addScore heard c scoreValue).trans kept

theorem links_deactivate (w : World) (j : ProjectileId) :
    (w.updateProjectile j Projectile.deactivate).links = w.links :=
  links_updateProjectile w j fun _ => rfl

theorem onMeshOverlapBegin_moves (w : World) (j : ProjectileId) (other : Actor) :
    Moves w.links (w.onMeshOverlapBegin j other).1.links := by
  cases found : w.projectiles[j]? with
  | none =>
      simp only [onMeshOverlapBegin, found]
      exact .refl
  | some q =>
      rcases overlap_cases found other with ⟨spent, _⟩ | ⟨v, _, _, _, dealt⟩
      · rw [spent, links_deactivate]
      · rw [dealt, links_deactivate]
        split
        · rw [links_broadcastOnKilled]
          exact takeDamage_moves w v _
        · exact takeDamage_moves w v _

theorem lineTrace_moves (w : World) (c : CannonId) (hit : Option Actor) :
    Moves w.links (w.lineTrace c hit).1.links := by
  rcases lineTrace_cases w c hit with missed | ⟨y, v, _, _, _, _, dealt⟩
  · rw [missed]
  · rw [dealt]
    exact takeDamage_moves w v _

/-! Launches. -/

theorem launchSpawned_moves (w : World) (c : CannonId) (reply : Reply) :
    Moves w.links (w.launchSpawned c reply).links := by
  unfold launchSpawned
  split
  · next cls spawned source _ =>
    obtain ⟨y, found, _⟩ := Option.bind_eq_some_iff.mp source
    have there : c < w.links.cannons.length := by
      simp only [links, List.length_map]
      exact (List.getElem?_eq_some_iff.mp found).1
    have move := Links.Move.launch c there
    apply Relation.ReflTransGen.single
    simpa [links, Projectile.link, Projectile.start, Projectile.spawn] using move
  · exact .refl

/-- A pool put back changes its own array only. -/
theorem arrays_modify {w : World} {i : PoolId} {pool : ProjectilePool}
    (there : w.pools[i]? = some pool) (array : List ProjectileId) (active : Bool)
    {g : List ProjectileId → List ProjectileId} (changed : array = g pool.projectilePool) :
    (w.pools.modify i fun _ =>
        { pool with projectilePool := array, bHaveActiveProjectile := active }).map (·.projectilePool) =
      (w.pools.map (·.projectilePool)).modify i g := by
  apply map_modify
  intro entry found
  obtain rfl : pool = entry := by simpa [there] using found
  exact changed

theorem launchPooled_moves (w : World) (c : CannonId) (reply : Reply) :
    Moves w.links (w.launchPooled c reply).links := by
  unfold launchPooled
  split
  · exact .refl
  next i source =>
  split
  · exact .refl
  next pool there =>
  have array : w.links.pools[i]? = some pool.projectilePool := by simp [links, there]
  simp only []
  rcases PoolState.getProjectile_cases { pool, projectiles := w.projectiles } reply.location
    reply.rotation reply.spawned with
      ⟨j, member, search, -, same⟩ | ⟨search, cls, -, -, same⟩ | ⟨search, -, same⟩
  · have pooled : w.links.Pooled j := ⟨pool.projectilePool, List.mem_of_getElem? array, member⟩
    simp only [search, same, Option.getD_some, List.modify_modify_eq]
    show Moves w.links ⟨_, _, List.map Projectile.link _, List.map _ _⟩
    rw [arrays_modify there pool.projectilePool true (g := id) rfl, List.modify_id,
      map_modify Projectile.link w.projectiles j (g := fun q => { q with launcher := some c }) fun _ _ => rfl]
    exact .single (.recycle j c pooled)
  · have size : i < w.links.pools.length := (List.getElem?_eq_some_iff.mp array).1
    simp only [search, same, Option.getD_none, modify_concat]
    show Moves w.links ⟨_, _, List.map Projectile.link _, List.map _ _⟩
    rw [arrays_modify there _ false (g := (· ++ [w.projectiles.length])) rfl, List.map_append]
    have move := Links.Move.extend i c size
    simp only [links, List.length_map] at move
    exact .single move
  · simp only [search, same, Option.getD_none, List.modify_eq_self (le_refl _)]
    show Moves w.links ⟨_, _, List.map Projectile.link _, List.map _ _⟩
    rw [arrays_modify there pool.projectilePool false (g := id) rfl, List.modify_id]
    exact .refl

theorem perform_moves (w : World) (c : CannonId) (outcome : Outcome) (reply : Reply) :
    Moves w.links (w.perform c outcome reply).1.links := by
  cases outcome with
  | spawned | burstShot => exact launchSpawned_moves w c reply
  | pooled => exact launchPooled_moves w c reply
  | traced => exact lineTrace_moves w c reply.traceHit
  | refused | burstCompleted | reloaded | resupplied => exact .refl

/-- A live cannon acts: its links stay, only what is pending changes. -/
theorem act_moves {w : World} {c : CannonId} {y : Cannon} {event : Cannon.Event} {next : Cannon × Outcome}
    (here : w.cannons[c]? = some y) (acted : y.step event = some next)
    (alive : y.bActorIsBeingDestroyed = false) (reply : Reply) :
    Moves w.links ((w.updateCannon c fun _ => next.1).perform c next.2 reply).1.links := by
  refine .trans ?_ (perform_moves _ c next.2 reply)
  rw [links_changeCannon w c (g := fun y => { y with pending := next.1.link.pending })]
  · exact .single (.tick _ (cannon_link here) alive)
  · intro y₀ here₀
    obtain rfl : y = y₀ := by simpa [here] using here₀
    exact (Cannon.step_transition acted).link

/-! Arming. -/

theorem initializeLoop_links (answers : Nat → Bool) (bound : Nat) (s : PoolState) :
    ∃ n, (PoolState.initializeLoop answers bound s).projectiles.map Projectile.link =
        s.projectiles.map Projectile.link ++ List.replicate n ⟨none, [], none⟩ ∧
      (PoolState.initializeLoop answers bound s).pool.projectilePool =
        s.pool.projectilePool ++ List.range' s.projectiles.length n := by
  cases source : s.pool.projectileClass with
  | none =>
      rw [PoolState.initializeLoop_none source]
      exact ⟨0, by simp, by simp⟩
  | some cls =>
      rw [PoolState.initializeLoop_some source]
      refine ⟨_, ?_, rfl⟩
      rw [List.map_append, List.map_replicate]
      rfl

theorem createProjectilePool_frame (w : World) (pc : Option PoolClass) (reply : CannonReply) :
    (w.createProjectilePool pc reply).1.pawns = w.pawns ∧
      (w.createProjectilePool pc reply).1.cannons = w.cannons := by
  unfold createProjectilePool
  split <;> exact ⟨rfl, rfl⟩

theorem createProjectilePool_links (w : World) (pc : Option PoolClass) (reply : CannonReply) :
    (w.createProjectilePool pc reply).1.links = w.links ∨
      ∃ n, (w.createProjectilePool pc reply).1.links = w.links.addPool n := by
  unfold createProjectilePool
  split
  · next pc spawned =>
    obtain ⟨n, made, array⟩ := initializeLoop_links reply.elementSpawned pc.poolSize.toNat
      { pool := { pc with }, projectiles := w.projectiles }
    refine .inr ⟨n, ?_⟩
    apply Links.ext
    · rfl
    · rfl
    · exact made
    · simp only [links, PoolState.initializePool, List.map_append, List.map_cons, List.map_nil, array,
        Links.addPool, List.length_map, List.nil_append]
  · exact .inl rfl

theorem spawnCannon_cases {w w' : World} {cls : CannonClass} {p : PawnId} {reply : CannonReply}
    {c : CannonId} (made : w.spawnCannon cls p reply = (w', some c)) :
    c = w.cannons.length ∧ ∃ y : Cannon, y.link = ⟨some (.pawn p), some p, false, [], false⟩ ∧
      w' = { (w.createProjectilePool cls.projectilePoolClass reply).1 with
        cannons := (w.createProjectilePool cls.projectilePoolClass reply).1.cannons ++ [y] } := by
  unfold spawnCannon at made
  split at made
  · obtain ⟨rfl, same⟩ := Prod.mk.inj made
    obtain rfl := Option.some.inj same
    exact ⟨rfl, _, rfl, rfl⟩
  · cases (Prod.mk.inj made).2

/-- Both halves of `SetupCannon`: what the slot holds is destroyed, a new cannon is
made, its number goes into the slot and its own links are completed. -/
theorem arm_moves {w w' : World} {p : PawnId} {x : MachinePawn} {s : Slot} {cls : CannonClass}
    {reply : CannonReply} {c : CannonId} {f : MachinePawn → MachinePawn} {g : Cannon → Cannon}
    (found : w.pawns[p]? = some x) (alive : x.bActorIsBeingDestroyed = false)
    (made : (w.destroyOld (x.link.slot s)).spawnCannon cls p reply = (w', some c))
    (put : ∀ x, (f x).link = x.link.put s c)
    (complete : ∀ y, y.link = ⟨some (.pawn p), some p, false, [], false⟩ → (g y).link = .fresh p s) :
    Moves w.links ((w'.updatePawn p f).updateCannon c g).links := by
  obtain ⟨here, y, link, rfl⟩ := spawnCannon_cases made
  generalize cleared : w.destroyOld (x.link.slot s) = w₁ at here ⊢
  have old : w.links.destroyOld (x.link.slot s) = w₁.links := by rw [← cleared, links_destroyOld]
  have pawns : w₁.pawns = w.pawns := by rw [← cleared, destroyOld_pawns]
  have size : c = w.links.cannons.length := by
    rw [← Links.destroyOld_length w.links (x.link.slot s), old, here]
    simp [links]
  obtain ⟨samePawns, sameCannons⟩ := createProjectilePool_frame w₁ cls.projectilePoolClass reply
  have stock := createProjectilePool_links w₁ cls.projectilePoolClass reply
  generalize (w₁.createProjectilePool cls.projectilePoolClass reply).1 = w₂ at samePawns sameCannons stock
  have slot : w.links.pawns[p]?.bind (·.slot s) = x.link.slot s := by
    rw [slot_links, found]
    rfl
  have armed : w.links.arm p s =
      { w₁.links with
        pawns := w.links.pawns.modify p (·.put s c)
        cannons := w₁.links.cannons ++ [.fresh p s] } := by
    rw [Links.arm, slot, old, size]
  have final : (({ w₂ with cannons := w₂.cannons ++ [y] }.updatePawn p f).updateCannon c g).links =
      { w₂.links with
        pawns := w.links.pawns.modify p (·.put s c)
        cannons := w₁.links.cannons ++ [.fresh p s] } := by
    apply Links.ext
    · simp only [links, updateCannon, updatePawn, samePawns, pawns]
      rw [map_modify MachinePawn.link w.pawns p (g := (·.put s c)) fun x _ => put x]
    · simp only [links, updateCannon, updatePawn, sameCannons, here]
      rw [modify_concat, List.map_append, List.map_singleton, complete y link]
    · rfl
    · rfl
  have move : Links.Move w.links (w.links.arm p s) :=
    .arm s (pawn_link found) alive
  rw [final]
  rcases stock with same | ⟨n, more⟩
  · rw [same, ← armed]
    exact .single move
  · refine (Relation.ReflTransGen.single move).tail ?_
    rw [more]
    have added := Links.Move.addPool (k := w.links.arm p s) n
    rw [armed] at added ⊢
    exact added

theorem setupMain_moves {w w' : World} {p : PawnId} {x : MachinePawn} {cls : CannonClass}
    {reply : CannonReply} (found : w.pawns[p]? = some x) (alive : x.bActorIsBeingDestroyed = false)
    (done : w.setupMain p cls reply = some w') : Moves w.links w'.links := by
  unfold setupMain at done
  simp only [found, Option.bind_some] at done
  split at done
  · next w₁ c made =>
    obtain rfl := Option.some.inj done
    refine arm_moves (s := .main) found alive made (fun x => rfl) ?_
    intro y link
    simp only [Cannon.link, CannonLink.mk.injEq] at link ⊢
    simp [CannonLink.fresh, Slot.bindings, link]
  · cases done

theorem setupAlternate_moves {w w' : World} {p : PawnId} {x : MachinePawn} {reply : CannonReply}
    (found : w.pawns[p]? = some x) (alive : x.bActorIsBeingDestroyed = false)
    (done : w.setupAlternate p reply = some w') : Moves w.links w'.links := by
  unfold setupAlternate at done
  simp only [found, Option.bind_some] at done
  split at done
  · obtain rfl := Option.some.inj done
    exact .refl
  split at done
  · next w₁ c made =>
    obtain rfl := Option.some.inj done
    refine arm_moves (s := .alternate) found alive made (fun x => rfl) ?_
    intro y link
    exact link
  · cases done

theorem spawnCannon_pawns {w w' : World} {cls : CannonClass} {p : PawnId} {reply : CannonReply}
    {c : CannonId} (made : w.spawnCannon cls p reply = (w', some c)) : w'.pawns = w.pawns := by
  obtain ⟨_, y, _, rfl⟩ := spawnCannon_cases made
  exact (createProjectilePool_frame w cls.projectilePoolClass reply).1

theorem setupMain_pawns {w w' : World} {p : PawnId} {cls : CannonClass} {reply : CannonReply}
    (done : w.setupMain p cls reply = some w') :
    ∃ c, w'.pawns = w.pawns.modify p fun x => { x with cannon := some c } := by
  unfold setupMain at done
  simp only [] at done
  split at done
  · next w₁ c made =>
    obtain rfl := Option.some.inj done
    refine ⟨c, ?_⟩
    simp only [updateCannon, updatePawn, spawnCannon_pawns made, destroyOld_pawns]
  · cases done

theorem setupAlternate_pawns {w w' : World} {p : PawnId} {reply : CannonReply}
    (done : w.setupAlternate p reply = some w') :
    w'.pawns = w.pawns ∨ ∃ c, w'.pawns = w.pawns.modify p fun x => { x with alternateCannon := some c } := by
  unfold setupAlternate at done
  split at done
  · obtain rfl := Option.some.inj done
    exact .inl rfl
  simp only [] at done
  split at done
  · next w₁ c made =>
    obtain rfl := Option.some.inj done
    refine .inr ⟨c, ?_⟩
    simp only [updateCannon, updatePawn, spawnCannon_pawns made, destroyOld_pawns]
  · cases done

theorem setupCannon_moves {w w' : World} {p : PawnId} {x : MachinePawn} {cls : Option CannonClass}
    {main alternate : CannonReply} (found : w.pawns[p]? = some x)
    (alive : x.bActorIsBeingDestroyed = false)
    (done : w.setupCannon p cls main alternate = some w') : Moves w.links w'.links := by
  unfold setupCannon at done
  split at done
  · obtain rfl := Option.some.inj done
    exact .refl
  · next cls =>
    obtain ⟨w₁, first, second⟩ := Option.bind_eq_some_iff.mp done
    obtain ⟨c, pawns⟩ := setupMain_pawns first
    refine (setupMain_moves found alive first).trans ?_
    exact setupAlternate_moves (x := { x with cannon := some c }) (by simp [pawns, found]) alive second

theorem beginPlay_moves {w w' : World} {p : PawnId} {x : MachinePawn} {main alternate : CannonReply}
    (found : w.pawns[p]? = some x) (alive : x.bActorIsBeingDestroyed = false)
    (done : w.beginPlay p main alternate = some w') : Moves w.links w'.links := by
  have begun := setupCannon_moves (x := x.beginPlay) (by simp [updatePawn, found]) alive done
  rw [links_updatePawn w p (f := MachinePawn.beginPlay) fun _ => rfl] at begun
  exact begun

theorem step_moves {w : World} {event : Event} {result : World × Report}
    (wired : w.links.Wired) (taken : w.step event = some result) : Moves w.links result.1.links := by
  cases step_transition taken with
  | beginPlay found alive _ done => exact beginPlay_moves found alive done
  | setupCannon found alive done => exact setupCannon_moves found alive done
  | unarmed => exact .refl
  | fire found alive holds here acted =>
      exact act_moves here acted (held_alive (s := .main) wired found alive holds here) _
  | alternateFire found alive holds here acted =>
      exact act_moves here acted (held_alive (s := .alternate) wired found alive holds here) _
  | reloadTimer here acted => exact act_moves here acted (pending_alive wired here (reload_pending acted)) _
  | burstFireTimer here acted => exact act_moves here acted (pending_alive wired here (burst_pending acted)) _
  | @increaseAmmoValue c _ y here =>
      rw [links_updateCannon w c]
      intro y₀ here₀
      obtain rfl : y = y₀ := by simpa [here] using here₀
      rfl
  | @move j forward => rw [links_updateProjectile w j (f := Projectile.move forward) fun _ => rfl]
  | @deactivateTimer j => rw [links_updateProjectile w j (f := Projectile.deactivate) fun _ => rfl]
  | meshOverlapBegin => exact onMeshOverlapBegin_moves w _ _
  | takeDamage => exact takeDamage_moves w _ _

theorem Initial.wired {w : World} (initial : w.Initial) : w.links.Wired := by
  have empty : w.links = ⟨w.pawns.map MachinePawn.link, [], [], []⟩ := by
    simp [links, initial.cannons, initial.projectiles, initial.pools]
  rw [empty]
  apply Links.Wired.initial
  intro link member s
  obtain ⟨x, inside, rfl⟩ := List.mem_map.mp member
  obtain ⟨main, alternate, _⟩ := initial.pawns x inside
  cases s with
  | main => exact main
  | alternate => exact alternate

end World

/-- The links of every state of a run are in order. -/
theorem World.run_wired {w w' : World} {trace : List (Step World World.Event Report)}
    (initial : w.Initial) (run : Run World.step w trace w') :
    w'.links.Wired ∧ ∀ t ∈ trace, t.before.links.Wired ∧ t.after.links.Wired :=
  run.invariant (fun w => w.links.Wired) initial.wired fun _ _ taken wired =>
    wired.moves (World.step_moves wired taken)

end TankoGeddon
