import TankoGeddon.World.Vitals

/-! All a step can do to the vitals.

A step hurts at most the one pawn its report names, and pays at most one pawn, for
an overlap that leaves its victim destroyed.
-/

set_option autoImplicit false

namespace TankoGeddon

open Foundation (map_modify map_modify_hidden)

namespace World

/-! The exclusion at impact. -/

/-- A projectile that belongs to a cannon passes over one pawn, the cannon's own,
and only while the cannon lives. -/
theorem excludes_cannon {w : World} (wired : w.links.Wired) {c : CannonId} {y : Cannon} {v : PawnId}
    (here : w.cannons[c]? = some y) :
    w.excludes (some (.cannon c)) (.pawn v) = true ↔
      y.bActorIsBeingDestroyed = false ∧ y.instigator = some v := by
  have cannon := cannon_link here
  have read : w.excludes (some (.cannon c)) (.pawn v) = (y.owner == some (.pawn v)) := by
    simp [excludes, getOwner, here]
  rw [read, beq_iff_eq]
  cases living : y.bActorIsBeingDestroyed with
  | true =>
      have orphan : y.owner = none := (wired.dead c y.link cannon living).1
      simp [orphan]
  | false =>
      obtain ⟨p, _, _, instigator, _, owner, _⟩ := wired.live c y.link cannon living
      have named : y.owner = some (.pawn p) := owner
      have spawned : y.instigator = some p := instigator
      simp [named, spawned]

/-- Against its own pawn a trace of a live cannon does nothing. -/
theorem excludes_own {w : World} (wired : w.links.Wired) {c : CannonId} {y : Cannon} {v : PawnId}
    (here : w.cannons[c]? = some y) (living : y.bActorIsBeingDestroyed = false)
    (own : y.instigator = some v) : w.excludes y.owner (.pawn v) = true := by
  obtain ⟨p, _, _, instigator, _, owner, _⟩ := wired.live c y.link (cannon_link here) living
  have named : y.owner = some (.pawn p) := owner
  have spawned : y.instigator = some p := instigator
  obtain rfl : p = v := by simpa [own] using spawned.symm
  simp [excludes, named]

def launcherOf (w : World) (j : ProjectileId) : Option CannonId := w.projectiles[j]?.bind (·.launcher)

/-- The pawn a damaging actor belongs to: the one its cannon was spawned for. -/
def armedBy (w : World) : Option Actor → Option PawnId
  | some (.projectile j) => (w.launcherOf j).bind fun c => w.cannons[c]?.bind (·.instigator)
  | some (.cannon c) => w.cannons[c]?.bind (·.instigator)
  | _ => none

/-- Where a damage call comes from: an overlap, a trace, or no armament. -/
inductive Source (w : World) : Event → DamageCall → Prop
  | projectile {j : ProjectileId} {q : Projectile} {v : PawnId} (found : w.projectiles[j]? = some q)
      (there : v < w.pawns.length) (clear : w.excludes q.owner (.pawn v) = false) :
      Source w (.meshOverlapBegin j (.pawn v))
        ⟨v, { damageValue := q.damage, instigator := q.owner, damageMaker := some (.projectile j) }⟩
  | trace {event : Event} {reply : Reply} {c : CannonId} {y : Cannon} {v : PawnId}
      (reads : event.reply = some reply) (hit : reply.traceHit = some (.pawn v))
      (found : w.cannons[c]? = some y) (living : y.bActorIsBeingDestroyed = false)
      (clear : w.excludes y.owner (.pawn v) = false) :
      Source w event
        ⟨v, { damageValue := y.traceDamage, instigator := y.owner, damageMaker := some (.cannon c) }⟩
  | unarmed {v : PawnId} (damageValue : Scalar) (alive : w.pawnAlive v = true) :
      Source w (.takeDamage v damageValue) ⟨v, { damageValue, instigator := none, damageMaker := none }⟩

/-- The call destroys its victim or finds it destroyed, and the pawn is to be paid. -/
def Pays (w : World) (event : Event) (call : DamageCall) (p : PawnId) : Prop :=
  ∃ j x, event = .meshOverlapBegin j (.pawn call.victim) ∧ w.links.Backer j p ∧
    w.vitals[call.victim]? = some x ∧ (x.hurt call.data.damageValue).destroyed = true ∧ x.scoreValue ≠ 0

/-- All a step can do to the vitals. -/
inductive Effect (w : World) : Event → Report → List Vitals → Prop
  | quiet {event : Event} {report : Report} (silent : report.damage = none) :
      Effect w event report w.vitals
  | beginPlay {p : PawnId} {main alternate : CannonReply} {x : Vitals} (found : w.vitals[p]? = some x)
      (alive : x.destroyed = false) (fresh : x.begun = false) :
      Effect w (.beginPlay p main alternate) {} (w.vitals.modify p Vitals.beginPlay)
  | hurt {event : Event} {report : Report} {call : DamageCall} (shows : report.damage = some call)
      (source : w.Source event call) (unpaid : ∀ p, ¬ w.Pays event call p) :
      Effect w event report (w.vitals.modify call.victim (Vitals.hurt call.data.damageValue))
  | paid {event : Event} {report : Report} {call : DamageCall} {p : PawnId} {x : Vitals}
      (shows : report.damage = some call) (source : w.Source event call) (pays : w.Pays event call p)
      (found : w.vitals[call.victim]? = some x) :
      Effect w event report
        ((w.vitals.modify call.victim (Vitals.hurt call.data.damageValue)).modify p
          (Vitals.paid x.scoreValue))

/-- Nobody is paid for a hit on himself: the exclusion protects the backer. -/
theorem backer_ne {w : World} (wired : w.links.Wired) {j : ProjectileId} {q : Projectile} {v p : PawnId}
    (found : w.projectiles[j]? = some q) (clear : w.excludes q.owner (.pawn v) = false)
    (backer : w.links.Backer j p) : p ≠ v := by
  rintro rfl
  obtain ⟨c, x, projectile, pawn, holds, alive⟩ := backer
  obtain ⟨link, cannon, instigator, _, state⟩ := wired.slot p x .main c pawn holds
  obtain ⟨y, here, rfl⟩ := lookup_cannon cannon
  have same : q.link = ⟨some (.cannon c), [c], some c⟩ := by simpa [links, found] using projectile
  have owner : q.owner = some (.cannon c) := congrArg ProjectileLink.owner same
  have passes := (excludes_cannon wired here).mpr ⟨state fun _ => alive, instigator⟩
  rw [owner, passes] at clear
  cases clear

/-- A hit that leaves its victim destroyed does not change who backs the projectile. -/
theorem backer_struck {w : World} (wired : w.links.Wired) {j : ProjectileId} {q : Projectile} {v p : PawnId}
    (found : w.projectiles[j]? = some q) (clear : w.excludes q.owner (.pawn v) = false)
    (damageData : FDamageData) (dead : ∀ x, (w.takeDamage v damageData).pawns[v]? = some x →
      x.bActorIsBeingDestroyed = true) :
    (w.takeDamage v damageData).links.Backer j p ↔ w.links.Backer j p := by
  have projectiles : (w.takeDamage v damageData).links.projectiles = w.links.projectiles := by
    simp only [links, takeDamage_projectiles]
  have pawns : p ≠ v → (w.takeDamage v damageData).links.pawns[p]? = w.links.pawns[p]? := by
    intro ne
    simp only [links, List.getElem?_map, takeDamage_other ne.symm]
  constructor
  · rintro ⟨c, x, projectile, pawn, holds, alive⟩
    have ne : p ≠ v := by
      rintro rfl
      obtain ⟨x₀, here, rfl⟩ : ∃ x₀, (w.takeDamage p damageData).pawns[p]? = some x₀ ∧ x₀.link = x := by
        simpa only [links, List.getElem?_map, Option.map_eq_some_iff] using pawn
      rw [MachinePawn.link, dead x₀ here] at alive
      cases alive
    exact ⟨c, x, projectiles ▸ projectile, pawns ne ▸ pawn, holds, alive⟩
  · intro backer
    have ne := backer_ne wired found clear backer
    obtain ⟨c, x, projectile, pawn, holds, alive⟩ := backer
    exact ⟨c, x, by rw [projectiles]; exact projectile, by rw [pawns ne]; exact pawn, holds, alive⟩

theorem vitals_deactivate (w : World) (j : ProjectileId) :
    (w.updateProjectile j Projectile.deactivate).vitals = w.vitals := rfl

theorem overlap_effect {w : World} (wired : w.links.Wired) {j : ProjectileId} {q : Projectile}
    (found : w.projectiles[j]? = some q) (other : Actor) :
    Effect w (.meshOverlapBegin j other) (w.onMeshOverlapBegin j other).2
      (w.onMeshOverlapBegin j other).1.vitals := by
  rcases overlap_cases found other with ⟨spent, _⟩ | ⟨v, rfl, there, clear, dealt⟩
  · rw [spent]
    exact .quiet rfl
  have source := Source.projectile found there clear
  rw [dealt]
  simp only [vitals_deactivate]
  change Source w _ ⟨v, overlapData j q⟩ at source
  generalize overlapData j q = data at source
  obtain ⟨x, pawn⟩ : ∃ x, w.pawns[v]? = some x := ⟨_, List.getElem?_eq_getElem there⟩
  have before : w.vitals[v]? = some x.vitals := by simp [vitals, pawn]
  have after := takeDamage_struck pawn data
  have hit := takeDamage_vitals w v data
  simp only [isBeingDestroyed_struck pawn, pointsOf_pawn pawn]
  split
  · next kill =>
    obtain ⟨dead, value⟩ : (x.vitals.hurt data.damageValue).destroyed = true ∧ x.vitals.scoreValue ≠ 0 := by
      simpa using kill
    have struck := wired.moves (takeDamage_moves w v data)
    have same : ∀ p, (w.takeDamage v data).links.Backer j p ↔ w.links.Backer j p := by
      intro p
      apply backer_struck wired found clear
      intro x' here
      obtain rfl : x.struck data = x' := by simpa [after] using here
      have known := congrArg Vitals.destroyed (x.struck_vitals data)
      exact known.trans dead
    by_cases backed : ∃ p, w.links.Backer j p
    · obtain ⟨p, backer⟩ := backed
      rw [broadcast_paid struck ((same p).mpr backer), hit]
      exact .paid rfl source ⟨j, x.vitals, rfl, backer, before, dead, value⟩ before
    · rw [broadcast_unpaid struck fun p backer => backed ⟨p, (same p).mp backer⟩, hit]
      refine .hurt rfl source ?_
      rintro p ⟨j', x', event, backer, _⟩
      cases event
      exact backed ⟨p, backer⟩
  · next spared =>
    rw [hit]
    refine .hurt rfl source ?_
    rintro p ⟨j', x', event, backer, found', dead, value⟩
    obtain rfl : x.vitals = x' := by simpa [before] using found'
    exact spared (by simp [dead, value])

/-- The trace is performed after the cannon has been updated; its own links are as
before, and a live cannon is owned by a pawn. -/
theorem trace_excludes {w : World} (wired : w.links.Wired) {c : CannonId} {y y' : Cannon}
    (here : w.cannons[c]? = some y) (living : y.bActorIsBeingDestroyed = false) (other : Actor) :
    (w.updateCannon c fun _ => y').excludes y.owner other = w.excludes y.owner other := by
  obtain ⟨p, _, _, _, _, owner, _⟩ := wired.live c y.link (cannon_link here) living
  have named : y.owner = some (.pawn p) := owner
  rw [named]
  rfl

/-- What a live cannon does to the vitals: nothing, unless its trace hits. -/
theorem act_effect {w : World} (wired : w.links.Wired) {c : CannonId} {y y' : Cannon} {outcome : Outcome}
    {event : Cannon.Event} {cause : Event} {reply : Reply} (here : w.cannons[c]? = some y)
    (acted : y.step event = some (y', outcome)) (living : y.bActorIsBeingDestroyed = false)
    (brings : outcome = .traced → cause.reply = some reply) :
    Effect w cause ((w.updateCannon c fun _ => y').perform c outcome reply).2
      ((w.updateCannon c fun _ => y').perform c outcome reply).1.vitals := by
  have updated : (w.updateCannon c fun _ => y').vitals = w.vitals := rfl
  by_cases traced : outcome = .traced
  swap
  · obtain ⟨pawns, _, silent⟩ := perform_frame (w.updateCannon c fun _ => y') c reply traced
    rw [vitals, pawns]
    exact .quiet silent
  subst traced
  have reads := brings rfl
  have move := Cannon.step_transition acted
  have there : (w.updateCannon c fun _ => y').cannons[c]? = some y' := by simp [updateCannon, here]
  rcases lineTrace_cases (w.updateCannon c fun _ => y') c reply.traceHit with
    missed | ⟨y₀, v, here', hit, _, unguarded, dealt⟩
  · rw [perform, missed]
    exact .quiet rfl
  obtain rfl : y' = y₀ := Option.some.inj (there.symm.trans here')
  have owner : y'.owner = y.owner := congrArg CannonLink.owner move.link
  have damage : y'.traceDamage = y.traceDamage := congrArg CannonClass.traceDamage move.config
  rw [owner, trace_excludes wired here living] at unguarded
  rw [perform, dealt, takeDamage_vitals, updated, traceData, owner, damage]
  refine .hurt rfl (.trace reads hit here living unguarded) ?_
  rintro p ⟨j, x, overlap, _⟩
  rw [overlap] at reads
  cases reads

theorem slot_vitals (w : World) (p : PawnId) {f : MachinePawn → MachinePawn}
    (hidden : ∀ x, (f x).vitals = x.vitals) : (w.pawns.modify p f).map MachinePawn.vitals = w.vitals :=
  map_modify_hidden _ _ _ fun x _ => hidden x

theorem setupCannon_vitals {w w' : World} {p : PawnId} {cls : Option CannonClass}
    {main alternate : CannonReply} (done : w.setupCannon p cls main alternate = some w') :
    w'.vitals = w.vitals := by
  unfold setupCannon at done
  split at done
  · obtain rfl := Option.some.inj done
    rfl
  next cls =>
  obtain ⟨w₁, first, second⟩ := Option.bind_eq_some_iff.mp done
  obtain ⟨c, pawns⟩ := setupMain_pawns first
  have main : w₁.vitals = w.vitals := by
    rw [vitals, pawns]
    exact slot_vitals w p fun _ => rfl
  rw [← main]
  rcases setupAlternate_pawns second with same | ⟨c', pawns'⟩
  · rw [vitals, same]
    rfl
  · rw [vitals, pawns']
    exact slot_vitals w₁ p fun _ => rfl

theorem beginPlay_vitals {w w' : World} {p : PawnId} {main alternate : CannonReply}
    (done : w.beginPlay p main alternate = some w') : w'.vitals = w.vitals.modify p Vitals.beginPlay := by
  rw [setupCannon_vitals done, vitals, updatePawn]
  exact map_modify _ _ _ fun _ _ => rfl

theorem step_effect {w : World} {event : Event} {result : World × Report} (wired : w.links.Wired)
    (taken : w.step event = some result) : Effect w event result.2 result.1.vitals := by
  cases step_transition taken with
  | @beginPlay p main alternate x w' found alive fresh done =>
      have before : w.vitals[p]? = some x.vitals := by simp [vitals, found]
      rw [beginPlay_vitals done]
      exact .beginPlay before alive fresh
  | setupCannon _ _ done =>
      rw [setupCannon_vitals done]
      exact .quiet rfl
  | unarmed | increaseAmmoValue | move | deactivateTimer => exact .quiet rfl
  | fire found alive holds here acted =>
      exact act_effect wired here acted (held_alive (s := .main) wired found alive holds here) fun _ => rfl
  | alternateFire found alive holds here acted =>
      exact act_effect wired here acted (held_alive (s := .alternate) wired found alive holds here) fun _ => rfl
  | reloadTimer here acted untraced =>
      exact act_effect wired here acted (pending_alive wired here (reload_pending acted)) fun traced =>
        absurd traced untraced
  | burstFireTimer here acted untraced =>
      exact act_effect wired here acted (pending_alive wired here (burst_pending acted)) fun traced =>
        absurd traced untraced
  | meshOverlapBegin found => exact overlap_effect wired found _
  | @takeDamage p damageValue alive =>
      simp only [takeDamage_vitals]
      refine .hurt rfl (.unarmed damageValue alive) ?_
      rintro q ⟨j, x, overlap, _⟩
      cases overlap

def scoreOf (w : World) (p : PawnId) : Scalar := (w.pawns[p]?.map (·.score)).getD 0

theorem scoreOf_vitals (w : World) (p : PawnId) : w.scoreOf p = (w.vitals[p]?.map (·.score)).getD 0 := by
  simp [scoreOf, vitals, MachinePawn.vitals, Function.comp_def]

/-- A score changes by a payment and by nothing else. -/
theorem score_change {w w' : World} {event : Event} {report : Report} (wired : w.links.Wired)
    (taken : w.step event = some (w', report)) (p : PawnId) :
    (∃ call x, report.damage = some call ∧ w.Source event call ∧ w.Pays event call p ∧
      w.vitals[call.victim]? = some x ∧ w'.scoreOf p = w.scoreOf p + x.scoreValue) ∨
    ((∀ call, report.damage = some call → ¬ w.Pays event call p) ∧ w'.scoreOf p = w.scoreOf p) := by
  have effect := step_effect wired taken
  simp only [scoreOf_vitals] at effect ⊢
  generalize w'.vitals = after at effect ⊢
  -- an update that keeps every score keeps this one
  have kept : ∀ (i : PawnId) (f : Vitals → Vitals), (∀ x, (f x).score = x.score) →
      ((w.vitals.modify i f)[p]?.map (·.score)).getD 0 = (w.vitals[p]?.map (·.score)).getD 0 := by
    intro i f same
    rw [List.getElem?_modify, Option.map_eq_map, Option.map_map]
    congr 2
    funext x
    by_cases here : i = p <;> simp [here, same]
  cases effect with
  | quiet silent => exact .inr ⟨fun call shows => by simp [silent] at shows, rfl⟩
  | beginPlay =>
      refine .inr ⟨?_, kept _ _ fun _ => rfl⟩
      intro call shows
      cases shows
  | hurt shows source unpaid =>
      refine .inr ⟨?_, kept _ _ fun _ => rfl⟩
      intro call' shows'
      obtain rfl := Option.some.inj (shows.symm.trans shows')
      exact unpaid p
  | @paid _ _ call p' x shows source pays found =>
      have backed := pays
      obtain ⟨j, _, rfl, backer, _⟩ := backed
      by_cases same : p' = p
      · subst same
        refine .inl ⟨call, x, shows, source, pays, found, ?_⟩
        obtain ⟨c, link, _, pawn, _⟩ := backer
        obtain ⟨x₀, before, _⟩ := lookup_pawn pawn
        have there : w.vitals[p']? = some x₀.vitals := by simp [vitals, before]
        rw [List.getElem?_modify_eq, List.getElem?_modify, there]
        by_cases victim : call.victim = p' <;> simp [victim, Vitals.paid, Vitals.hurt]
      · refine .inr ⟨?_, ?_⟩
        · intro call' shows'
          obtain rfl := Option.some.inj (shows.symm.trans shows')
          rintro ⟨j', _, overlap, backer', _⟩
          cases overlap
          exact same (wired.backer_unique backer backer')
        · rw [List.getElem?_modify_ne _ _ same]
          exact kept _ _ fun _ => rfl

theorem damage_source {w w' : World} {event : Event} {report : Report} {call : DamageCall}
    (wired : w.links.Wired) (taken : w.step event = some (w', report))
    (shows : report.damage = some call) : w.Source event call := by
  have effect := step_effect wired taken
  generalize w'.vitals = after at effect
  cases effect with
  | quiet silent => cases silent.symm.trans shows
  | beginPlay => cases shows
  | hurt shows' source | paid shows' source =>
      obtain rfl := Option.some.inj (shows.symm.trans shows')
      exact source

/-- What a reported call leaves of its victim. -/
theorem victim_after {w w' : World} {event : Event} {report : Report} {call : DamageCall} {x : Vitals}
    (wired : w.links.Wired) (taken : w.step event = some (w', report))
    (shows : report.damage = some call) (found : w.vitals[call.victim]? = some x) :
    w'.vitals[call.victim]?.map (·.destroyed) = some (x.hurt call.data.damageValue).destroyed := by
  have effect := step_effect wired taken
  generalize w'.vitals = after at effect ⊢
  cases effect with
  | quiet silent => cases silent.symm.trans shows
  | beginPlay => cases shows
  | hurt shows' =>
      obtain rfl := Option.some.inj (shows.symm.trans shows')
      simp [found]
  | @paid _ _ _ p _ shows' =>
      obtain rfl := Option.some.inj (shows.symm.trans shows')
      rw [List.getElem?_modify, List.getElem?_modify_eq, found]
      by_cases same : p = call.victim <;> simp [same, Vitals.paid]

theorem pawnAlive_vitals (w : World) (v : PawnId) :
    w.pawnAlive v = w.vitals[v]?.any fun x => !x.destroyed := by
  rw [pawnAlive, vitals, List.getElem?_map]
  cases w.pawns[v]? <;> rfl

theorem modify_alive {table : List Vitals} {i v : PawnId} {f : Vitals → Vitals}
    (keeps : ∀ x, x.destroyed = true → (f x).destroyed = true)
    (dead : table[v]?.any (fun x => !x.destroyed) = false) :
    (table.modify i f)[v]?.any (fun x => !x.destroyed) = false := by
  rw [List.getElem?_modify]
  cases found : table[v]? with
  | none => rfl
  | some x =>
      have gone : x.destroyed = true := by simpa [found] using dead
      by_cases here : i = v <;> simp [here, gone, keeps]

/-- Nobody comes back. -/
theorem stays_dead {w w' : World} {event : Event} {report : Report} (wired : w.links.Wired)
    (taken : w.step event = some (w', report)) {v : PawnId} (dead : w.pawnAlive v = false) :
    w'.pawnAlive v = false := by
  have effect := step_effect wired taken
  rw [pawnAlive_vitals] at dead ⊢
  have hurts : ∀ damageValue x, Vitals.destroyed x = true → (x.hurt damageValue).destroyed = true := by
    intro damageValue x gone
    simp [Vitals.hurt, gone]
  generalize w'.vitals = after at effect ⊢
  cases effect with
  | quiet => exact dead
  | beginPlay => exact modify_alive (fun _ gone => gone) dead
  | hurt => exact modify_alive (hurts _) dead
  | paid => exact modify_alive (fun _ gone => gone) (modify_alive (hurts _) dead)

/-- Play once begun stays begun. -/
theorem stays_begun {w w' : World} {event : Event} {report : Report} (wired : w.links.Wired)
    (taken : w.step event = some (w', report)) {p : PawnId}
    (begun : w.vitals[p]?.any (·.begun) = true) : w'.vitals[p]?.any (·.begun) = true := by
  have effect := step_effect wired taken
  have kept : ∀ (table : List Vitals) (i : PawnId) (f : Vitals → Vitals),
      (∀ x, x.begun = true → (f x).begun = true) → table[p]?.any (·.begun) = true →
        (table.modify i f)[p]?.any (·.begun) = true := by
    intro table i f keeps holds
    obtain ⟨x, found, known⟩ := (Option.any_eq_true _ _).mp holds
    rw [List.getElem?_modify, found]
    by_cases here : i = p <;> simp [here, known, keeps]
  generalize w'.vitals = after at effect ⊢
  cases effect with
  | quiet => exact begun
  | beginPlay => exact kept _ _ _ (fun _ _ => rfl) begun
  | hurt => exact kept _ _ _ (fun _ known => known) begun
  | paid => exact kept _ _ _ (fun _ known => known) (kept _ _ _ (fun _ known => known) begun)

/-- `BeginPlay` is for a pawn that has not begun play, and begins it. -/
theorem beginPlay_begins {w w' : World} {p : PawnId} {main alternate : CannonReply} {report : Report}
    (taken : w.step (.beginPlay p main alternate) = some (w', report)) :
    w.vitals[p]?.any (·.begun) = false ∧ w'.vitals[p]?.any (·.begun) = true := by
  obtain ⟨x, _, found, _, fresh, done, same⟩ := beginPlay_cases taken
  obtain ⟨rfl, _⟩ := Prod.mk.inj same
  have before : w.vitals[p]? = some x.vitals := by simp [vitals, found]
  rw [beginPlay_vitals done, List.getElem?_modify_eq, before]
  exact ⟨fresh, rfl⟩

/-- `BeginPlay` of a pawn destroys none. -/
theorem beginPlay_alive {w w' : World} {p : PawnId} {main alternate : CannonReply} {report : Report}
    (taken : w.step (.beginPlay p main alternate) = some (w', report)) (v : PawnId) :
    w'.pawnAlive v = w.pawnAlive v := by
  obtain ⟨_, _, _, _, _, done, same⟩ := beginPlay_cases taken
  obtain ⟨rfl, _⟩ := Prod.mk.inj same
  rw [pawnAlive_vitals, pawnAlive_vitals, beginPlay_vitals done, List.getElem?_modify]
  cases w.vitals[v]? with
  | none => rfl
  | some x => by_cases here : p = v <;> simp [here, Vitals.beginPlay]

end World

end TankoGeddon
