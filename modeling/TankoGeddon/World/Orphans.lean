import TankoGeddon.World.Credit

/-! Cannons that outlive their pawn.

`SetupCannon` replaces what both slots hold; `Die` destroys the main cannon only. A
pawn that dies with an alternate cannon leaves it alive, with its timers.
-/

set_option autoImplicit false

namespace TankoGeddon

open Foundation (Run Step perform_run map_modify_hidden)

def Links.slots (k : Links) : List (Option CannonId × Option CannonId) :=
  k.pawns.map fun x => (x.cannon, x.alternateCannon)

namespace World

/-! Only arming changes the slots. -/

theorem takeDamage_slots (w : World) (p : PawnId) (damageData : FDamageData) :
    (w.takeDamage p damageData).links.slots = w.links.slots := by
  simp only [links, Links.slots, takeDamage_pawns, List.map_map]
  apply map_modify_hidden
  intro x _
  have main := x.struck_slot damageData .main
  have alternate := x.struck_slot damageData .alternate
  exact Prod.ext main alternate

theorem overlap_slots {w : World} {j : ProjectileId} {q : Projectile} (found : w.projectiles[j]? = some q)
    (other : Actor) : (w.onMeshOverlapBegin j other).1.links.slots = w.links.slots := by
  rcases overlap_cases found other with ⟨spent, _⟩ | ⟨v, _, _, _, dealt⟩
  · rw [spent, links_deactivate]
  · rw [dealt, links_deactivate]
    split
    · rw [links_broadcastOnKilled]
      exact takeDamage_slots w v _
    · exact takeDamage_slots w v _

theorem perform_slots (w : World) (c : CannonId) (outcome : Outcome) (reply : Reply) :
    (w.perform c outcome reply).1.links.slots = w.links.slots := by
  by_cases traced : outcome = .traced
  · subst traced
    rcases lineTrace_cases w c reply.traceHit with missed | ⟨y, v, _, _, _, _, dealt⟩
    · rw [perform, missed]
    · rw [perform, dealt]
      exact takeDamage_slots w v _
  · have pawns := (perform_frame w c reply traced).1
    simp only [links, Links.slots, pawns]

/-- Arming touches one pawn, and not its life. -/
theorem setupCannon_pawns {w w' : World} {p : PawnId} {cls : Option CannonClass}
    {main alternate : CannonReply} (done : w.setupCannon p cls main alternate = some w') :
    ∃ f : MachinePawn → MachinePawn, w'.pawns = w.pawns.modify p f ∧
      ∀ x, (f x).bActorIsBeingDestroyed = x.bActorIsBeingDestroyed := by
  unfold setupCannon at done
  split at done
  · obtain rfl := Option.some.inj done
    exact ⟨id, (List.modify_id _ _).symm, fun _ => rfl⟩
  next cls =>
  obtain ⟨w₁, first, second⟩ := Option.bind_eq_some_iff.mp done
  obtain ⟨c, pawns⟩ := setupMain_pawns first
  rcases setupAlternate_pawns second with same | ⟨c', pawns'⟩
  · exact ⟨_, same.trans pawns, fun _ => rfl⟩
  · rw [pawns, List.modify_modify_eq] at pawns'
    exact ⟨_, pawns', fun _ => rfl⟩

/-- Slots stay, or one pawn that is alive before and after is rearmed. -/
theorem step_slots {w : World} {event : Event} {result : World × Report}
    (taken : w.step event = some result) :
    result.1.links.slots = w.links.slots ∨
      ∃ p f, w.pawnAlive p = true ∧ result.1.pawns = w.pawns.modify p f ∧
        ∀ x, (f x).bActorIsBeingDestroyed = x.bActorIsBeingDestroyed := by
  cases step_transition taken with
  | beginPlay found alive _ done =>
      obtain ⟨f, pawns, kept⟩ := setupCannon_pawns done
      rw [updatePawn, List.modify_modify_eq] at pawns
      exact .inr ⟨_, f ∘ MachinePawn.beginPlay, pawnAlive_iff.mpr ⟨_, found, alive⟩, pawns, fun x => kept _⟩
  | setupCannon found alive done =>
      obtain ⟨f, pawns, kept⟩ := setupCannon_pawns done
      exact .inr ⟨_, f, pawnAlive_iff.mpr ⟨_, found, alive⟩, pawns, kept⟩
  | fire | alternateFire | reloadTimer | burstFireTimer => exact .inl (perform_slots _ _ _ _)
  | unarmed | increaseAmmoValue | move | deactivateTimer => exact .inl rfl
  | meshOverlapBegin found => exact .inl (overlap_slots found _)
  | @takeDamage p => exact .inl (takeDamage_slots w p _)

/-! The launching cannon. -/

theorem lineTrace_launch (w : World) (c : CannonId) (hit : Option Actor) :
    (w.lineTrace c hit).2.launch = none := by
  rcases lineTrace_cases w c hit with missed | ⟨y, v, _, _, _, _, dealt⟩
  · rw [missed]
  · rw [dealt]

theorem perform_launch {w : World} {c c' : CannonId} {outcome : Outcome} {reply : Reply}
    (shows : (w.perform c outcome reply).2.launch = some c') : c' = c ∧ outcome.discharges = true := by
  cases outcome with
  | spawned | burstShot | pooled => exact ⟨(Option.some.inj shows).symm, rfl⟩
  | traced =>
      simp only [perform, lineTrace_launch] at shows
      cases shows
  | refused | burstCompleted | reloaded | resupplied => cases shows

theorem overlap_launch {w : World} {j : ProjectileId} {q : Projectile} (found : w.projectiles[j]? = some q)
    (other : Actor) : (w.onMeshOverlapBegin j other).2.launch = none := by
  rcases overlap_cases found other with ⟨spent, _⟩ | ⟨v, _, _, _, dealt⟩
  · rw [spent]
  · rw [dealt]

/-- Only a cannon that is alive launches. -/
theorem launch_alive {w : World} {event : Event} {result : World × Report} {c : CannonId}
    (wired : w.links.Wired) (taken : w.step event = some result)
    (shows : result.2.launch = some c) : ∃ y, w.cannons[c]? = some y ∧ y.bActorIsBeingDestroyed = false := by
  cases step_transition taken with
  | beginPlay | setupCannon | unarmed | increaseAmmoValue | move | deactivateTimer | takeDamage => cases shows
  | meshOverlapBegin found =>
      rw [overlap_launch found] at shows
      cases shows
  | fire found alive holds here =>
      obtain ⟨rfl, _⟩ := perform_launch shows
      exact ⟨_, here, held_alive (s := .main) wired found alive holds here⟩
  | alternateFire found alive holds here =>
      obtain ⟨rfl, _⟩ := perform_launch shows
      exact ⟨_, here, held_alive (s := .alternate) wired found alive holds here⟩
  | reloadTimer here acted =>
      obtain ⟨rfl, _⟩ := perform_launch shows
      exact ⟨_, here, pending_alive wired here (reload_pending acted)⟩
  | burstFireTimer here acted =>
      obtain ⟨rfl, _⟩ := perform_launch shows
      exact ⟨_, here, pending_alive wired here (burst_pending acted)⟩

end World

/-- No destroyed pawn holds anything in the slot. -/
def Links.Cleared (k : Links) (s : Slot) : Prop :=
  ∀ (p : PawnId) (x : PawnLink), k.pawns[p]? = some x → x.destroyed = true → x.slot s = none

namespace World

/-- Every live cannon is in a slot of a live pawn, live pawns refer to live cannons,
and a cannon spawned for a pawn that has died has nothing pending. -/
structure NoOrphan (w : World) : Prop where
  held : ∀ (c : CannonId) (y : Cannon), w.cannons[c]? = some y → y.bActorIsBeingDestroyed = false →
    ∃ (p : PawnId) (x : MachinePawn), w.pawns[p]? = some x ∧ x.bActorIsBeingDestroyed = false ∧
      (x.cannon = some c ∨ x.alternateCannon = some c)
  refers : ∀ (p : PawnId) (x : MachinePawn) (c : CannonId), w.pawns[p]? = some x →
    x.bActorIsBeingDestroyed = false → (x.cannon = some c ∨ x.alternateCannon = some c) →
    w.cannonAlive c = true
  silent : ∀ (c : CannonId) (y : Cannon) (p : PawnId) (x : MachinePawn), w.cannons[c]? = some y →
    y.instigator = some p → w.pawns[p]? = some x → x.bActorIsBeingDestroyed = true →
    y.reloadTimer = none ∧ y.burstFireTimer = none

/-- No pawn at all, destroyed or not, refers to a destroyed cannon. -/
def NoDangling (w : World) : Prop :=
  ∀ (p : PawnId) (x : MachinePawn) (c : CannonId), w.pawns[p]? = some x →
    (x.cannon = some c ∨ x.alternateCannon = some c) → w.cannonAlive c = true

theorem cannonAlive_iff {w : World} {c : CannonId} :
    w.cannonAlive c = true ↔ ∃ y, w.cannons[c]? = some y ∧ y.bActorIsBeingDestroyed = false := by
  simp [cannonAlive, Option.any_eq_true]

theorem slot_iff {x : MachinePawn} {c : CannonId} :
    (x.cannon = some c ∨ x.alternateCannon = some c) ↔ ∃ s, x.link.slot s = some c := by
  constructor
  · rintro (main | alternate)
    · exact ⟨.main, main⟩
    · exact ⟨.alternate, alternate⟩
  · rintro ⟨s, holds⟩
    cases s with
    | main => exact .inl holds
    | alternate => exact .inr holds

/-- Without orphans only live pawns hold live cannons. -/
theorem NoOrphan.holder_alive {w : World} (wired : w.links.Wired) (kept : w.NoOrphan) {p : PawnId}
    {x : MachinePawn} {s : Slot} {c : CannonId} {y : Cannon} (found : w.pawns[p]? = some x)
    (holds : x.link.slot s = some c) (here : w.cannons[c]? = some y)
    (living : y.bActorIsBeingDestroyed = false) : x.bActorIsBeingDestroyed = false := by
  obtain ⟨p', x', found', alive, slot⟩ := kept.held c y here living
  obtain ⟨s', holds'⟩ := slot_iff.mp slot
  obtain ⟨rfl, _⟩ := wired.slot_unique (pawn_link found) holds (pawn_link found') holds'
  obtain rfl : x = x' := by simpa [found] using found'
  exact alive

theorem NoOrphan.cleared {w : World} (wired : w.links.Wired) (kept : w.NoOrphan) :
    w.links.Cleared .alternate := by
  intro p link found dead
  obtain ⟨x, here, rfl⟩ := lookup_pawn found
  cases holds : x.link.slot .alternate with
  | none => rfl
  | some c =>
      obtain ⟨_, cannon, _, _, state⟩ := wired.slot p x.link .alternate c found holds
      obtain ⟨y, there, rfl⟩ := lookup_cannon cannon
      have alive := kept.holder_alive wired here holds there (state fun h => nomatch h)
      cases dead.symm.trans alive

/-- Where destroyed pawns hold no alternate cannon, a live cannon is in a slot of a
live pawn, the one it was spawned for. -/
theorem home_of_cleared {w : World} (wired : w.links.Wired) (cleared : w.links.Cleared .alternate)
    {c : CannonId} {y : Cannon} (here : w.cannons[c]? = some y) (living : y.bActorIsBeingDestroyed = false) :
    ∃ (p : PawnId) (x : MachinePawn) (s : Slot), y.instigator = some p ∧ w.pawns[p]? = some x ∧
      x.bActorIsBeingDestroyed = false ∧ x.link.slot s = some c := by
  obtain ⟨p, link, s, instigator, found, _, holds, state⟩ := wired.live c y.link (cannon_link here) living
  obtain ⟨x, there, rfl⟩ := lookup_pawn found
  refine ⟨p, x, s, instigator, there, ?_, holds⟩
  cases s with
  | main => exact state rfl
  | alternate =>
      by_contra dead
      have empty := cleared p x.link found (by simpa using dead)
      cases empty.symm.trans holds

theorem noOrphan_of_cleared {w : World} (wired : w.links.Wired) (cleared : w.links.Cleared .alternate) :
    w.NoOrphan := by
  constructor
  case held =>
    intro c y here living
    obtain ⟨p, x, s, _, found, alive, holds⟩ := home_of_cleared wired cleared here living
    exact ⟨p, x, found, alive, slot_iff.mpr ⟨s, holds⟩⟩
  case refers =>
    intro p x c found alive slot
    obtain ⟨s, holds⟩ := slot_iff.mp slot
    obtain ⟨_, cannon, _, _, state⟩ := wired.slot p x.link s c (pawn_link found) holds
    obtain ⟨y, here, rfl⟩ := lookup_cannon cannon
    exact cannonAlive_iff.mpr ⟨y, here, state fun _ => alive⟩
  case silent =>
    intro c y p x here instigator found dead
    have destroyed : y.link.destroyed = true := by
      by_contra living
      obtain ⟨p', x', _, instigator', found', alive, _⟩ :=
        home_of_cleared wired cleared here (by simpa using living)
      obtain rfl : p = p' := Option.some.inj (instigator.symm.trans instigator')
      obtain rfl : x = x' := by simpa [found] using found'
      cases dead.symm.trans alive
    have clear := (wired.dead c y.link (cannon_link here) destroyed).2
    simpa [Cannon.link] using clear

theorem noDangling_iff {w : World} (wired : w.links.Wired) (kept : w.NoOrphan) :
    w.NoDangling ↔ w.links.Cleared .main := by
  constructor
  · intro sound p link found dead
    obtain ⟨x, here, rfl⟩ := lookup_pawn found
    cases holds : x.link.slot .main with
    | none => rfl
    | some c =>
        obtain ⟨y, there, living⟩ := cannonAlive_iff.mp (sound p x c here (.inl holds))
        have alive := kept.holder_alive wired here holds there living
        cases dead.symm.trans alive
  · intro cleared p x c found slot
    by_cases dead : x.bActorIsBeingDestroyed = true
    · have pawn := pawn_link found
      have main : x.cannon = none := cleared p x.link pawn dead
      have alternate : x.alternateCannon = none := kept.cleared wired p x.link pawn dead
      simp [main, alternate] at slot
    · exact kept.refers p x c found (by simpa using dead) slot

/-- A pawn dies in the step while it holds something in the slot. -/
def Abandons (t : Step World Event Report) (s : Slot) : Prop :=
  ∃ p x, t.before.pawns[p]? = some x ∧ x.bActorIsBeingDestroyed = false ∧ (x.link.slot s).isSome = true ∧
    t.after.pawnAlive p = false

theorem slot_of_slots {w w' : World} (same : w'.links.slots = w.links.slots) {p : PawnId} {x' : MachinePawn}
    (found : w'.pawns[p]? = some x') :
    ∃ x, w.pawns[p]? = some x ∧ ∀ s, x.link.slot s = x'.link.slot s := by
  have lookup : w.links.slots[p]? = some (x'.cannon, x'.alternateCannon) := by
    rw [← same, Links.slots, List.getElem?_map, pawn_link found]
    rfl
  obtain ⟨link, here, slots⟩ : ∃ link, w.links.pawns[p]? = some link ∧
      (link.cannon, link.alternateCannon) = (x'.cannon, x'.alternateCannon) := by
    simpa only [Links.slots, List.getElem?_map, Option.map_eq_some_iff] using lookup
  obtain ⟨x, before, rfl⟩ := lookup_pawn here
  obtain ⟨main, alternate⟩ := Prod.mk.inj slots
  refine ⟨x, before, fun s => ?_⟩
  cases s with
  | main => exact main
  | alternate => exact alternate

/-- One step leaves the slot of every destroyed pawn empty exactly when it destroys
no pawn that holds something there. -/
theorem cleared_step {t : Step World Event Report} {s : Slot}
    (taken : t.before.step t.event = some (t.after, t.output)) (before : t.before.links.Cleared s) :
    t.after.links.Cleared s ↔ ¬ Abandons t s := by
  rcases step_slots taken with same | ⟨p₀, f, able, pawns, kept⟩
  · constructor
    · rintro after ⟨p, x, found, alive, holds, dead⟩
      obtain ⟨x', found', slots⟩ := slot_of_slots same.symm found
      have gone : x'.bActorIsBeingDestroyed = true := by simpa [pawnAlive, found'] using dead
      have empty := after p x'.link (pawn_link found') gone
      rw [slots s] at empty
      simp [empty] at holds
    · intro kept p link found dead
      obtain ⟨x', found', rfl⟩ := lookup_pawn found
      obtain ⟨x, here, slots⟩ := slot_of_slots same found'
      by_contra holds
      cases alive : x.bActorIsBeingDestroyed with
      | true => exact holds (slots s ▸ before p x.link (pawn_link here) alive)
      | false =>
          refine kept ⟨p, x, here, alive, ?_, ?_⟩
          · rw [slots s]
            exact Option.isSome_iff_ne_none.mpr holds
          · have gone : x'.bActorIsBeingDestroyed = true := dead
            simp [pawnAlive, found', gone]
  · have lives : ∀ p, t.after.pawnAlive p = t.before.pawnAlive p := by
      intro p
      rw [pawnAlive, pawns, List.getElem?_modify, pawnAlive]
      cases t.before.pawns[p]? with
      | none => rfl
      | some x => by_cases here : p₀ = p <;> simp [here, kept]
    constructor
    · rintro after ⟨p, x, found, alive, _, dead⟩
      rw [lives, pawnAlive_iff.mpr ⟨x, found, alive⟩] at dead
      cases dead
    · intro _ p link found dead
      obtain ⟨x', found', rfl⟩ := lookup_pawn found
      have other : p₀ ≠ p := by
        rintro rfl
        rw [← lives] at able
        simp only [pawnAlive, found', Option.any_some] at able
        have gone : x'.bActorIsBeingDestroyed = true := dead
        simp [gone] at able
      rw [pawns, List.getElem?_modify_ne _ _ other] at found'
      exact before p x'.link (pawn_link found') dead

/-- What having no orphans asks of one step: the state it reaches is in order
and the cannon that launched in it belongs to a pawn that has not died. -/
structure Kept (t : Step World Event Report) : Prop where
  after : t.after.NoOrphan
  launch : ∀ c y p x, t.output.launch = some c → t.before.cannons[c]? = some y → y.instigator = some p →
    t.before.pawns[p]? = some x → x.bActorIsBeingDestroyed = false

/-- No destroyed pawn leaves an alternate cannon behind, in a level that is wired. -/
structure Settled (w : World) : Prop where
  wired : w.links.Wired
  cleared : w.links.Cleared .alternate

theorem Settled.kept_iff {t : Step World Event Report} (settled : t.before.Settled)
    (taken : t.before.step t.event = some (t.after, t.output)) : Kept t ↔ ¬ Abandons t .alternate := by
  have wired : t.after.links.Wired := settled.wired.moves (step_moves settled.wired taken)
  rw [← cleared_step taken settled.cleared]
  constructor
  · intro kept
    exact kept.after.cleared wired
  · intro cleared
    refine ⟨noOrphan_of_cleared wired cleared, ?_⟩
    intro c y p x shows here instigator found
    obtain ⟨y', here', living⟩ := launch_alive settled.wired taken shows
    obtain rfl : y = y' := by simpa [here] using here'
    obtain ⟨p', x', _, instigator', found', alive, _⟩ := home_of_cleared settled.wired settled.cleared here living
    obtain rfl : p = p' := Option.some.inj (instigator.symm.trans instigator')
    obtain rfl : x = x' := by simpa [found] using found'
    exact alive

theorem Initial.settled {w : World} (initial : w.Initial) : w.Settled where
  wired := initial.wired
  cleared := by
    intro p link found dead
    obtain ⟨x, here, rfl⟩ := lookup_pawn found
    have alive := (initial.pawns x (List.mem_of_getElem? here)).2.2.2.2
    cases alive.symm.trans dead

/-- A run keeps every cannon with a live pawn exactly when no pawn dies with an
alternate cannon; for the slots of destroyed pawns to name no destroyed cannon
either, no pawn may die with a cannon at all. -/
theorem noOrphan_iff {w w' : World} {trace : List (Step World Event Report)}
    (initial : w.Initial) (run : Run World.step w trace w') :
    ((∀ t ∈ trace, Kept t) ↔ ∀ t ∈ trace, ¬ Abandons t .alternate) ∧
    ((∀ t ∈ trace, Kept t ∧ t.after.NoDangling) ↔
      ∀ t ∈ trace, ¬ Abandons t .alternate ∧ ¬ Abandons t .main) := by
  have settles : ∀ t : Step World Event Report, t.before.step t.event = some (t.after, t.output) →
      t.before.Settled → ¬ Abandons t .alternate → t.after.Settled := by
    intro t taken settled spared
    exact ⟨settled.wired.moves (step_moves settled.wired taken),
      (cleared_step taken settled.cleared).mpr spared⟩
  constructor
  · exact run.forall_iff Settled _ _ initial.settled settles fun t taken settled =>
      settled.kept_iff taken
  · refine run.forall_iff (fun w => w.Settled ∧ w.links.Cleared .main) _ _ ?_ ?_ ?_
    · refine ⟨initial.settled, ?_⟩
      intro p link found dead
      obtain ⟨x, here, rfl⟩ := lookup_pawn found
      exact (initial.pawns x (List.mem_of_getElem? here)).1
    · rintro t taken ⟨settled, main⟩ ⟨spared, unarmed⟩
      exact ⟨settles t taken settled spared, (cleared_step taken main).mpr unarmed⟩
    · rintro t taken ⟨settled, main⟩
      rw [settled.kept_iff taken, ← cleared_step taken main]
      constructor
      · rintro ⟨spared, sound⟩
        have after := settles t taken settled spared
        exact ⟨spared, (noDangling_iff after.wired (noOrphan_of_cleared after.wired after.cleared)).mp sound⟩
      · rintro ⟨spared, empty⟩
        have after := settles t taken settled spared
        exact ⟨spared, (noDangling_iff after.wired (noOrphan_of_cleared after.wired after.cleared)).mpr empty⟩

-- The victim of the duel dies with no cannon at all.
theorem noOrphan_iff_duel : (duel none).Initial ∧ ∀ t ∈ duelTrace none, Kept t := by
  refine ⟨duel_initial none, (noOrphan_iff (duel_initial none) (perform_run _ _ shootOut)).1.mpr ?_⟩
  rintro t member ⟨p, x, found, _, holds, _⟩
  have bare : ∀ t ∈ duelTrace none, ∀ x ∈ t.before.pawns, x.alternateCannon = none := by decide +kernel
  have empty := bare t member x (List.mem_of_getElem? found)
  rw [show x.link.slot .alternate = x.alternateCannon from rfl, empty] at holds
  cases holds

/-- One pawn with a burst cannon in its alternate slot. -/
def gunner : World :=
  { pawns := [
      { cannonClass := some
          { cannonType := .fireProjectile, projectileClass := some {}, projectilePoolClass := none }
        alternateCannonClass := some
          { cannonType := .fireMultiProjectile, projectileClass := some {}, projectilePoolClass := none } }] }

def lastBurst : List Event :=
  [.beginPlay 0 {} {}, .alternateFire 0 {}, .takeDamage 0 10, .burstFireTimer 1 {}]

def gunnerTrace : List (Step World Event Report) := (Foundation.perform World.step gunner lastBurst).1

theorem gunner_fires : 3 < gunnerTrace.length := by decide +kernel

-- The burst of the alternate cannon goes on after its pawn has died.
theorem burst_outlives_pawn :
    ¬ ∀ (w w' : World) (trace : List (Step World Event Report)), w.Initial →
      Run World.step w trace w' → ∀ t ∈ trace, Kept t := by
  intro claim
  have kept := claim gunner _ _ ⟨rfl, rfl, rfl, by simp [gunner]⟩ (perform_run _ _ lastBurst) _
    (List.get_mem _ ⟨3, gunner_fires⟩)
  have alive := kept.launch 1 ((gunnerTrace.get ⟨3, gunner_fires⟩).before.cannons.get ⟨1, by decide +kernel⟩)
    0 ((gunnerTrace.get ⟨3, gunner_fires⟩).before.pawns.get ⟨0, by decide +kernel⟩) (by decide +kernel)
    (by decide +kernel) (by decide +kernel) (by decide +kernel)
  exact absurd alive (by decide +kernel)

end World

end TankoGeddon
