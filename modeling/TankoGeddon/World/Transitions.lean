import TankoGeddon.World.Links

/-! What a step of the level does, said once.

The guards of the step and the cases of the functions it calls are read off here:
a trigger acts on the cannon in its slot, a timer event on a cannon that has the
timer pending.
-/

set_option autoImplicit false

namespace TankoGeddon.World

/-- The engine's answers an event brings for a launch or a trace. -/
def Event.reply : Event → Option Reply
  | .fire _ reply | .alternateFire _ reply | .burstFireTimer _ reply => some reply
  | _ => none

inductive Transition (w : World) : Event → World × Report → Prop
  | beginPlay {p : PawnId} {main alternate : CannonReply} {x : MachinePawn} {w' : World}
      (found : w.pawns[p]? = some x) (alive : x.bActorIsBeingDestroyed = false)
      (fresh : x.bActorHasBegunPlay = false) (done : w.beginPlay p main alternate = some w') :
      Transition w (.beginPlay p main alternate) (w', {})
  | setupCannon {p : PawnId} {cls : Option CannonClass} {main alternate : CannonReply} {x : MachinePawn}
      {w' : World} (found : w.pawns[p]? = some x) (alive : x.bActorIsBeingDestroyed = false)
      (done : w.setupCannon p cls main alternate = some w') :
      Transition w (.setupCannon p cls main alternate) (w', {})
  | unarmed {event : Event} {reply : Reply} (brings : event.reply = some reply) : Transition w event (w, {})
  | fire {p : PawnId} {reply : Reply} {x : MachinePawn} {c : CannonId} {y : Cannon} {next : Cannon × Outcome}
      (found : w.pawns[p]? = some x) (alive : x.bActorIsBeingDestroyed = false)
      (holds : x.cannon = some c) (here : w.cannons[c]? = some y) (acted : y.step .fire = some next) :
      Transition w (.fire p reply) ((w.updateCannon c fun _ => next.1).perform c next.2 reply)
  | alternateFire {p : PawnId} {reply : Reply} {x : MachinePawn} {c : CannonId} {y : Cannon}
      {next : Cannon × Outcome} (found : w.pawns[p]? = some x) (alive : x.bActorIsBeingDestroyed = false)
      (holds : x.alternateCannon = some c) (here : w.cannons[c]? = some y)
      (acted : y.step .alternateFire = some next) :
      Transition w (.alternateFire p reply) ((w.updateCannon c fun _ => next.1).perform c next.2 reply)
  | reloadTimer {c : CannonId} {y : Cannon} {next : Cannon × Outcome} (here : w.cannons[c]? = some y)
      (acted : y.step .reloadTimer = some next) (untraced : next.2 ≠ .traced) :
      Transition w (.reloadTimer c) ((w.updateCannon c fun _ => next.1).perform c next.2 {})
  | burstFireTimer {c : CannonId} {reply : Reply} {y : Cannon} {next : Cannon × Outcome}
      (here : w.cannons[c]? = some y) (acted : y.step .burstFireTimer = some next)
      (untraced : next.2 ≠ .traced) :
      Transition w (.burstFireTimer c reply) ((w.updateCannon c fun _ => next.1).perform c next.2 reply)
  | increaseAmmoValue {c : CannonId} {ammoValue : Int} {y : Cannon} (here : w.cannons[c]? = some y)
      (inside : InInt32 (y.currentAmmo + ammoValue)) :
      Transition w (.increaseAmmoValue c ammoValue)
        (w.updateCannon c fun _ => y.increaseAmmoValue ammoValue, {})
  | move {j : ProjectileId} {forward : FVector} {q : Projectile} (found : w.projectiles[j]? = some q)
      (pending : q.moveTimer.isSome = true) :
      Transition w (.move j forward) (w.updateProjectile j (Projectile.move forward), {})
  | deactivateTimer {j : ProjectileId} {q : Projectile} (found : w.projectiles[j]? = some q)
      (pending : q.deactivateTimer.isSome = true) :
      Transition w (.deactivateTimer j) (w.updateProjectile j Projectile.deactivate, {})
  | meshOverlapBegin {j : ProjectileId} {other : Actor} {q : Projectile} (found : w.projectiles[j]? = some q) :
      Transition w (.meshOverlapBegin j other) (w.onMeshOverlapBegin j other)
  | takeDamage {p : PawnId} {damageValue : Scalar} (alive : w.pawnAlive p = true) :
      Transition w (.takeDamage p damageValue)
        (w.takeDamage p { damageValue, instigator := none, damageMaker := none },
          { damage := some ⟨p, { damageValue, instigator := none, damageMaker := none }⟩ })

theorem cannonEvent_cases {w : World} {c : CannonId} {event : Cannon.Event} {reply : Reply}
    {result : World × Report} (taken : w.cannonEvent c event reply = some result) :
    ∃ y next, w.cannons[c]? = some y ∧ y.step event = some next ∧
      result = (w.updateCannon c fun _ => next.1).perform c next.2 reply := by
  unfold cannonEvent at taken
  split at taken
  · cases taken
  next y found =>
  split at taken
  · cases taken
  next next acted => exact ⟨y, next, found, acted, (Option.some.inj taken).symm⟩

theorem onSlot_cases {w : World} {p : PawnId} {x : MachinePawn} {slot : MachinePawn → Option CannonId}
    {event : Cannon.Event} {reply : Reply} {result : World × Report} (found : w.pawns[p]? = some x)
    (taken : w.onSlot p slot event reply = some result) :
    result = (w, {}) ∨ ∃ c y next, slot x = some c ∧ w.cannons[c]? = some y ∧ y.step event = some next ∧
      result = (w.updateCannon c fun _ => next.1).perform c next.2 reply := by
  unfold onSlot at taken
  split at taken
  · next c holds =>
    rw [found] at holds
    obtain ⟨y, next, here, acted, same⟩ := cannonEvent_cases taken
    exact .inr ⟨c, y, next, holds, here, acted, same⟩
  · exact .inl (Option.some.inj taken).symm

theorem onProjectile_cases {w : World} {j : ProjectileId} {offered : Projectile → Bool}
    {f : Projectile → Projectile} {result : World × Report}
    (taken : w.onProjectile j offered f = some result) :
    ∃ q, w.projectiles[j]? = some q ∧ offered q = true ∧ result = (w.updateProjectile j f, {}) := by
  unfold onProjectile at taken
  split at taken
  · next able =>
    obtain ⟨q, found, holds⟩ := (Option.any_eq_true _ _).mp able
    exact ⟨q, found, holds, (Option.some.inj taken).symm⟩
  · cases taken

theorem dealDamage_cases (w : World) (other : Actor) (damageData : FDamageData) :
    (∃ v, other = .pawn v ∧ v < w.pawns.length ∧
      w.dealDamage other damageData = (w.takeDamage v damageData, some ⟨v, damageData⟩)) ∨
    (∀ p, other = .pawn p → ¬ p < w.pawns.length) ∧ w.dealDamage other damageData = (w, none) := by
  unfold dealDamage
  cases other with
  | pawn v =>
      by_cases there : v < w.pawns.length
      · exact .inl ⟨v, rfl, there, if_pos there⟩
      · refine .inr ⟨?_, if_neg there⟩
        rintro p ⟨⟩
        exact there
  | _ => exact .inr ⟨nofun, rfl⟩

/-- The damage an overlap of the projectile deals. -/
def overlapData (j : ProjectileId) (q : Projectile) : FDamageData :=
  { damageValue := q.damage, instigator := q.owner, damageMaker := some (.projectile j) }

/-- The damage a trace of the cannon deals. -/
def traceData (c : CannonId) (y : Cannon) : FDamageData :=
  { damageValue := y.traceDamage, instigator := y.owner, damageMaker := some (.cannon c) }

/-- The projectile is spent on what takes no damage or is excluded, or it hits a pawn
and may be credited with a kill. -/
theorem overlap_cases {w : World} {j : ProjectileId} {q : Projectile} (found : w.projectiles[j]? = some q)
    (other : Actor) :
    w.onMeshOverlapBegin j other = (w.updateProjectile j Projectile.deactivate, {}) ∧
        (w.excludes q.owner other = true ∨ ∀ p, other = .pawn p → ¬ p < w.pawns.length) ∨
      ∃ v, other = .pawn v ∧ v < w.pawns.length ∧ w.excludes q.owner (.pawn v) = false ∧
        w.onMeshOverlapBegin j other =
          ((if (w.takeDamage v (overlapData j q)).isBeingDestroyed (.pawn v) && w.pointsOf (.pawn v) != 0 then
              (w.takeDamage v (overlapData j q)).broadcastOnKilled j (w.pointsOf (.pawn v))
            else w.takeDamage v (overlapData j q)).updateProjectile j Projectile.deactivate,
            { damage := some ⟨v, overlapData j q⟩ }) := by
  unfold onMeshOverlapBegin
  rw [found]
  simp only []
  split
  · next passes => exact .inl ⟨rfl, .inl passes⟩
  next unguarded =>
  have clear : w.excludes q.owner other = false := by simpa using unguarded
  rcases dealDamage_cases w other (overlapData j q) with ⟨v, rfl, there, dealt⟩ | ⟨missed, none⟩
  · refine .inr ⟨v, rfl, there, clear, ?_⟩
    rw [overlapData] at dealt
    rw [dealt]
    rfl
  · refine .inl ⟨?_, .inr missed⟩
    rw [overlapData] at none
    rw [none]
    rfl

/-- A trace hits nothing that takes damage, or it hits a pawn. -/
theorem lineTrace_cases (w : World) (c : CannonId) (hit : Option Actor) :
    w.lineTrace c hit = (w, {}) ∨
      ∃ y v, w.cannons[c]? = some y ∧ hit = some (.pawn v) ∧ v < w.pawns.length ∧
        w.excludes y.owner (.pawn v) = false ∧
        w.lineTrace c hit = (w.takeDamage v (traceData c y), { damage := some ⟨v, traceData c y⟩ }) := by
  unfold lineTrace
  split
  · next y other here =>
    split
    · exact .inl rfl
    next unguarded =>
    rcases dealDamage_cases w other (traceData c y) with ⟨v, rfl, there, dealt⟩ | ⟨_, none⟩
    · refine .inr ⟨y, v, here, rfl, there, by simpa using unguarded, ?_⟩
      rw [traceData] at dealt
      rw [dealt]
      rfl
    · rw [traceData] at none
      rw [none]
      exact .inl rfl
  · exact .inl rfl

/-- Only a trace reaches pawns and cannons. -/
theorem perform_frame (w : World) (c : CannonId) {outcome : Outcome} (reply : Reply)
    (untraced : outcome ≠ .traced) : (w.perform c outcome reply).1.pawns = w.pawns ∧
      (w.perform c outcome reply).1.cannons = w.cannons ∧ (w.perform c outcome reply).2.damage = none := by
  cases outcome with
  | spawned | burstShot =>
      refine ⟨?_, ?_, rfl⟩ <;> simp only [perform, launchSpawned] <;> split <;> rfl
  | pooled =>
      refine ⟨?_, ?_, rfl⟩ <;> simp only [perform, launchPooled] <;> split
      · rfl
      · split <;> rfl
      · rfl
      · split <;> rfl
  | traced => exact absurd rfl untraced
  | refused | burstCompleted | reloaded | resupplied => exact ⟨rfl, rfl, rfl⟩

theorem beginPlay_cases {w : World} {p : PawnId} {main alternate : CannonReply} {result : World × Report}
    (taken : w.step (.beginPlay p main alternate) = some result) :
    ∃ x w', w.pawns[p]? = some x ∧ x.bActorIsBeingDestroyed = false ∧ x.bActorHasBegunPlay = false ∧
      w.beginPlay p main alternate = some w' ∧ result = (w', {}) := by
  simp only [step] at taken
  split at taken
  · next able =>
    obtain ⟨live, fresh⟩ := Bool.and_eq_true_iff.mp able
    obtain ⟨x, found, alive⟩ := pawnAlive_iff.mp live
    obtain ⟨w', done, same⟩ := Option.map_eq_some_iff.mp taken
    exact ⟨x, w', found, alive, by simpa [found] using fresh, done, same.symm⟩
  · cases taken

theorem step_transition {w : World} {event : Event} {result : World × Report}
    (taken : w.step event = some result) : Transition w event result := by
  cases event with
  | beginPlay p main alternate =>
      obtain ⟨x, w', found, alive, fresh, done, rfl⟩ := beginPlay_cases taken
      exact .beginPlay found alive fresh done
  | setupCannon p cls main alternate =>
      simp only [step] at taken
      split at taken
      · next able =>
        obtain ⟨x, found, alive⟩ := pawnAlive_iff.mp able
        obtain ⟨w', done, rfl⟩ := Option.map_eq_some_iff.mp taken
        exact .setupCannon found alive done
      · cases taken
  | fire p reply =>
      simp only [step] at taken
      split at taken
      · next able =>
        obtain ⟨x, found, alive⟩ := pawnAlive_iff.mp able
        rcases onSlot_cases found taken with rfl | ⟨c, y, next, holds, here, acted, rfl⟩
        · exact .unarmed rfl
        · exact .fire found alive holds here acted
      · cases taken
  | alternateFire p reply =>
      simp only [step] at taken
      split at taken
      · next able =>
        obtain ⟨x, found, alive⟩ := pawnAlive_iff.mp able
        rcases onSlot_cases found taken with rfl | ⟨c, y, next, holds, here, acted, rfl⟩
        · exact .unarmed rfl
        · exact .alternateFire found alive holds here acted
      · cases taken
  | reloadTimer c =>
      obtain ⟨y, next, here, acted, rfl⟩ := cannonEvent_cases taken
      obtain ⟨which, reloaded⟩ := Cannon.reload_outcome acted
      exact .reloadTimer here acted (by simp [reloaded])
  | burstFireTimer c reply =>
      obtain ⟨y, next, here, acted, rfl⟩ := cannonEvent_cases taken
      refine .burstFireTimer here acted ?_
      rcases Cannon.burst_outcome acted with completed | shot
      · simp [completed]
      · simp [shot]
  | increaseAmmoValue c ammoValue =>
      obtain ⟨y, next, here, acted, rfl⟩ := cannonEvent_cases taken
      simp only [Cannon.step] at acted
      split at acted
      · next inside =>
        cases acted
        exact .increaseAmmoValue here inside
      · cases acted
  | move j forward =>
      obtain ⟨q, found, pending, rfl⟩ := onProjectile_cases taken
      exact .move found pending
  | deactivateTimer j =>
      obtain ⟨q, found, pending, rfl⟩ := onProjectile_cases taken
      exact .deactivateTimer found pending
  | meshOverlapBegin j other =>
      simp only [step] at taken
      split at taken
      · next there =>
        obtain rfl := Option.some.inj taken
        exact .meshOverlapBegin (List.getElem?_eq_getElem there)
      · cases taken
  | takeDamage p damageValue =>
      simp only [step] at taken
      split at taken
      · next alive =>
        obtain rfl := Option.some.inj taken
        exact .takeDamage alive
      · cases taken

end TankoGeddon.World
