import TankoGeddon.Foundation.Projection
import TankoGeddon.World.Effects

/-! The history of one cannon.

A level moves many cannons at once, but a single cannon only ever sees the calls made
on it and its own destruction: whatever else goes on in the level leaves it as it is.
So its history is a run of the cannon alone.
-/

set_option autoImplicit false

namespace TankoGeddon

open Foundation (Run Step getElem?_concat)

namespace Cannon

/-- What befalls a cannon in its level. -/
inductive Deed where
  | call (event : Event)
  | destroy
  deriving DecidableEq, Repr

/-- A destroyed cannon is not destroyed again. -/
def undergo (y : Cannon) : Deed → Option (Cannon × Option Outcome)
  | .call event => (y.step event).map fun next => (next.1, some next.2)
  | .destroy => if y.bActorIsBeingDestroyed then none else some (y.destroy, none)

/-- Left as it was, or destroyed while it was alive. -/
def Spared (y y' : Cannon) : Prop := y' = y ∨ y.bActorIsBeingDestroyed = false ∧ y' = y.destroy

theorem Spared.trans {y y' y'' : Cannon} (first : Spared y y') (second : Spared y' y'') : Spared y y'' := by
  rcases first with rfl | ⟨alive, rfl⟩
  · exact second
  · rcases second with rfl | ⟨dead, _⟩
    · exact .inr ⟨alive, rfl⟩
    · cases dead

/-- As `SetupCannon` makes it: begun, alive and in nobody's debt. -/
def Fresh (y : Cannon) : Prop := y.BegunPlay ∧ y.bActorIsBeingDestroyed = false

end Cannon

namespace World

/-- The cannon an event calls, and the call. -/
def calls (w : World) : Event → Option (CannonId × Cannon.Event)
  | .fire p _ => (w.pawns[p]?.bind (·.cannon)).map (·, .fire)
  | .alternateFire p _ => (w.pawns[p]?.bind (·.alternateCannon)).map (·, .alternateFire)
  | .reloadTimer c => some (c, .reloadTimer)
  | .burstFireTimer c _ => some (c, .burstFireTimer)
  | .increaseAmmoValue c ammoValue => some (c, .increaseAmmoValue ammoValue)
  | _ => none

/-- What a step is to one cannon. -/
def deed (c : CannonId) (t : Step World Event Report) : Option Cannon.Deed :=
  match t.before.calls t.event with
  | some (called, event) =>
      if called = c then some (.call event)
      else if t.before.cannonAlive c && !t.after.cannonAlive c then some .destroy
      else none
  | none => if t.before.cannonAlive c && !t.after.cannonAlive c then some .destroy else none

/-- Every cannon there was is spared or destroyed. -/
def KeepsCannons (w w' : World) : Prop :=
  ∀ (c : CannonId) (y : Cannon), w.cannons[c]? = some y →
    ∃ y', w'.cannons[c]? = some y' ∧ Cannon.Spared y y'

/-! Damage. -/

theorem die_destroys (w : World) (p : PawnId) :
    (w.die p).cannons = (w.destroyOld (w.pawns[p]?.bind (·.cannon))).cannons := by
  rw [die_eq]
  rfl

/-- Damage destroys at most the main cannon of a live pawn. -/
theorem takeDamage_destroys (w : World) (p : PawnId) (damageData : FDamageData) :
    (w.takeDamage p damageData).cannons = w.cannons ∨
      ∃ x c, w.pawns[p]? = some x ∧ x.bActorIsBeingDestroyed = false ∧ x.cannon = some c ∧
        (w.takeDamage p damageData).cannons = w.cannons.modify c Cannon.destroy := by
  cases found : w.pawns[p]? with
  | none =>
      left
      simp only [takeDamage, found]
  | some x =>
      simp only [takeDamage, found]
      split
      · split
        · exact .inl rfl
        · next alive =>
          rw [die_destroys]
          simp only [updatePawn, List.getElem?_modify_eq, found]
          cases holds : x.cannon with
          | none =>
              left
              simp [holds, destroyOld]
          | some c =>
              refine .inr ⟨x, c, rfl, by simpa using alive, holds, ?_⟩
              simp [holds, destroyOld, destroyCannon, updateCannon]
      · exact .inl rfl

theorem modify_destroy {table : List Cannon} {c i : CannonId} {y : Cannon} (here : table[i]? = some y)
    (living : c = i → y.bActorIsBeingDestroyed = false) :
    ∃ y', (table.modify c Cannon.destroy)[i]? = some y' ∧ Cannon.Spared y y' := by
  rw [List.getElem?_modify, here]
  by_cases same : c = i
  · exact ⟨y.destroy, by simp [same], .inr ⟨living same, rfl⟩⟩
  · exact ⟨y, by simp [same], .inl rfl⟩

theorem main_alive {w : World} (wired : w.links.Wired) {p : PawnId} {x : MachinePawn} {c : CannonId} {y : Cannon}
    (found : w.pawns[p]? = some x) (alive : x.bActorIsBeingDestroyed = false) (holds : x.cannon = some c)
    (here : w.cannons[c]? = some y) : y.bActorIsBeingDestroyed = false :=
  held_alive (s := .main) wired found alive holds here

theorem takeDamage_keeps {w : World} (wired : w.links.Wired) (p : PawnId) (damageData : FDamageData) :
    w.KeepsCannons (w.takeDamage p damageData) := by
  intro c y here
  rcases takeDamage_destroys w p damageData with same | ⟨x, c', found, alive, holds, cannons⟩
  · rw [same]
    exact ⟨y, here, .inl rfl⟩
  · rw [cannons]
    apply modify_destroy here
    rintro rfl
    exact main_alive wired found alive holds here

/-! Arming. -/

theorem KeepsCannons.refl (w : World) : w.KeepsCannons w := fun _ y here => ⟨y, here, .inl rfl⟩

theorem KeepsCannons.trans {w w₁ w₂ : World} (first : w.KeepsCannons w₁) (second : w₁.KeepsCannons w₂) :
    w.KeepsCannons w₂ := by
  intro c y here
  obtain ⟨y₁, here₁, spared₁⟩ := first c y here
  obtain ⟨y₂, here₂, spared₂⟩ := second c y₁ here₁
  exact ⟨y₂, here₂, spared₁.trans spared₂⟩

/-- Every cannon a step adds is fresh, and stays fresh to the end of the step. -/
def BringsFresh (w w' : World) : Prop :=
  ∀ (c : CannonId) (y' : Cannon), w.cannons[c]? = none → w'.cannons[c]? = some y' → y'.Fresh

theorem BringsFresh.of_same {w w' : World} (same : w'.cannons.length = w.cannons.length) : w.BringsFresh w' := by
  intro c y' missing here
  have outside := List.getElem?_eq_none_iff.mp missing
  have inside := (List.getElem?_eq_some_iff.mp here).1
  omega

theorem spawnCannon_fresh {w w' : World} {cls : CannonClass} {p : PawnId} {reply : CannonReply} {c : CannonId}
    (made : w.spawnCannon cls p reply = (w', some c)) :
    c = w.cannons.length ∧ ∃ y, y.Fresh ∧ w'.cannons = w.cannons ++ [y] := by
  unfold spawnCannon at made
  split at made
  · obtain ⟨rfl, same⟩ := Prod.mk.inj made
    obtain rfl := Option.some.inj same
    have fresh := Cannon.beginPlay_begun cls (some (.pawn p)) (some p)
      (w.createProjectilePool cls.projectilePoolClass reply).2
    refine ⟨rfl, _, ⟨fresh, rfl⟩, ?_⟩
    simp only [(createProjectilePool_frame w _ reply).2]
  · cases (Prod.mk.inj made).2

/-- Completing its links leaves a fresh cannon fresh. -/
theorem completed_fresh {w w₁ : World} {p : PawnId} {cls : CannonClass} {reply : CannonReply} {c : CannonId}
    {f : MachinePawn → MachinePawn} {g : Cannon → Cannon} (made : w.spawnCannon cls p reply = (w₁, some c))
    (complete : ∀ y : Cannon, y.Fresh → (g y).Fresh) :
    ∃ y, y.Fresh ∧ ((w₁.updatePawn p f).updateCannon c g).cannons = w.cannons ++ [y] := by
  obtain ⟨rfl, y, fresh, cannons⟩ := spawnCannon_fresh made
  refine ⟨g y, complete y fresh, ?_⟩
  simp only [updateCannon, updatePawn, cannons]
  exact Foundation.modify_concat _ _ _

theorem setupMain_fresh {w w' : World} {p : PawnId} {cls : CannonClass} {reply : CannonReply}
    (done : w.setupMain p cls reply = some w') :
    ∃ y, y.Fresh ∧ w'.cannons = (w.destroyOld (w.pawns[p]?.bind (·.cannon))).cannons ++ [y] := by
  unfold setupMain at done
  simp only [] at done
  split at done
  · next w₁ c made =>
    obtain rfl := Option.some.inj done
    apply completed_fresh made
    intro y fresh
    exact ⟨⟨fresh.1.ammo, fresh.1.shot, fresh.1.main, fresh.1.alternate, fresh.1.reload, fresh.1.burst⟩, fresh.2⟩
  · cases done

theorem setupAlternate_fresh {w w' : World} {p : PawnId} {reply : CannonReply}
    (done : w.setupAlternate p reply = some w') :
    w' = w ∨
      ∃ y, y.Fresh ∧ w'.cannons = (w.destroyOld (w.pawns[p]?.bind (·.alternateCannon))).cannons ++ [y] := by
  unfold setupAlternate at done
  split at done
  · exact .inl (Option.some.inj done).symm
  simp only [] at done
  split at done
  · next w₁ c made =>
    obtain rfl := Option.some.inj done
    right
    apply completed_fresh made
    intro y fresh
    exact ⟨⟨fresh.1.ammo, fresh.1.shot, fresh.1.main, fresh.1.alternate, fresh.1.reload, fresh.1.burst⟩, fresh.2⟩
  · cases done

theorem destroyOld_keeps {w : World} (wired : w.links.Wired) {p : PawnId} {x : MachinePawn} (s : Slot)
    (found : w.pawns[p]? = some x) (alive : x.bActorIsBeingDestroyed = false) :
    w.KeepsCannons (w.destroyOld (x.link.slot s)) := by
  intro c y here
  cases holds : x.link.slot s with
  | none => exact ⟨y, here, .inl rfl⟩
  | some old =>
      apply modify_destroy here
      rintro rfl
      exact held_alive wired found alive holds here

theorem cleared_length (w : World) (old : Option CannonId) :
    (w.destroyOld old).cannons.length = w.cannons.length := by
  cases old with
  | none => rfl
  | some c => exact List.length_modify _ _ _

theorem cleared_other {w : World} {old : Option CannonId} {c : CannonId} (other : old ≠ some c) :
    (w.destroyOld old).cannons[c]? = w.cannons[c]? := by
  cases old with
  | none => rfl
  | some c' =>
      have ne : c' ≠ c := fun same => other (congrArg some same)
      exact List.getElem?_modify_ne _ _ ne

/-- A slot is cleared and a new cannon joins. -/
theorem arm_keeps {w w' : World} (wired : w.links.Wired) {p : PawnId} {x : MachinePawn} {s : Slot} {y₀ : Cannon}
    (found : w.pawns[p]? = some x) (alive : x.bActorIsBeingDestroyed = false) (fresh : y₀.Fresh)
    (cannons : w'.cannons = (w.destroyOld (x.link.slot s)).cannons ++ [y₀]) :
    w.KeepsCannons w' ∧ w.BringsFresh w' := by
  constructor
  · intro c y here
    obtain ⟨y', there, spared⟩ := destroyOld_keeps wired s found alive c y here
    refine ⟨y', ?_, spared⟩
    rw [cannons, List.getElem?_append_left (List.getElem?_eq_some_iff.mp there).1]
    exact there
  · intro c y' missing here
    rw [cannons] at here
    rcases getElem?_concat here with old | ⟨_, rfl⟩
    · have outside := List.getElem?_eq_none_iff.mp missing
      have inside := (List.getElem?_eq_some_iff.mp old).1
      rw [cleared_length] at inside
      omega
    · exact fresh

theorem setupMain_keeps {w w' : World} (wired : w.links.Wired) {p : PawnId} {x : MachinePawn} {cls : CannonClass}
    {reply : CannonReply} (found : w.pawns[p]? = some x) (alive : x.bActorIsBeingDestroyed = false)
    (done : w.setupMain p cls reply = some w') : w.KeepsCannons w' ∧ w.BringsFresh w' := by
  obtain ⟨y, fresh, cannons⟩ := setupMain_fresh done
  rw [found, Option.bind_some] at cannons
  exact arm_keeps (s := .main) wired found alive fresh cannons

theorem setupAlternate_keeps {w w' : World} (wired : w.links.Wired) {p : PawnId} {x : MachinePawn}
    {reply : CannonReply} (found : w.pawns[p]? = some x) (alive : x.bActorIsBeingDestroyed = false)
    (done : w.setupAlternate p reply = some w') : w.KeepsCannons w' ∧ w.BringsFresh w' := by
  rcases setupAlternate_fresh done with rfl | ⟨y, fresh, cannons⟩
  · exact ⟨.refl _, .of_same rfl⟩
  · rw [found, Option.bind_some] at cannons
    exact arm_keeps (s := .alternate) wired found alive fresh cannons

/-- The alternate slot is not the one the new main cannon went into. -/
theorem setupCannon_keeps {w w' : World} (wired : w.links.Wired) {p : PawnId} {x : MachinePawn}
    {cls : Option CannonClass} {main alternate : CannonReply} (found : w.pawns[p]? = some x)
    (alive : x.bActorIsBeingDestroyed = false) (done : w.setupCannon p cls main alternate = some w') :
    w.KeepsCannons w' ∧ w.BringsFresh w' := by
  unfold setupCannon at done
  split at done
  · obtain rfl := Option.some.inj done
    exact ⟨.refl _, .of_same rfl⟩
  next cls =>
  obtain ⟨w₁, first, second⟩ := Option.bind_eq_some_iff.mp done
  obtain ⟨kept, fresh⟩ := setupMain_keeps wired found alive first
  have wired₁ := wired.moves (setupMain_moves found alive first)
  obtain ⟨c₁, pawns⟩ := setupMain_pawns first
  have found₁ : w₁.pawns[p]? = some { x with cannon := some c₁ } := by simp [pawns, found]
  obtain ⟨kept₁, fresh₁⟩ := setupAlternate_keeps wired₁ found₁ alive second
  refine ⟨kept.trans kept₁, ?_⟩
  intro c y' missing here
  cases there : w₁.cannons[c]? with
  | none => exact fresh₁ c y' there here
  | some y₁ =>
      have young := fresh c y₁ missing there
      rcases setupAlternate_fresh second with rfl | ⟨y₂, _, cannons⟩
      · obtain rfl := Option.some.inj (there.symm.trans here)
        exact young
      · have size := (List.getElem?_eq_some_iff.mp there).1
        rw [cannons, List.getElem?_append_left (by rw [cleared_length]; exact size), found₁, Option.bind_some,
          cleared_other] at here
        · obtain rfl := Option.some.inj (there.symm.trans here)
          exact young
        -- the slot held its cannon before the new one was made
        · intro holds
          obtain ⟨link, cannon, _⟩ := wired.slot p x.link .alternate c (pawn_link found) holds
          obtain ⟨y, known, _⟩ := lookup_cannon cannon
          cases missing.symm.trans known

/-! One step. -/

/-- A call carried out: the cannon called is as its own step left it. -/
theorem act_keeps {w : World} (wired : w.links.Wired) {c : CannonId} {y : Cannon} {event : Cannon.Event}
    {next : Cannon × Outcome} (here : w.cannons[c]? = some y) (acted : y.step event = some next)
    (living : next.2 = .traced → y.bActorIsBeingDestroyed = false) (reply : Reply) :
    ((w.updateCannon c fun _ => next.1).perform c next.2 reply).1.cannons[c]? = some next.1 ∧
      ((w.updateCannon c fun _ => next.1).perform c next.2 reply).1.cannons.length = w.cannons.length ∧
      ∀ (i : CannonId) (z : Cannon), i ≠ c → w.cannons[i]? = some z →
        ∃ z', ((w.updateCannon c fun _ => next.1).perform c next.2 reply).1.cannons[i]? = some z' ∧
          Cannon.Spared z z' := by
  obtain ⟨y', outcome⟩ := next
  have there : (w.updateCannon c fun _ => y').cannons[c]? = some y' := by simp [updateCannon, here]
  have size : (w.updateCannon c fun _ => y').cannons.length = w.cannons.length := List.length_modify _ _ _
  have others : ∀ (i : CannonId) (z : Cannon), i ≠ c → w.cannons[i]? = some z →
      (w.updateCannon c fun _ => y').cannons[i]? = some z := by
    intro i z ne found
    simpa [updateCannon, ne.symm] using found
  by_cases traced : outcome = .traced
  · subst traced
    have alive := living rfl
    rcases lineTrace_cases (w.updateCannon c fun _ => y') c reply.traceHit with
      missed | ⟨y₁, v, here₁, _, _, unguarded, dealt⟩
    · simp only [perform, missed]
      exact ⟨there, size, fun i z ne found => ⟨z, others i z ne found, .inl rfl⟩⟩
    simp only [perform, dealt]
    rcases takeDamage_destroys (w.updateCannon c fun _ => y') v (traceData c y₁) with
      same | ⟨x, c₂, found, up, holds, cannons⟩
    · rw [same]
      exact ⟨there, size, fun i z ne found => ⟨z, others i z ne found, .inl rfl⟩⟩
    have found₀ : w.pawns[v]? = some x := found
    -- a trace passes through the pawn that holds the cannon
    have other : c₂ ≠ c := by
      rintro rfl
      obtain rfl : y' = y₁ := Option.some.inj (there.symm.trans here₁)
      obtain ⟨link, cannon, own, _⟩ := wired.slot v x.link .main c₂ (pawn_link found₀) holds
      obtain rfl : y.link = link := Option.some.inj ((cannon_link here).symm.trans cannon)
      have owner : y'.owner = y.owner := congrArg CannonLink.owner (Cannon.step_transition acted).link
      rw [owner, trace_excludes wired here alive, excludes_own wired here alive own] at unguarded
      cases unguarded
    rw [cannons]
    refine ⟨?_, by rw [List.length_modify]; exact size, ?_⟩
    · rw [List.getElem?_modify_ne _ _ other]
      exact there
    · intro i z ne known
      apply modify_destroy (others i z ne known)
      rintro rfl
      exact main_alive wired found₀ up holds known
  · have frame := (perform_frame (w.updateCannon c fun _ => y') c reply traced).2.1
    rw [frame]
    exact ⟨there, size, fun i z ne found => ⟨z, others i z ne found, .inl rfl⟩⟩

theorem slot_calls {w : World} {p : PawnId} {slot : MachinePawn → Option CannonId} {x : MachinePawn}
    {c : CannonId} {event : Cannon.Event} {reply : Reply} {result : World × Report}
    (found : w.pawns[p]? = some x) (holds : slot x = some c)
    (taken : w.onSlot p slot event reply = some result) :
    ∃ y next, w.cannons[c]? = some y ∧ y.step event = some next ∧
      result = (w.updateCannon c fun _ => next.1).perform c next.2 reply := by
  have read : w.pawns[p]?.bind slot = some c := by rw [found]; exact holds
  simp only [onSlot, read] at taken
  exact cannonEvent_cases taken

/-- A call that is made is a step of the cannon it is made on. -/
theorem calls_acts {w : World} (wired : w.links.Wired) {event : Event} {result : World × Report} {c : CannonId}
    {call : Cannon.Event} (taken : w.step event = some result) (made : w.calls event = some (c, call)) :
    ∃ y next reply, w.cannons[c]? = some y ∧ y.step call = some next ∧
      (next.2 = .traced → y.bActorIsBeingDestroyed = false) ∧
      (next.2.discharges = true → event.reply = some reply) ∧
      result = (w.updateCannon c fun _ => next.1).perform c next.2 reply := by
  cases event with
  | fire p reply =>
      simp only [step] at taken
      split at taken
      · next able =>
        obtain ⟨x, found, alive⟩ := pawnAlive_iff.mp able
        simp only [calls, found, Option.bind_some] at made
        obtain ⟨c', holds, same⟩ := Option.map_eq_some_iff.mp made
        obtain ⟨rfl, rfl⟩ := Prod.mk.inj same
        obtain ⟨y, next, here, acted, rfl⟩ := slot_calls found holds taken
        have living := held_alive (s := .main) wired found alive holds here
        exact ⟨y, next, reply, here, acted, fun _ => living, fun _ => rfl, rfl⟩
      · cases taken
  | alternateFire p reply =>
      simp only [step] at taken
      split at taken
      · next able =>
        obtain ⟨x, found, alive⟩ := pawnAlive_iff.mp able
        simp only [calls, found, Option.bind_some] at made
        obtain ⟨c', holds, same⟩ := Option.map_eq_some_iff.mp made
        obtain ⟨rfl, rfl⟩ := Prod.mk.inj same
        obtain ⟨y, next, here, acted, rfl⟩ := slot_calls found holds taken
        have living := held_alive (s := .alternate) wired found alive holds here
        exact ⟨y, next, reply, here, acted, fun _ => living, fun _ => rfl, rfl⟩
      · cases taken
  | reloadTimer c' =>
      obtain ⟨rfl, rfl⟩ := Prod.mk.inj (Option.some.inj made)
      obtain ⟨y, next, here, acted, rfl⟩ := cannonEvent_cases taken
      obtain ⟨which, shown⟩ := Cannon.reload_outcome acted
      refine ⟨y, next, {}, here, acted, fun _ => pending_alive wired here (reload_pending acted), ?_, rfl⟩
      simp [shown, Outcome.discharges]
  | burstFireTimer c' reply =>
      obtain ⟨rfl, rfl⟩ := Prod.mk.inj (Option.some.inj made)
      obtain ⟨y, next, here, acted, rfl⟩ := cannonEvent_cases taken
      have living := pending_alive wired here (burst_pending acted)
      exact ⟨y, next, reply, here, acted, fun _ => living, fun _ => rfl, rfl⟩
  | increaseAmmoValue c' ammoValue =>
      obtain ⟨rfl, rfl⟩ := Prod.mk.inj (Option.some.inj made)
      obtain ⟨y, next, here, acted, rfl⟩ := cannonEvent_cases taken
      have shown : next.2 = .resupplied := by
        simp only [Cannon.step] at acted
        split at acted <;> cases acted
        rfl
      exact ⟨y, next, {}, here, acted, by simp [shown], by simp [shown, Outcome.discharges], rfl⟩
  | _ => cases made

theorem broadcast_cannons (w : World) (j : ProjectileId) (scoreValue : Scalar) :
    (w.broadcastOnKilled j scoreValue).cannons = w.cannons := by
  unfold broadcastOnKilled
  refine List.foldlRecOn (motive := fun heard : World => heard.cannons = w.cannons) _ _ rfl ?_
  intro heard kept c _
  unfold addScore
  split
  · refine List.foldlRecOn (motive := fun told : World => told.cannons = w.cannons) _ _ kept ?_
    intro told same p _
    unfold showScore
    split <;> exact same
  · exact kept

theorem overlap_cannons {w : World} {j : ProjectileId} {q : Projectile} (found : w.projectiles[j]? = some q)
    (other : Actor) : (w.onMeshOverlapBegin j other).1.cannons = w.cannons ∨
      ∃ v damageData, (w.onMeshOverlapBegin j other).1.cannons = (w.takeDamage v damageData).cannons := by
  rcases overlap_cases found other with ⟨same, _⟩ | ⟨v, _, _, _, same⟩
  · rw [same]
    exact .inl rfl
  · refine .inr ⟨v, overlapData j q, ?_⟩
    rw [same]
    simp only [updateProjectile]
    split
    · exact broadcast_cannons _ _ _
    · rfl

theorem KeepsCannons.of_eq {w w' : World} (same : w'.cannons = w.cannons) : w.KeepsCannons w' := by
  intro c y here
  exact ⟨y, by rw [same]; exact here, .inl rfl⟩

theorem takeDamage_size (w : World) (p : PawnId) (damageData : FDamageData) :
    (w.takeDamage p damageData).cannons.length = w.cannons.length := by
  rcases takeDamage_destroys w p damageData with same | ⟨_, c, _, _, _, cannons⟩
  · rw [same]
  · rw [cannons, List.length_modify]

/-- Where no call is made, cannons are only destroyed and made. -/
theorem quiet_keeps {w : World} (wired : w.links.Wired) {event : Event} {result : World × Report}
    (taken : w.step event = some result) (quiet : w.calls event = none) :
    w.KeepsCannons result.1 ∧ w.BringsFresh result.1 := by
  have plain : ∀ w' : World, w'.cannons = w.cannons → w.KeepsCannons w' ∧ w.BringsFresh w' := by
    intro w' same
    exact ⟨.of_eq same, .of_same (by rw [same])⟩
  cases step_transition taken with
  | @beginPlay p _ _ x _ found alive _ done =>
      have wired' : (w.updatePawn p MachinePawn.beginPlay).links.Wired := by
        rw [links_updatePawn w p (f := MachinePawn.beginPlay) fun _ => rfl]
        exact wired
      have found' : (w.updatePawn p MachinePawn.beginPlay).pawns[p]? = some x.beginPlay := by
        simp [updatePawn, found]
      have kept := setupCannon_keeps wired' found' alive done
      exact kept
  | setupCannon found alive done => exact setupCannon_keeps wired found alive done
  | unarmed => exact plain _ rfl
  | fire found _ holds => simp [calls, found, holds] at quiet
  | alternateFire found _ holds => simp [calls, found, holds] at quiet
  | reloadTimer | burstFireTimer | increaseAmmoValue => cases quiet
  | move | deactivateTimer => exact plain _ rfl
  | @meshOverlapBegin j other q found =>
      rcases overlap_cannons found other with same | ⟨v, damageData, same⟩
      · exact plain _ same
      · have kept := takeDamage_keeps wired v damageData
        constructor
        · intro c y here
          rw [same]
          exact kept c y here
        · exact .of_same (by rw [same, takeDamage_size])
  | takeDamage => exact ⟨takeDamage_keeps wired _ _, .of_same (takeDamage_size w _ _)⟩

/-- What a step does to one cannon: its own step where it is called, and otherwise
nothing or its destruction. -/
theorem step_cannon {w : World} (wired : w.links.Wired) {event : Event} {result : World × Report}
    (taken : w.step event = some result) {c : CannonId} {y : Cannon} (here : w.cannons[c]? = some y) :
    (∃ call next, w.calls event = some (c, call) ∧ y.step call = some next ∧
      result.1.cannons[c]? = some next.1) ∨
    (∀ call, w.calls event ≠ some (c, call)) ∧ ∃ y', result.1.cannons[c]? = some y' ∧ Cannon.Spared y y' := by
  cases made : w.calls event with
  | none => exact .inr ⟨nofun, (quiet_keeps wired taken made).1 c y here⟩
  | some called =>
      obtain ⟨c', call⟩ := called
      obtain ⟨y', next, reply, here', acted, living, _, rfl⟩ := calls_acts wired taken made
      obtain ⟨own, _, others⟩ := act_keeps wired here' acted living reply
      by_cases same : c = c'
      · subst same
        obtain rfl := Option.some.inj (here.symm.trans here')
        exact .inl ⟨call, next, rfl, acted, own⟩
      · refine .inr ⟨?_, others c y same here⟩
        rintro _ ⟨⟩
        exact same rfl

theorem step_births {w : World} (wired : w.links.Wired) {event : Event} {result : World × Report}
    (taken : w.step event = some result) : w.BringsFresh result.1 := by
  cases made : w.calls event with
  | none => exact (quiet_keeps wired taken made).2
  | some called =>
      obtain ⟨y', next, reply, here', acted, living, _, rfl⟩ := calls_acts wired taken made
      exact .of_same (act_keeps wired here' acted living reply).2.1

theorem deed_called {t : Step World Event Report} {c : CannonId} {call : Cannon.Event}
    (made : t.before.calls t.event = some (c, call)) : deed c t = some (.call call) := by
  simp [deed, made]

theorem deed_quiet {t : Step World Event Report} {c : CannonId}
    (quiet : ∀ call, t.before.calls t.event ≠ some (c, call)) :
    deed c t = if t.before.cannonAlive c && !t.after.cannonAlive c then some .destroy else none := by
  unfold deed
  split
  · next called call made =>
    have other : called ≠ c := by
      rintro rfl
      exact quiet call made
    rw [if_neg other]
  · rfl

/-- To one cannon a step is what its deed says. -/
theorem shows_cannon {t : Step World Event Report} (wired : t.before.links.Wired)
    (taken : t.before.step t.event = some (t.after, t.output)) (c : CannonId) :
    t.Shows Cannon.undergo Cannon.Fresh (fun w => w.cannons[c]?) (deed c) where
  taken := by
    intro y act here own
    rcases step_cannon wired taken here with ⟨call, next, made, acted, after⟩ | ⟨quiet, y', after, spared⟩
    · obtain rfl := Option.some.inj ((deed_called made).symm.trans own)
      exact ⟨next.1, some next.2, by simp [Cannon.undergo, acted], after⟩
    · rw [deed_quiet quiet] at own
      split at own
      · next gone =>
        obtain rfl := Option.some.inj own
        rcases spared with rfl | ⟨alive, rfl⟩
        · simp [cannonAlive, here, show t.after.cannons[c]? = some y' from after] at gone
        · exact ⟨y.destroy, none, by simp [Cannon.undergo, alive], after⟩
      · cases own
  left := by
    intro y here own
    rcases step_cannon wired taken here with ⟨call, next, made, _, _⟩ | ⟨quiet, y', after, spared⟩
    · cases (deed_called made).symm.trans own
    · rw [deed_quiet quiet] at own
      rcases spared with rfl | ⟨alive, rfl⟩
      · exact after
      · simp [cannonAlive, here, show t.after.cannons[c]? = some y.destroy from after, alive,
          Cannon.destroy] at own
  unborn := by
    intro missing
    have dead : t.before.cannonAlive c = false := by simp [cannonAlive, missing]
    rw [deed_quiet, dead]
    · rfl
    · intro call made
      obtain ⟨y, _, _, here, _⟩ := calls_acts wired taken made
      cases missing.symm.trans here
  born := fun y missing here => step_births wired taken c y missing here

/-- What the level did to a cannon, in order. -/
def history (trace : List (Step World Event Report)) (c : CannonId) : List Cannon.Deed :=
  trace.filterMap (deed c)

/-- A level is its cannons side by side: whatever the interleaving, each cannon has
gone through a run of its own, from the state `SetupCannon` made it in. -/
theorem cannon_history {w w' : World} {trace : List (Step World Event Report)} (initial : w.Initial)
    (run : Run World.step w trace w') {c : CannonId} {y : Cannon} (here : w'.cannons[c]? = some y) :
    ∃ y₀ own, y₀.Fresh ∧ Run Cannon.undergo y₀ own y ∧ own.map (·.event) = history trace c := by
  have wired := run_wired initial run
  apply run.component Cannon.Fresh (fun w => w.cannons[c]?) (deed c)
  · simp [initial.cannons]
  · intro t member
    exact shows_cannon (wired.2 t member).1 (run.taken member) c
  · exact here

end World

end TankoGeddon
