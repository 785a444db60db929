import TankoGeddon.World.Refinement

/-! Health and score of the pawns, and what damage and a kill broadcast do to them.

Everything else of a pawn is forgotten here. A broadcast of a projectile pays the
pawn whose live main cannon launched it, and nobody when there is none.
-/

set_option autoImplicit false

namespace TankoGeddon

open Foundation (map_modify modify_congr)

structure Vitals where
  maxHealth : Scalar
  currentHealth : Scalar
  scoreValue : Scalar
  score : Scalar
  begun : Bool
  destroyed : Bool
  deriving DecidableEq

namespace Vitals

def beginPlay (v : Vitals) : Vitals := { v with currentHealth := v.maxHealth, begun := true }

def hurt (damageValue : Scalar) (v : Vitals) : Vitals :=
  { v with
    currentHealth := v.currentHealth - damageValue
    destroyed := v.destroyed || decide (v.currentHealth - damageValue ≤ 0) }

def paid (value : Scalar) (v : Vitals) : Vitals := { v with score := v.score + value }

end Vitals

namespace MachinePawn

def vitals (x : MachinePawn) : Vitals :=
  ⟨x.healthComponent.maxHealth, x.healthComponent.currentHealth, x.scoreValue, x.score,
    x.bActorHasBegunPlay, x.bActorIsBeingDestroyed⟩

/-- What `TakeDamage` and the `Die` it may lead to do to the pawn itself. -/
def struck (damageData : FDamageData) (x : MachinePawn) : MachinePawn :=
  let hurt := { x with healthComponent := (x.healthComponent.takeDamage damageData).1 }
  match (x.healthComponent.takeDamage damageData).2 with
  | .onDie => if x.bActorIsBeingDestroyed then hurt else hurt.destroy
  | .onHealthChanged _ => hurt

theorem struck_vitals (damageData : FDamageData) (x : MachinePawn) :
    (x.struck damageData).vitals = x.vitals.hurt damageData.damageValue := by
  unfold struck HealthComponent.takeDamage vitals Vitals.hurt
  by_cases fatal : x.healthComponent.currentHealth - damageData.damageValue ≤ 0
  · simp only [fatal, if_true, decide_true, Bool.or_true]
    split
    · next dead => simp [dead]
    · rfl
  · simp [fatal]

theorem struck_slot (damageData : FDamageData) (x : MachinePawn) (s : Slot) :
    (x.struck damageData).link.slot s = x.link.slot s := by
  unfold struck
  cases s <;> split <;> first | rfl | (split <;> rfl)

end MachinePawn

namespace World

def vitals (w : World) : List Vitals := w.pawns.map MachinePawn.vitals

theorem die_pawns (w : World) (p : PawnId) : (w.die p).pawns = w.pawns.modify p MachinePawn.destroy := by
  rw [die_eq, updatePawn, destroyOld_pawns]

theorem die_projectiles (w : World) (p : PawnId) : (w.die p).projectiles = w.projectiles := by
  unfold die
  cases w.pawns[p]?.bind (·.cannon) <;> rfl

theorem takeDamage_pawns (w : World) (p : PawnId) (damageData : FDamageData) :
    (w.takeDamage p damageData).pawns = w.pawns.modify p (MachinePawn.struck damageData) := by
  unfold takeDamage
  cases found : w.pawns[p]? with
  | none => exact (List.modify_eq_self (List.getElem?_eq_none_iff.mp found)).symm
  | some x =>
      have only : ∀ entry, w.pawns[p]? = some entry → entry = x := fun entry here => by
        simpa [found] using here.symm
      simp only []
      split
      · next fatal =>
        split
        · next dead =>
          apply modify_congr
          intro entry here
          simp [only entry here, MachinePawn.struck, fatal, dead]
        · next alive =>
          rw [die_pawns, updatePawn, List.modify_modify_eq]
          apply modify_congr
          intro entry here
          simp [only entry here, MachinePawn.struck, fatal, alive]
      · next value hurt =>
        apply modify_congr
        intro entry here
        simp [only entry here, MachinePawn.struck, hurt]

/-! What an overlap reads of its victim, before and after the hit. -/

theorem takeDamage_struck {w : World} {p : PawnId} {x : MachinePawn} (found : w.pawns[p]? = some x)
    (damageData : FDamageData) : (w.takeDamage p damageData).pawns[p]? = some (x.struck damageData) := by
  rw [takeDamage_pawns, List.getElem?_modify_eq, found]
  rfl

theorem isBeingDestroyed_struck {w : World} {p : PawnId} {x : MachinePawn} (found : w.pawns[p]? = some x)
    (damageData : FDamageData) : (w.takeDamage p damageData).isBeingDestroyed (.pawn p) =
      (x.vitals.hurt damageData.damageValue).destroyed := by
  rw [isBeingDestroyed, takeDamage_struck found, ← x.struck_vitals damageData]
  rfl

theorem pointsOf_pawn {w : World} {p : PawnId} {x : MachinePawn} (found : w.pawns[p]? = some x) :
    w.pointsOf (.pawn p) = x.vitals.scoreValue := by
  rw [pointsOf, found]
  rfl

theorem takeDamage_projectiles (w : World) (p : PawnId) (damageData : FDamageData) :
    (w.takeDamage p damageData).projectiles = w.projectiles := by
  unfold takeDamage
  cases w.pawns[p]? with
  | none => rfl
  | some x =>
      simp only []
      split
      · split
        · rfl
        · exact die_projectiles _ p
      · rfl

theorem takeDamage_vitals (w : World) (p : PawnId) (damageData : FDamageData) :
    (w.takeDamage p damageData).vitals = w.vitals.modify p (Vitals.hurt damageData.damageValue) := by
  rw [vitals, takeDamage_pawns]
  exact map_modify _ _ _ fun x _ => x.struck_vitals damageData

theorem takeDamage_other {w : World} {p other : PawnId} (ne : p ≠ other) (damageData : FDamageData) :
    (w.takeDamage p damageData).pawns[other]? = w.pawns[other]? := by
  rw [takeDamage_pawns, List.getElem?_modify_ne _ _ ne]

/-! Who is paid. -/

theorem showScore_vitals {w : World} {p : PawnId} (alive : w.pawnAlive p = true) (value : Scalar) :
    (w.showScore p value).vitals = w.vitals.modify p (Vitals.paid value) := by
  rw [showScore, if_pos alive, vitals, updatePawn]
  exact map_modify _ _ _ fun _ _ => rfl

end World

/-- The pawn whose live main cannon launched a projectile that is bound to it. -/
def Links.Backer (k : Links) (j : ProjectileId) (p : PawnId) : Prop :=
  ∃ c x, k.projectiles[j]? = some ⟨some (.cannon c), [c], some c⟩ ∧ k.pawns[p]? = some x ∧
    x.cannon = some c ∧ x.destroyed = false

theorem Links.Wired.backer_unique {k : Links} (wired : k.Wired) {j : ProjectileId} {p p' : PawnId}
    (backer : k.Backer j p) (backer' : k.Backer j p') : p = p' := by
  obtain ⟨c, x, projectile, found, holds, _⟩ := backer
  obtain ⟨c', x', projectile', found', holds', _⟩ := backer'
  obtain rfl : c = c' := by simpa [projectile] using projectile'
  have main : x.slot .main = some c := holds
  have main' : x'.slot .main = some c := holds'
  exact (wired.slot_unique found main found' main').1

namespace World

theorem broadcast_paid {w : World} (wired : w.links.Wired) {j : ProjectileId} {p : PawnId}
    (backer : w.links.Backer j p) (value : Scalar) :
    (w.broadcastOnKilled j value).vitals = w.vitals.modify p (Vitals.paid value) := by
  obtain ⟨c, x, projectile, found, holds, alive⟩ := backer
  obtain ⟨link, cannon, _, bound, state⟩ := wired.slot p x .main c found holds
  obtain ⟨y, here, rfl⟩ := lookup_cannon cannon
  obtain ⟨q, there, same⟩ := lookup_projectile projectile
  have killed : q.onKilled = [c] := congrArg ProjectileLink.onKilled same
  have pawnAlive : w.pawnAlive p = true := by
    obtain ⟨x₀, before, rfl⟩ := lookup_pawn found
    exact pawnAlive_iff.mpr ⟨x₀, before, alive⟩
  have cannonAlive : w.cannonAlive c = true := by
    simpa [World.cannonAlive, here, Cannon.link] using state fun _ => alive
  have score : y.scoreChanged = [p] := bound
  simp only [broadcastOnKilled, there, Option.map_some, Option.getD_some, killed, List.foldl_cons,
    List.foldl_nil, addScore, cannonAlive, if_true, here, score]
  exact showScore_vitals pawnAlive value

theorem broadcast_unpaid {w : World} (wired : w.links.Wired) {j : ProjectileId}
    (none : ∀ p, ¬ w.links.Backer j p) (value : Scalar) : (w.broadcastOnKilled j value).vitals = w.vitals := by
  unfold broadcastOnKilled
  cases there : w.projectiles[j]? with
  | none => rfl
  | some q =>
      have link := projectile_link there
      rw [Option.map_some, Option.getD_some]
      rcases wired.projectile j q.link link with ⟨_, _, bare⟩ | ⟨_, c, size, same⟩
      · have killed : q.onKilled = [] := bare
        rw [killed]
        rfl
      have killed : q.onKilled = [c] := congrArg ProjectileLink.onKilled same
      rw [killed, List.foldl_cons, List.foldl_nil, addScore]
      split
      · next alive =>
        obtain ⟨y, here, living⟩ : ∃ y, w.cannons[c]? = some y ∧ y.bActorIsBeingDestroyed = false := by
          simpa [cannonAlive, Option.any_eq_true] using alive
        have cannon := cannon_link here
        obtain ⟨p, x, s, _, found, _, holds, state⟩ := wired.live c y.link cannon living
        obtain ⟨link', cannon', _, bound, _⟩ := wired.slot p x s c found holds
        obtain rfl : y.link = link' := by simpa [cannon] using cannon'
        cases s with
        | main => exact absurd ⟨c, x, by rw [link, same], found, holds, state rfl⟩ (none p)
        | alternate =>
            have score : y.scoreChanged = [] := bound
            rw [here, Option.map_some, Option.getD_some, score]
            rfl
      · rfl

end World

end TankoGeddon
