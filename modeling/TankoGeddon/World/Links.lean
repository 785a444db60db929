import TankoGeddon.Cannon.Transitions
import TankoGeddon.World.Basic
import TankoGeddon.World.Ownership

/-! The links of a level, and what they say of its actors.

Health, score, ammo and positions are forgotten. An update of what is forgotten
leaves the links.
-/

set_option autoImplicit false

namespace TankoGeddon

open Foundation (map_modify map_modify_hidden)

def MachinePawn.link (x : MachinePawn) : PawnLink :=
  ⟨x.cannon, x.alternateCannon, x.bActorIsBeingDestroyed⟩

def Cannon.link (y : Cannon) : CannonLink :=
  ⟨y.owner, y.instigator, y.bActorIsBeingDestroyed, y.scoreChanged,
    y.reloadTimer.isSome || y.burstFireTimer.isSome⟩

def Projectile.link (q : Projectile) : ProjectileLink := ⟨q.owner, q.onKilled, q.launcher⟩

@[simp] theorem MachinePawn.link_destroyed (x : MachinePawn) :
    x.link.destroyed = x.bActorIsBeingDestroyed := rfl

@[simp] theorem Cannon.link_destroyed (y : Cannon) : y.link.destroyed = y.bActorIsBeingDestroyed := rfl

/-- A step of a cannon leaves its links; only what is pending changes. -/
theorem Cannon.Transition.link {y y' : Cannon} {event : Cannon.Event} {outcome : Outcome}
    (move : Cannon.Transition y event y' outcome) :
    y'.link = { y.link with pending := y'.link.pending } := by
  have same := congrArg Cannon.link move.frame
  exact same

namespace World

def links (w : World) : Links :=
  ⟨w.pawns.map MachinePawn.link, w.cannons.map Cannon.link, w.projectiles.map Projectile.link,
    w.pools.map (·.projectilePool)⟩

theorem pawn_link {w : World} {p : PawnId} {x : MachinePawn} (found : w.pawns[p]? = some x) :
    w.links.pawns[p]? = some x.link := by simp [links, found]

theorem cannon_link {w : World} {c : CannonId} {y : Cannon} (found : w.cannons[c]? = some y) :
    w.links.cannons[c]? = some y.link := by simp [links, found]

theorem projectile_link {w : World} {j : ProjectileId} {q : Projectile}
    (found : w.projectiles[j]? = some q) : w.links.projectiles[j]? = some q.link := by simp [links, found]

theorem lookup_pawn {w : World} {p : PawnId} {link : PawnLink} (found : w.links.pawns[p]? = some link) :
    ∃ x, w.pawns[p]? = some x ∧ x.link = link := by simpa [links] using found

theorem lookup_cannon {w : World} {c : CannonId} {link : CannonLink}
    (found : w.links.cannons[c]? = some link) : ∃ y, w.cannons[c]? = some y ∧ y.link = link := by
  simpa [links] using found

theorem lookup_projectile {w : World} {j : ProjectileId} {link : ProjectileLink}
    (found : w.links.projectiles[j]? = some link) : ∃ q, w.projectiles[j]? = some q ∧ q.link = link := by
  simpa [links] using found

theorem links_changePawn (w : World) (p : PawnId) {f : MachinePawn → MachinePawn}
    {g : PawnLink → PawnLink} (commutes : ∀ x, (f x).link = g x.link) :
    (w.updatePawn p f).links = { w.links with pawns := w.links.pawns.modify p g } := by
  simp only [links, updatePawn]
  rw [map_modify MachinePawn.link w.pawns p (g := g) fun x _ => commutes x]

theorem links_changeCannon (w : World) (c : CannonId) {f : Cannon → Cannon}
    {g : CannonLink → CannonLink} (commutes : ∀ y, w.cannons[c]? = some y → (f y).link = g y.link) :
    (w.updateCannon c f).links = { w.links with cannons := w.links.cannons.modify c g } := by
  simp only [links, updateCannon]
  rw [map_modify Cannon.link w.cannons c (g := g) commutes]

theorem links_updatePawn (w : World) (p : PawnId) {f : MachinePawn → MachinePawn}
    (hidden : ∀ x, (f x).link = x.link) : (w.updatePawn p f).links = w.links := by
  rw [links_changePawn w p (g := id) hidden, List.modify_id]

theorem links_updateCannon (w : World) (c : CannonId) {f : Cannon → Cannon}
    (hidden : ∀ y, w.cannons[c]? = some y → (f y).link = y.link) :
    (w.updateCannon c f).links = w.links := by
  rw [links_changeCannon w c (g := id) hidden, List.modify_id]

theorem links_updateProjectile (w : World) (j : ProjectileId) {f : Projectile → Projectile}
    (hidden : ∀ q, (f q).link = q.link) : (w.updateProjectile j f).links = w.links := by
  simp only [links, updateProjectile]
  rw [map_modify_hidden _ _ _ fun q _ => hidden q]

theorem links_destroyOld (w : World) (old : Option CannonId) :
    (w.destroyOld old).links = w.links.destroyOld old := by
  cases old with
  | none => rfl
  | some c => exact links_changeCannon w c fun y _ => rfl

theorem slot_links (w : World) (p : PawnId) (s : Slot) :
    w.links.pawns[p]?.bind (·.slot s) = w.pawns[p]?.bind (·.link.slot s) := by
  simp [links, Option.bind_map]

theorem pawnAlive_iff {w : World} {p : PawnId} :
    w.pawnAlive p = true ↔ ∃ x, w.pawns[p]? = some x ∧ x.bActorIsBeingDestroyed = false := by
  simp [pawnAlive, Option.any_eq_true]

/-- What a live pawn holds is alive. -/
theorem held_alive {w : World} (wired : w.links.Wired) {p : PawnId} {x : MachinePawn} {s : Slot}
    {c : CannonId} {y : Cannon} (found : w.pawns[p]? = some x) (alive : x.bActorIsBeingDestroyed = false)
    (holds : x.link.slot s = some c) (here : w.cannons[c]? = some y) :
    y.bActorIsBeingDestroyed = false := by
  obtain ⟨link, cannon, _, _, state⟩ := wired.slot p x.link s c (pawn_link found) holds
  obtain rfl : y.link = link := by simpa [links, here] using cannon
  exact state fun _ => alive

/-- What has a timer pending is alive. -/
theorem pending_alive {w : World} (wired : w.links.Wired) {c : CannonId} {y : Cannon}
    (here : w.cannons[c]? = some y) (pending : y.link.pending = true) :
    y.bActorIsBeingDestroyed = false := by
  by_contra dead
  have clear := (wired.dead c y.link (cannon_link here) (by simpa using dead)).2
  cases clear.symm.trans pending

theorem reload_pending {y : Cannon} {next : Cannon × Outcome} (acted : y.step .reloadTimer = some next) :
    y.link.pending = true := by
  cases pending : y.reloadTimer with
  | none => simp [Cannon.step, pending] at acted
  | some which => simp [Cannon.link, pending]

theorem burst_pending {y : Cannon} {next : Cannon × Outcome} (acted : y.step .burstFireTimer = some next) :
    y.link.pending = true := by
  cases pending : y.burstFireTimer with
  | none => simp [Cannon.step, pending] at acted
  | some which => simp [Cannon.link, pending]

end World

end TankoGeddon
