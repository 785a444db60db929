import TankoGeddon.Foundation.Table
import TankoGeddon.GameStruct

/-! Who owns what: the level with everything but links forgotten.

A pawn holds cannons in two slots, a cannon knows the pawn it was spawned for and
tells it its score exactly when it is a main cannon, and a projectile is either an
element of a pool, with no links at all, or belongs to the cannon that launched
it. Of a cannon's timers only whether one is pending is kept. The moves below are
all the ways these links change.
-/

set_option autoImplicit false

namespace TankoGeddon

open Foundation (getElem?_concat)

inductive Slot where
  | main
  | alternate
  deriving DecidableEq

structure PawnLink where
  cannon : Option CannonId
  alternateCannon : Option CannonId
  destroyed : Bool

structure CannonLink where
  owner : Option Actor
  instigator : Option PawnId
  destroyed : Bool
  scoreChanged : List PawnId
  pending : Bool

structure ProjectileLink where
  owner : Option Actor
  onKilled : List CannonId
  launcher : Option CannonId

@[ext]
structure Links where
  pawns : List PawnLink
  cannons : List CannonLink
  projectiles : List ProjectileLink
  pools : List (List ProjectileId)

def PawnLink.slot (x : PawnLink) : Slot → Option CannonId
  | .main => x.cannon
  | .alternate => x.alternateCannon

def PawnLink.put (x : PawnLink) (s : Slot) (c : CannonId) : PawnLink :=
  match s with
  | .main => { x with cannon := some c }
  | .alternate => { x with alternateCannon := some c }

@[simp] theorem PawnLink.slot_put (x : PawnLink) (s : Slot) (c : CannonId) :
    (x.put s c).slot s = some c := by cases s <;> rfl

theorem PawnLink.slot_put_ne (x : PawnLink) {s other : Slot} (c : CannonId) (ne : other ≠ s) :
    (x.put s c).slot other = x.slot other := by
  cases s <;> cases other <;> first | rfl | exact absurd rfl ne

@[simp] theorem PawnLink.put_destroyed (x : PawnLink) (s : Slot) (c : CannonId) :
    (x.put s c).destroyed = x.destroyed := by cases s <;> rfl

/-- The score bindings of a cannon in a slot: only the main one is bound. -/
def Slot.bindings (s : Slot) (p : PawnId) : List PawnId :=
  match s with
  | .main => [p]
  | .alternate => []

theorem Slot.bindings_injective {s other : Slot} {p : PawnId} (same : s.bindings p = other.bindings p) :
    s = other := by
  cases s <;> cases other <;> simp_all [bindings]

def CannonLink.destroy (y : CannonLink) : CannonLink :=
  { y with owner := none, destroyed := true, pending := false }

/-- A new cannon for a slot of a pawn. -/
def CannonLink.fresh (p : PawnId) (s : Slot) : CannonLink :=
  ⟨some (.pawn p), some p, false, s.bindings p, false⟩

namespace Links

def Pooled (k : Links) (j : ProjectileId) : Prop := ∃ array ∈ k.pools, j ∈ array

def destroyOld (k : Links) : Option CannonId → Links
  | some c => { k with cannons := k.cannons.modify c CannonLink.destroy }
  | none => k

/-- Destroy what the slot of the pawn holds and put a new cannon there. -/
def arm (k : Links) (p : PawnId) (s : Slot) : Links :=
  let k' := k.destroyOld (k.pawns[p]?.bind (·.slot s))
  { k' with
    cannons := k'.cannons ++ [CannonLink.fresh p s]
    pawns := k.pawns.modify p (·.put s k.cannons.length) }

def die (k : Links) (p : PawnId) : Links :=
  let k' := k.destroyOld (k.pawns[p]?.bind (·.slot .main))
  { k' with pawns := k.pawns.modify p fun x => { x with destroyed := true } }

def addPool (k : Links) (n : Nat) : Links :=
  { k with
    pools := k.pools ++ [List.range' k.projectiles.length n]
    projectiles := k.projectiles ++ List.replicate n ⟨none, [], none⟩ }

inductive Move (k : Links) : Links → Prop where
  | arm {p : PawnId} {x : PawnLink} (s : Slot) (found : k.pawns[p]? = some x)
      (alive : x.destroyed = false) : Move k (k.arm p s)
  | die {p : PawnId} {x : PawnLink} (found : k.pawns[p]? = some x) : Move k (k.die p)
  | launch (c : CannonId) (there : c < k.cannons.length) :
      Move k { k with projectiles := k.projectiles ++ [⟨some (.cannon c), [c], some c⟩] }
  | recycle (j : ProjectileId) (c : CannonId) (pooled : k.Pooled j) :
      Move k { k with projectiles := k.projectiles.modify j fun q => { q with launcher := some c } }
  | extend (i : PoolId) (c : CannonId) (there : i < k.pools.length) :
      Move k { k with
        pools := k.pools.modify i (· ++ [k.projectiles.length])
        projectiles := k.projectiles ++ [⟨none, [], some c⟩] }
  | addPool (n : Nat) : Move k (k.addPool n)
  | tick {c : CannonId} {y : CannonLink} (pending : Bool) (found : k.cannons[c]? = some y)
      (alive : y.destroyed = false) :
      Move k { k with cannons := k.cannons.modify c fun y => { y with pending } }

/-- The links are in order: what a slot holds knows its pawn, is bound exactly
when the slot is the main one and is alive unless `Die` took it; every live cannon
is in a slot; a projectile is bare in a pool or belongs to the cannon that launched it. -/
structure Wired (k : Links) : Prop where
  slot : ∀ (p : PawnId) (x : PawnLink) (s : Slot) (c : CannonId),
    k.pawns[p]? = some x → x.slot s = some c →
    ∃ y : CannonLink, k.cannons[c]? = some y ∧ y.instigator = some p ∧
      y.scoreChanged = s.bindings p ∧ ((s = .main → x.destroyed = false) → y.destroyed = false)
  dead : ∀ (c : CannonId) (y : CannonLink),
    k.cannons[c]? = some y → y.destroyed = true → y.owner = none ∧ y.pending = false
  live : ∀ (c : CannonId) (y : CannonLink), k.cannons[c]? = some y → y.destroyed = false →
    ∃ (p : PawnId) (x : PawnLink) (s : Slot), y.instigator = some p ∧ k.pawns[p]? = some x ∧
      y.owner = some (.pawn p) ∧ x.slot s = some c ∧ (s = .main → x.destroyed = false)
  projectile : ∀ (j : ProjectileId) (q : ProjectileLink), k.projectiles[j]? = some q →
    (k.Pooled j ∧ q.owner = none ∧ q.onKilled = []) ∨
    (¬ k.Pooled j ∧ ∃ c, c < k.cannons.length ∧ q = ⟨some (.cannon c), [c], some c⟩)
  pooled : ∀ j, k.Pooled j → j < k.projectiles.length

theorem destroyOld_pawns (k : Links) (old : Option CannonId) : (k.destroyOld old).pawns = k.pawns := by
  cases old <;> rfl

theorem destroyOld_length (k : Links) (old : Option CannonId) :
    (k.destroyOld old).cannons.length = k.cannons.length := by
  cases old <;> simp [destroyOld]

/-- Only the cannon named changes. -/
theorem destroyOld_get (k : Links) (old : Option CannonId) (c : CannonId) :
    (k.destroyOld old).cannons[c]? =
      k.cannons[c]?.map fun y => if old = some c then y.destroy else y := by
  cases old with
  | none => simp [destroyOld]
  | some o =>
      simp only [destroyOld, List.getElem?_modify, Option.some.injEq]
      rfl

namespace Wired

variable {k : Links}

/-- A cannon sits in one slot of one pawn. -/
theorem slot_unique (wired : k.Wired) {p p' : PawnId} {x x' : PawnLink} {s s' : Slot} {c : CannonId}
    (found : k.pawns[p]? = some x) (holds : x.slot s = some c)
    (found' : k.pawns[p']? = some x') (holds' : x'.slot s' = some c) : p = p' ∧ s = s' := by
  obtain ⟨y, cannon, instigator, bound, _⟩ := wired.slot p x s c found holds
  obtain ⟨y', cannon', instigator', bound', _⟩ := wired.slot p' x' s' c found' holds'
  obtain rfl : y = y' := by simpa [cannon] using cannon'
  obtain rfl : p = p' := by simpa [instigator] using instigator'
  exact ⟨rfl, Slot.bindings_injective (bound.symm.trans bound')⟩

/-- The cannon clauses alone, kept by every move that leaves pawns and cannons. -/
theorem of_projectiles (wired : k.Wired) {k' : Links} (pawns : k'.pawns = k.pawns)
    (cannons : k'.cannons = k.cannons)
    (projectile : ∀ (j : ProjectileId) (q : ProjectileLink), k'.projectiles[j]? = some q →
      (k'.Pooled j ∧ q.owner = none ∧ q.onKilled = []) ∨
      (¬ k'.Pooled j ∧ ∃ c, c < k.cannons.length ∧ q = ⟨some (.cannon c), [c], some c⟩))
    (pooled : ∀ j, k'.Pooled j → j < k'.projectiles.length) : k'.Wired where
  slot := by rw [pawns, cannons]; exact wired.slot
  dead := by rw [cannons]; exact wired.dead
  live := by rw [pawns, cannons]; exact wired.live
  projectile := by rw [cannons]; exact projectile
  pooled := pooled

/-- The projectile clauses are kept by every move that leaves projectiles and pools,
as cannons are never taken off the list. -/
theorem of_cannons (wired : k.Wired) {k' : Links} (projectiles : k'.projectiles = k.projectiles)
    (pools : k'.pools = k.pools) (longer : k.cannons.length ≤ k'.cannons.length)
    (slot : ∀ (p : PawnId) (x : PawnLink) (s : Slot) (c : CannonId),
      k'.pawns[p]? = some x → x.slot s = some c →
      ∃ y : CannonLink, k'.cannons[c]? = some y ∧ y.instigator = some p ∧
        y.scoreChanged = s.bindings p ∧ ((s = .main → x.destroyed = false) → y.destroyed = false))
    (dead : ∀ (c : CannonId) (y : CannonLink),
      k'.cannons[c]? = some y → y.destroyed = true → y.owner = none ∧ y.pending = false)
    (live : ∀ (c : CannonId) (y : CannonLink), k'.cannons[c]? = some y → y.destroyed = false →
      ∃ (p : PawnId) (x : PawnLink) (s : Slot), y.instigator = some p ∧ k'.pawns[p]? = some x ∧
        y.owner = some (.pawn p) ∧ x.slot s = some c ∧ (s = .main → x.destroyed = false)) :
    k'.Wired where
  slot := slot
  dead := dead
  live := live
  projectile := by
    intro j q found
    rw [projectiles] at found
    rcases wired.projectile j q found with ⟨pooled, bare⟩ | ⟨free, c, there, link⟩
    · exact .inl ⟨by rwa [Pooled, pools], bare⟩
    · exact .inr ⟨by rwa [Pooled, pools], c, there.trans_le longer, link⟩
  pooled := by
    intro j pooled
    rw [Pooled, pools] at pooled
    rw [projectiles]
    exact wired.pooled j pooled

theorem initial (pawns : List PawnLink)
    (bare : ∀ x ∈ pawns, ∀ s : Slot, x.slot s = none) : Wired ⟨pawns, [], [], []⟩ where
  slot p x s c found holds := by
    have none := bare x (List.mem_of_getElem? found) s
    simp [none] at holds
  dead c y found := by simp at found
  live c y found := by simp at found
  projectile j q found := by simp at found
  pooled j pooled := by simp [Pooled] at pooled

theorem destroyOld_dead (wired : k.Wired) {old : Option CannonId} {c : CannonId} {y : CannonLink}
    (cannon : (k.destroyOld old).cannons[c]? = some y) (destroyed : y.destroyed = true) :
    y.owner = none ∧ y.pending = false := by
  rw [destroyOld_get] at cannon
  obtain ⟨y₀, before, rfl⟩ := Option.map_eq_some_iff.mp cannon
  by_cases hit : old = some c
  · rw [if_pos hit]
    exact ⟨rfl, rfl⟩
  · rw [if_neg hit] at destroyed ⊢
    exact wired.dead c y₀ before destroyed

/-- A live cannon was live before and does not sit in the slot that was cleared. -/
theorem destroyOld_live {old : Option CannonId} {c : CannonId} {y : CannonLink}
    (cannon : (k.destroyOld old).cannons[c]? = some y) (alive : y.destroyed = false) :
    k.cannons[c]? = some y ∧ old ≠ some c := by
  rw [destroyOld_get] at cannon
  obtain ⟨y₀, before, rfl⟩ := Option.map_eq_some_iff.mp cannon
  split at alive
  · cases alive
  · next other => exact ⟨by rw [if_neg other]; exact before, other⟩

/-- Clearing a slot leaves the cannons of all other slots as they are. -/
theorem survives (wired : k.Wired) {p p' : PawnId} {x x' : PawnLink} {s s' : Slot} {c : CannonId}
    (found : k.pawns[p]? = some x) (found' : k.pawns[p']? = some x') (holds' : x'.slot s' = some c)
    (elsewhere : ¬ (p = p' ∧ s = s')) :
    (k.destroyOld (x.slot s)).cannons[c]? = k.cannons[c]? := by
  have other : x.slot s ≠ some c := fun same => elsewhere (wired.slot_unique found same found' holds')
  rw [destroyOld_get]
  simp [other]

theorem arm (wired : k.Wired) {p : PawnId} {x : PawnLink} (s : Slot) (found : k.pawns[p]? = some x)
    (alive : x.destroyed = false) : (k.arm p s).Wired := by
  have size := destroyOld_length k (x.slot s)
  have old : k.pawns[p]?.bind (·.slot s) = x.slot s := by rw [found]; rfl
  have cannons : (k.arm p s).cannons = (k.destroyOld (x.slot s)).cannons ++ [.fresh p s] := by
    rw [Links.arm, old]
  have armed : (k.arm p s).pawns[p]? = some (x.put s k.cannons.length) := by simp [Links.arm, found]
  have others : ∀ p', p ≠ p' → (k.arm p s).pawns[p']? = k.pawns[p']? := by
    intro p' ne
    simp [Links.arm, ne]
  have rest : (k.arm p s).projectiles = k.projectiles ∧ (k.arm p s).pools = k.pools := by
    rw [Links.arm, old]
    cases x.slot s <;> exact ⟨rfl, rfl⟩
  have longer : k.cannons.length ≤ (k.arm p s).cannons.length := by simp [cannons, size]
  refine wired.of_cannons rest.1 rest.2 longer ?slot ?dead ?live
  case slot =>
    intro p' x' s' c found' holds'
    by_cases new : p = p' ∧ s = s'
    · obtain ⟨rfl, rfl⟩ := new
      obtain rfl : x.put s k.cannons.length = x' := by simpa [armed] using found'
      obtain rfl : k.cannons.length = c := by simpa using holds'
      refine ⟨CannonLink.fresh p s, ?_, rfl, rfl, fun _ => rfl⟩
      simp [cannons, ← size]
    -- a slot other than the one armed holds what it held
    · obtain ⟨x₀, before, kept, state⟩ : ∃ x₀, k.pawns[p']? = some x₀ ∧ x₀.slot s' = x'.slot s' ∧
          x₀.destroyed = x'.destroyed := by
        by_cases same : p = p'
        · subst same
          obtain rfl : x.put s k.cannons.length = x' := by simpa [armed] using found'
          have ne : s' ≠ s := fun h => new ⟨rfl, h.symm⟩
          exact ⟨x, found, (x.slot_put_ne _ ne).symm, (x.put_destroyed _ _).symm⟩
        · exact ⟨x', by rw [← others p' same]; exact found', rfl, rfl⟩
      rw [← kept] at holds'
      obtain ⟨y, cannon, known⟩ := wired.slot p' x₀ s' c before holds'
      refine ⟨y, ?_, state ▸ known⟩
      rw [cannons, List.getElem?_append_left, wired.survives found before holds' new, cannon]
      rw [size]
      exact (List.getElem?_eq_some_iff.mp cannon).1
  case dead =>
    intro c y cannon destroyed
    rw [cannons, List.getElem?_append] at cannon
    split at cannon
    · exact wired.destroyOld_dead cannon destroyed
    · obtain rfl : CannonLink.fresh p s = y := by simp_all [List.getElem?_singleton]
      cases destroyed
  case live =>
    intro c y cannon live
    rw [cannons, List.getElem?_append] at cannon
    split at cannon
    · obtain ⟨before, other⟩ := destroyOld_live cannon live
      obtain ⟨p', x', s', instigator, found', owner, holds', state⟩ := wired.live c y before live
      by_cases same : p = p'
      · subst same
        obtain rfl : x = x' := by simpa [found] using found'
        have ne : s' ≠ s := by rintro rfl; exact other holds'
        exact ⟨p, _, s', instigator, armed, owner, by rw [x.slot_put_ne _ ne]; exact holds',
          by simpa using state⟩
      · exact ⟨p', x', s', instigator, by rw [others p' same]; exact found', owner, holds', state⟩
    · next last =>
      have here : c - (k.destroyOld (x.slot s)).cannons.length = 0 ∧ CannonLink.fresh p s = y := by
        simpa [List.getElem?_singleton] using cannon
      obtain rfl : k.cannons.length = c := by
        rw [size] at here last
        exact Nat.le_antisymm (Nat.le_of_not_lt last) (Nat.sub_eq_zero_iff_le.mp here.1)
      rw [← here.2]
      exact ⟨p, _, s, rfl, armed, rfl, x.slot_put _ _, fun _ => by simpa using alive⟩

theorem die (wired : k.Wired) {p : PawnId} {x : PawnLink} (found : k.pawns[p]? = some x) :
    (k.die p).Wired := by
  have size := destroyOld_length k (x.slot .main)
  have old : k.pawns[p]?.bind (·.slot .main) = x.slot .main := by rw [found]; rfl
  have cannons : (k.die p).cannons = (k.destroyOld (x.slot .main)).cannons := by rw [Links.die, old]
  have dying : (k.die p).pawns[p]? = some { x with destroyed := true } := by simp [Links.die, found]
  have others : ∀ p', p ≠ p' → (k.die p).pawns[p']? = k.pawns[p']? := by
    intro p' ne
    simp [Links.die, ne]
  have rest : (k.die p).projectiles = k.projectiles ∧ (k.die p).pools = k.pools := by
    rw [Links.die, old]
    cases x.slot .main <;> exact ⟨rfl, rfl⟩
  have longer : k.cannons.length ≤ (k.die p).cannons.length := by rw [cannons, size]
  refine wired.of_cannons rest.1 rest.2 longer ?slot ?dead ?live
  case slot =>
    intro p' x' s' c found' holds'
    by_cases same : p = p'
    · subst same
      obtain rfl : { x with destroyed := true } = x' := by simpa [dying] using found'
      have holds : x.slot s' = some c := by cases s' <;> exact holds'
      obtain ⟨y, cannon, instigator, bound, state⟩ := wired.slot p x s' c found holds
      cases s' with
      | main =>
          refine ⟨y.destroy, ?_, instigator, bound, fun alive => nomatch alive rfl⟩
          rw [cannons, destroyOld_get, cannon]
          simp [holds]
      | alternate =>
          refine ⟨y, ?_, instigator, bound, fun _ => state (fun h => nomatch h)⟩
          rw [cannons, wired.survives found found holds (by simp), cannon]
    · rw [others p' same] at found'
      obtain ⟨y, cannon, known⟩ := wired.slot p' x' s' c found' holds'
      refine ⟨y, ?_, known⟩
      rw [cannons, wired.survives found found' holds' (fun h => same h.1), cannon]
  case dead =>
    intro c y cannon destroyed
    rw [cannons] at cannon
    exact wired.destroyOld_dead cannon destroyed
  case live =>
    intro c y cannon live
    rw [cannons] at cannon
    obtain ⟨before, other⟩ := destroyOld_live cannon live
    obtain ⟨p', x', s', instigator, found', owner, holds', state⟩ := wired.live c y before live
    by_cases same : p = p'
    · subst same
      obtain rfl : x = x' := by simpa [found] using found'
      have alternate : s' = .alternate := by
        cases s' with
        | main => exact absurd holds' other
        | alternate => rfl
      subst alternate
      exact ⟨p, _, .alternate, instigator, dying, owner, holds', fun h => nomatch h⟩
    · exact ⟨p', x', s', instigator, by rw [others p' same]; exact found', owner, holds', state⟩

theorem launch (wired : k.Wired) {c : CannonId} (there : c < k.cannons.length) :
    Wired { k with projectiles := k.projectiles ++ [⟨some (.cannon c), [c], some c⟩] } := by
  refine wired.of_projectiles rfl rfl ?_ ?_
  · intro j q found
    rcases getElem?_concat found with before | ⟨rfl, rfl⟩
    · exact wired.projectile j q before
    · exact .inr ⟨fun pooled => Nat.lt_irrefl _ (wired.pooled _ pooled), c, there, rfl⟩
  · intro j pooled
    rw [List.length_append]
    exact Nat.lt_add_right 1 (wired.pooled j pooled)

theorem recycle (wired : k.Wired) {j : ProjectileId} (c : CannonId) (pooled : k.Pooled j) :
    Wired { k with projectiles := k.projectiles.modify j fun q => { q with launcher := some c } } := by
  refine wired.of_projectiles rfl rfl ?_ ?_
  · intro i q found
    rw [List.getElem?_modify] at found
    obtain ⟨q₀, before, rfl⟩ := Option.map_eq_some_iff.mp found
    rcases wired.projectile i q₀ before with ⟨member, bare⟩ | ⟨free, c', there, link⟩
    · refine .inl ⟨member, ?_⟩
      split <;> exact bare
    · have other : j ≠ i := by rintro rfl; exact free pooled
      refine .inr ⟨free, c', there, ?_⟩
      rw [if_neg other]
      exact link
  · intro i member
    rw [List.length_modify]
    exact wired.pooled i member

/-- New elements of a pool are bare and no projectile changes sides. -/
theorem grow (wired : k.Wired) {pools : List (List ProjectileId)} {added : List ProjectileLink}
    (bare : ∀ q ∈ added, q.owner = none ∧ q.onKilled = [])
    (members : ∀ j, (∃ array ∈ pools, j ∈ array) ↔
      k.Pooled j ∨ k.projectiles.length ≤ j ∧ j < k.projectiles.length + added.length) :
    Wired { k with pools, projectiles := k.projectiles ++ added } := by
  refine wired.of_projectiles rfl rfl ?_ ?_
  · intro j q found
    rw [List.getElem?_append] at found
    have inside : Pooled { k with pools, projectiles := k.projectiles ++ added } j ↔ _ := members j
    rw [inside]
    split at found
    · next before =>
      rcases wired.projectile j q found with ⟨pooled, bare⟩ | ⟨free, link⟩
      · exact .inl ⟨.inl pooled, bare⟩
      · refine .inr ⟨?_, link⟩
        rintro (pooled | late)
        · exact free pooled
        · exact Nat.not_le_of_lt before late.1
    · next late =>
      have low := Nat.le_of_not_lt late
      have size := (List.getElem?_eq_some_iff.mp found).1
      refine .inl ⟨.inr ⟨low, ?_⟩, bare q (List.mem_of_getElem? found)⟩
      exact (Nat.sub_lt_iff_lt_add' low).mp size
  · intro j pooled
    rw [List.length_append]
    rcases (members j).mp pooled with before | late
    · exact Nat.lt_add_right _ (wired.pooled j before)
    · exact late.2

theorem extend (wired : k.Wired) {i : PoolId} (c : CannonId) (there : i < k.pools.length) :
    Wired { k with
      pools := k.pools.modify i (· ++ [k.projectiles.length])
      projectiles := k.projectiles ++ [⟨none, [], some c⟩] } := by
  refine wired.grow ?_ ?_
  · intro q member
    rw [List.mem_singleton.mp member]
    exact ⟨rfl, rfl⟩
  · intro j
    constructor
    · rintro ⟨array, member, inside⟩
      obtain ⟨i', found⟩ := List.getElem?_of_mem member
      rw [List.getElem?_modify] at found
      obtain ⟨array₀, before, rfl⟩ := Option.map_eq_some_iff.mp found
      split at inside
      · rcases List.mem_append.mp inside with old | new
        · exact .inl ⟨array₀, List.mem_of_getElem? before, old⟩
        · obtain rfl := List.mem_singleton.mp new
          exact .inr ⟨le_refl _, by simp⟩
      · exact .inl ⟨array₀, List.mem_of_getElem? before, inside⟩
    · rintro (⟨array, member, inside⟩ | ⟨low, high⟩)
      · obtain ⟨i', found⟩ := List.getElem?_of_mem member
        refine ⟨_, List.mem_of_getElem? (i := i') (by rw [List.getElem?_modify, found]; rfl), ?_⟩
        show j ∈ ite _ _ _
        split
        · exact List.mem_append_left _ inside
        · exact inside
      · have here : j = k.projectiles.length := Nat.le_antisymm (Nat.lt_succ_iff.mp high) low
        refine ⟨k.pools[i] ++ [j], List.mem_of_getElem? (i := i) ?_, by simp⟩
        simp [here, there]

theorem addPool (wired : k.Wired) (n : Nat) : (k.addPool n).Wired := by
  refine wired.grow ?_ ?_
  · intro q member
    rw [List.eq_of_mem_replicate member]
    exact ⟨rfl, rfl⟩
  · intro j
    simp only [List.mem_append, List.mem_singleton, Pooled, or_and_right, exists_or, exists_eq_left,
      List.mem_range'_1, List.length_replicate]

theorem tick (wired : k.Wired) {c : CannonId} {y : CannonLink} (pending : Bool)
    (found : k.cannons[c]? = some y) (alive : y.destroyed = false) :
    Wired { k with cannons := k.cannons.modify c fun y => { y with pending } } := by
  have lookup : ∀ (c' : CannonId) (y₀ : CannonLink), k.cannons[c']? = some y₀ →
      ∃ y' : CannonLink, (k.cannons.modify c fun y => { y with pending })[c']? = some y' ∧
        (y' = y₀ ∨ y₀ = y ∧ y' = { y with pending }) := by
    intro c' y₀ before
    by_cases same : c = c'
    · subst same
      obtain rfl : y = y₀ := by simpa [found] using before
      exact ⟨{ y with pending }, by simp [found], .inr ⟨rfl, rfl⟩⟩
    · exact ⟨y₀, by simp [same, before], .inl rfl⟩
  have backward : ∀ (c' : CannonId) (y' : CannonLink),
      (k.cannons.modify c fun y => { y with pending })[c']? = some y' →
      ∃ y₀, k.cannons[c']? = some y₀ ∧ (y' = y₀ ∨ y₀ = y ∧ y' = { y with pending }) := by
    intro c' y' here
    rw [List.getElem?_modify] at here
    obtain ⟨y₀, before, _⟩ := Option.map_eq_some_iff.mp here
    obtain ⟨y'', after, form⟩ := lookup c' y₀ before
    rw [List.getElem?_modify] at after
    obtain rfl : y'' = y' := Option.some.inj (after.symm.trans here)
    exact ⟨y₀, before, form⟩
  refine wired.of_cannons rfl rfl (by rw [List.length_modify]) ?slot ?dead ?live
  case slot =>
    intro p x s c' pawn holds
    obtain ⟨y₀, before, known⟩ := wired.slot p x s c' pawn holds
    obtain ⟨y', after, form⟩ := lookup c' y₀ before
    refine ⟨y', after, ?_⟩
    rcases form with rfl | ⟨rfl, rfl⟩ <;> exact known
  case dead =>
    intro c' y' here destroyed
    obtain ⟨y₀, before, rfl | ⟨rfl, rfl⟩⟩ := backward c' y' here
    · exact wired.dead c' y' before destroyed
    · simp [alive] at destroyed
  case live =>
    intro c' y' here live
    obtain ⟨y₀, before, rfl | ⟨rfl, rfl⟩⟩ := backward c' y' here
    · exact wired.live c' y' before live
    · exact wired.live c' y₀ before live

end Wired

theorem Move.wired {k k' : Links} (move : Move k k') (wired : k.Wired) : k'.Wired := by
  cases move with
  | arm s found alive => exact wired.arm s found alive
  | die found => exact wired.die found
  | launch c there => exact wired.launch there
  | recycle j c pooled => exact wired.recycle c pooled
  | extend i c there => exact wired.extend c there
  | addPool n => exact wired.addPool n
  | tick pending found alive => exact wired.tick pending found alive

end Links

end TankoGeddon
