import Mathlib.Data.List.Range
import Mathlib.Data.List.Perm.Subperm
import TankoGeddon.Foundation.Table
import TankoGeddon.GameStruct

/-! Where projectiles are when they do not fly.

Of a level only this is kept: which cannons live, whether a cannon launches from its
pool and which pool that is, the arrays of the pools, which projectiles fly, and which
a pool would hand out again once they do not. Projectiles and pools are never destroyed,
so what no live cannon reaches is lost, and so is what its pool takes to be in use for ever.
-/

set_option autoImplicit false

namespace TankoGeddon

open Foundation (getElem?_concat countP_positions)

/-- A cannon as the depot knows it. -/
structure Mount where
  alive : Bool
  launches : Bool
  pool : Option PoolId
  deriving DecidableEq

/-- A projectile as the depot knows it. One that `returns` is not flagged as in use, or
a pending timer will take the flag down. -/
structure Shot where
  flies : Bool
  returns : Bool
  deriving DecidableEq

/-- What has been put away, or was never launched. -/
def Shot.stored : Shot := ⟨false, true⟩

@[ext]
structure Depot where
  mounts : List Mount
  pools : List (List ProjectileId)
  shots : List Shot

namespace Depot

/-- The elements of the pool of a mount. -/
def array (d : Depot) (m : Mount) : List ProjectileId := (m.pool.bind (d.pools[·]?)).getD []

/-- In the pool of a live cannon that launches from it. -/
def Shelved (d : Depot) (j : ProjectileId) : Prop :=
  ∃ m ∈ d.mounts, m.alive = true ∧ m.launches = true ∧ j ∈ d.array m

/-- In flight, or where a live cannon can launch it again. -/
def Settled (d : Depot) (j : ProjectileId) (shot : Shot) : Prop :=
  shot.flies = true ∨ shot.returns = true ∧ d.Shelved j

/-- The pool of a live cannon. -/
def Kept (d : Depot) (k : PoolId) : Prop := ∃ m ∈ d.mounts, m.alive = true ∧ m.pool = some k

/-- What the slot holds has no pool. -/
def Bare (d : Depot) (slot : Option CannonId) : Prop :=
  ∀ m, slot.bind (d.mounts[·]?) = some m → m.pool = none

structure Reclaimed (d : Depot) : Prop where
  projectile : ∀ (j : ProjectileId) (shot : Shot), d.shots[j]? = some shot → d.Settled j shot
  pool : ∀ k < d.pools.length, d.Kept k

instance (d : Depot) (j : ProjectileId) : Decidable (d.Shelved j) :=
  inferInstanceAs (Decidable (∃ m ∈ d.mounts, m.alive = true ∧ m.launches = true ∧ j ∈ d.array m))

instance (d : Depot) (j : ProjectileId) (shot : Shot) : Decidable (d.Settled j shot) :=
  inferInstanceAs (Decidable (shot.flies = true ∨ shot.returns = true ∧ d.Shelved j))

instance (d : Depot) (k : PoolId) : Decidable (d.Kept k) :=
  inferInstanceAs (Decidable (∃ m ∈ d.mounts, m.alive = true ∧ m.pool = some k))

theorem reclaimed_iff_bounded (d : Depot) :
    ((∀ j < d.shots.length, ∀ shot ∈ d.shots[j]?, d.Settled j shot) ∧ ∀ k < d.pools.length, d.Kept k) ↔
      d.Reclaimed := by
  constructor
  · rintro ⟨projectile, pool⟩
    exact ⟨fun j shot known => projectile j (List.getElem?_eq_some_iff.mp known).1 shot known, pool⟩
  · rintro ⟨projectile, pool⟩
    exact ⟨fun j _ shot known => projectile j shot known, pool⟩

instance (d : Depot) : Decidable d.Reclaimed := decidable_of_iff _ d.reclaimed_iff_bounded

/-- The numbers are in range, and no two cannons share a pool. -/
structure Sound (d : Depot) : Prop where
  element : ∀ array ∈ d.pools, ∀ j ∈ array, j < d.shots.length
  pool : ∀ m ∈ d.mounts, ∀ k, m.pool = some k → k < d.pools.length
  own : ∀ (c c' : CannonId) (m m' : Mount) (k : PoolId), d.mounts[c]? = some m → d.mounts[c']? = some m' →
    m.pool = some k → m'.pool = some k → c = c'

/-! The moves. -/

def destroy (d : Depot) (c : CannonId) : Depot :=
  { d with mounts := d.mounts.modify c fun m => { m with alive := false } }

/-- The projectile starts, with its timers or without, or stops. -/
def set (d : Depot) (j : ProjectileId) (shot : Shot) : Depot :=
  { d with shots := d.shots.modify j fun _ => shot }

/-- A projectile outside all pools. -/
def spawn (d : Depot) (shot : Shot) : Depot := { d with shots := d.shots ++ [shot] }

/-- One more element of a pool. -/
def extend (d : Depot) (k : PoolId) (shot : Shot) : Depot :=
  { d with
    pools := d.pools.modify k (· ++ [d.shots.length])
    shots := d.shots ++ [shot] }

/-- A new cannon, with a pool of so many idle elements or without a pool. -/
def mount (d : Depot) (launches : Bool) : Option Nat → Depot
  | some n =>
      { mounts := d.mounts ++ [⟨true, launches, some d.pools.length⟩]
        pools := d.pools ++ [List.range' d.shots.length n]
        shots := d.shots ++ List.replicate n Shot.stored }
  | none => { d with mounts := d.mounts ++ [⟨true, launches, none⟩] }

def destroyOld (d : Depot) : Option CannonId → Depot
  | some c => d.destroy c
  | none => d

/-- What a slot holds is replaced. -/
def arm (d : Depot) (old : Option CannonId) (launches : Bool) (stock : Option Nat) : Depot :=
  (d.destroyOld old).mount launches stock

variable {d : Depot}

theorem Settled.imp {d' : Depot} {j : ProjectileId} {shot : Shot} (settled : d.Settled j shot)
    (keeps : d.Shelved j → d'.Shelved j) : d'.Settled j shot := by
  rcases settled with flies | ⟨returns, shelved⟩
  · exact .inl flies
  · exact .inr ⟨returns, keeps shelved⟩

/-! Destruction. -/

theorem Sound.destroy (sound : d.Sound) (c : CannonId) : (d.destroy c).Sound := by
  have same : ∀ (i : CannonId) (m : Mount), (d.destroy c).mounts[i]? = some m →
      ∃ old, d.mounts[i]? = some old ∧ old.pool = m.pool := by
    intro i m found
    rw [Depot.destroy, List.getElem?_modify] at found
    obtain ⟨old, here, same⟩ := Option.map_eq_some_iff.mp found
    refine ⟨old, here, ?_⟩
    rw [← same]
    split <;> rfl
  refine ⟨sound.element, ?_, ?_⟩
  · intro m member k holds
    obtain ⟨i, found⟩ := List.mem_iff_getElem?.mp member
    obtain ⟨old, here, pool⟩ := same i m found
    exact sound.pool old (List.mem_of_getElem? here) k (pool.trans holds)
  · intro i i' m m' k found found' holds holds'
    obtain ⟨old, here, pool⟩ := same i m found
    obtain ⟨old', here', pool'⟩ := same i' m' found'
    exact sound.own i i' old old' k here here' (pool.trans holds) (pool'.trans holds')

theorem Sound.set (sound : d.Sound) (j : ProjectileId) (shot : Shot) : (d.set j shot).Sound := by
  refine ⟨?_, sound.pool, sound.own⟩
  intro array member i inside
  rw [Depot.set, List.length_modify]
  exact sound.element array member i inside

theorem Sound.spawn (sound : d.Sound) (shot : Shot) : (d.spawn shot).Sound := by
  refine ⟨?_, sound.pool, sound.own⟩
  intro array member i inside
  have old := sound.element array member i inside
  simp only [Depot.spawn, List.length_append, List.length_singleton]
  exact Nat.lt_succ_of_lt old

theorem Sound.extend (sound : d.Sound) (k : PoolId) (shot : Shot) : (d.extend k shot).Sound := by
  refine ⟨?_, ?_, sound.own⟩
  · intro array member i inside
    obtain ⟨k', found⟩ := List.mem_iff_getElem?.mp member
    rw [Depot.extend, List.getElem?_modify] at found
    obtain ⟨elements, here, same⟩ := Option.map_eq_some_iff.mp found
    have old := sound.element elements (List.mem_of_getElem? here) i
    simp only [Depot.extend, List.length_append, List.length_singleton]
    split at same
    · rw [← same] at inside
      rcases List.mem_append.mp inside with inside | new
      · exact Nat.lt_succ_of_lt (old inside)
      · rw [List.mem_singleton.mp new]
        exact Nat.lt_succ_self _
    · rw [← same] at inside
      exact Nat.lt_succ_of_lt (old inside)
  · intro m member k' holds
    rw [Depot.extend, List.length_modify]
    exact sound.pool m member k' holds

theorem Sound.mount (sound : d.Sound) (launches : Bool) (stock : Option Nat) : (d.mount launches stock).Sound := by
  cases stock with
  | none =>
      refine ⟨sound.element, ?_, ?_⟩
      · intro m member k holds
        rcases List.mem_append.mp member with old | new
        · exact sound.pool m old k holds
        · obtain rfl := List.mem_singleton.mp new
          cases holds
      · intro c c' m m' k found found' holds holds'
        rcases getElem?_concat found with old | ⟨_, rfl⟩
        · rcases getElem?_concat found' with old' | ⟨_, rfl⟩
          · exact sound.own c c' m m' k old old' holds holds'
          · cases holds'
        · cases holds
  | some n =>
      refine ⟨?_, ?_, ?_⟩
      · intro array member i inside
        simp only [Depot.mount, List.length_append, List.length_replicate]
        rcases List.mem_append.mp member with old | new
        · exact Nat.lt_add_right n (sound.element array old i inside)
        · obtain rfl := List.mem_singleton.mp new
          exact (List.mem_range'_1.mp inside).2
      · intro m member k holds
        simp only [Depot.mount, List.length_append, List.length_singleton]
        rcases List.mem_append.mp member with old | new
        · exact Nat.lt_succ_of_lt (sound.pool m old k holds)
        · obtain rfl := List.mem_singleton.mp new
          obtain rfl := Option.some.inj holds
          exact Nat.lt_succ_self _
      · intro c c' m m' k found found' holds holds'
        rcases getElem?_concat found with old | ⟨here, rfl⟩
        · rcases getElem?_concat found' with old' | ⟨_, rfl⟩
          · exact sound.own c c' m m' k old old' holds holds'
          · obtain rfl := Option.some.inj holds'
            exact absurd (sound.pool m (List.mem_of_getElem? old) _ holds) (lt_irrefl _)
        · rcases getElem?_concat found' with old' | ⟨here', rfl⟩
          · obtain rfl := Option.some.inj holds
            exact absurd (sound.pool m' (List.mem_of_getElem? old') _ holds') (lt_irrefl _)
          · exact here.trans here'.symm

/-- An old cannon finds its pool as it was. -/
theorem array_mount (sound : d.Sound) {m : Mount} (member : m ∈ d.mounts) (launches : Bool) (stock : Option Nat) :
    (d.mount launches stock).array m = d.array m := by
  cases stock with
  | none => rfl
  | some n =>
      unfold array
      cases holds : m.pool with
      | none => rfl
      | some k =>
          have there := sound.pool m member k holds
          simp only [Option.bind_some, mount]
          rw [List.getElem?_append_left there]

/-- The cannon a `mount` adds. -/
def fresh (d : Depot) (launches : Bool) (stock : Option Nat) : Mount :=
  ⟨true, launches, stock.map fun _ => d.pools.length⟩

theorem mount_mounts (d : Depot) (launches : Bool) (stock : Option Nat) :
    (d.mount launches stock).mounts = d.mounts ++ [d.fresh launches stock] := by
  cases stock <;> rfl

theorem array_fresh (d : Depot) (launches : Bool) (stock : Option Nat) :
    (d.mount launches stock).array (d.fresh launches stock) =
      stock.elim [] fun n => List.range' d.shots.length n := by
  cases stock with
  | none => rfl
  | some n => simp [array, fresh, mount]

theorem mount_shots {j : ProjectileId} {shot : Shot} (known : d.shots[j]? = some shot) (launches : Bool)
    (stock : Option Nat) : (d.mount launches stock).shots[j]? = some shot := by
  cases stock with
  | none => exact known
  | some n =>
      simp only [mount]
      rw [List.getElem?_append_left (List.getElem?_eq_some_iff.mp known).1]
      exact known

/-- A new cannon that launches from its pool loses nothing, nor does one whose pool is empty. -/
theorem Reclaimed.mount (before : d.Reclaimed) (sound : d.Sound) {launches : Bool} {stock : Option Nat}
    (fits : ∀ n, stock = some n → launches = true ∨ n = 0) : (d.mount launches stock).Reclaimed := by
  have last : d.fresh launches stock ∈ (d.mount launches stock).mounts := by simp [mount_mounts]
  have old : ∀ m ∈ d.mounts, m ∈ (d.mount launches stock).mounts := by
    intro m member
    simp [mount_mounts, member]
  constructor
  · intro j shot found
    by_cases there : j < d.shots.length
    · have known : d.shots[j]? = some shot := by
        rw [mount_shots (List.getElem?_eq_getElem there) launches stock] at found
        rw [List.getElem?_eq_getElem there, found]
      refine (before.projectile j shot known).imp ?_
      rintro ⟨m, member, alive, able, inside⟩
      refine ⟨m, old m member, alive, able, ?_⟩
      rw [array_mount sound member]
      exact inside
    · cases stock with
      | none => exact absurd (List.getElem?_eq_some_iff.mp found).1 there
      | some n =>
          have inside := (List.getElem?_eq_some_iff.mp found).1
          simp only [Depot.mount, List.length_append, List.length_replicate] at inside
          have stored : shot = Shot.stored := by
            simp only [Depot.mount] at found
            rw [List.getElem?_append_right (Nat.le_of_not_lt there)] at found
            exact List.eq_of_mem_replicate (List.mem_of_getElem? found)
          refine .inr ⟨by rw [stored]; rfl, _, last, rfl, ?_, ?_⟩
          · rcases fits n rfl with able | rfl
            · exact able
            · exact absurd inside there
          · rw [array_fresh]
            exact List.mem_range'_1.mpr ⟨Nat.le_of_not_lt there, inside⟩
  · intro k there
    by_cases known : k < d.pools.length
    · obtain ⟨m, member, alive, holds⟩ := before.pool k known
      exact ⟨m, old m member, alive, holds⟩
    · cases stock with
      | none => exact absurd there known
      | some n =>
          simp only [Depot.mount, List.length_append, List.length_singleton] at there
          refine ⟨_, last, rfl, ?_⟩
          exact congrArg some (Nat.le_antisymm (Nat.le_of_not_lt known) (Nat.le_of_lt_succ there))

theorem Sound.destroyOld (sound : d.Sound) (old : Option CannonId) : (d.destroyOld old).Sound := by
  cases old with
  | none => exact sound
  | some c => exact sound.destroy c

theorem Sound.arm (sound : d.Sound) (old : Option CannonId) (launches : Bool) (stock : Option Nat) :
    (d.arm old launches stock).Sound :=
  (sound.destroyOld old).mount launches stock

/-- The elements of the pools of the live cannons. -/
def stock (d : Depot) : List ProjectileId := (d.mounts.filter (·.alive)).flatMap d.array

theorem Reclaimed.bound (before : d.Reclaimed) : d.shots.countP (fun shot => !shot.flies) ≤ d.stock.length := by
  rw [← countP_positions]
  have distinct : ((List.range d.shots.length).filter fun j => d.shots[j]?.any fun shot => !shot.flies).Nodup :=
    List.nodup_range.filter _
  apply (distinct.subperm _).length_le
  intro j member
  obtain ⟨shot, known, stopped⟩ := (Option.any_eq_true _ _).mp (List.mem_filter.mp member).2
  rcases before.projectile j shot known with flies | ⟨_, m, inside, alive, _, element⟩
  · simp [flies] at stopped
  · exact List.mem_flatMap.mpr ⟨m, List.mem_filter.mpr ⟨inside, alive⟩, element⟩

end Depot

end TankoGeddon
