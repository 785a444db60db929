import Mathlib.Algebra.Order.Floor.Semiring
import Mathlib.Algebra.Order.Field.Basic
import Mathlib.Data.List.Range
import Mathlib.Data.List.Perm.Subperm
import Mathlib.Tactic.Linarith

/-! Points that keep their distance.

Between two times at least `gap` apart there is room for one mark after each gap, so an
interval bounds how many marks it can hold.
-/

set_option autoImplicit false

namespace Foundation

variable {T : Type} [Field T] [LinearOrder T] [IsStrictOrderedRing T]

/-- Every two points of the list are at least `gap` apart. -/
def Spaced (gap : T) (points : List T) : Prop := points.Pairwise fun a b => gap ≤ |a - b|

/-- Marks in the order of time. -/
theorem Spaced.of_forward {gap : T} {times : List T} (forward : times.Pairwise fun a b => a + gap ≤ b) :
    Spaced gap times := by
  refine forward.imp ?_
  intro a b later
  rw [abs_sub_comm]
  exact (le_sub_iff_add_le'.mpr later).trans (le_abs_self _)

variable [FloorSemiring T]

/-- Two points in one cell are closer than the gap. -/
theorem near_of_cell {gap low a b : T} (positive : 0 < gap) (aboveA : low ≤ a) (aboveB : low ≤ b)
    (cell : ⌊(a - low) / gap⌋₊ = ⌊(b - low) / gap⌋₊) : |a - b| < gap := by
  have scaled : ∀ x, low ≤ x → (⌊(x - low) / gap⌋₊ : T) * gap ≤ x - low ∧
      x - low < (⌊(x - low) / gap⌋₊ + 1 : T) * gap := by
    intro x above
    have nonneg : 0 ≤ (x - low) / gap := div_nonneg (sub_nonneg.mpr above) positive.le
    exact ⟨(le_div_iff₀ positive).mp (Nat.floor_le nonneg), (div_lt_iff₀ positive).mp (Nat.lt_floor_add_one _)⟩
  obtain ⟨lowA, highA⟩ := scaled a aboveA
  obtain ⟨lowB, highB⟩ := scaled b aboveB
  rw [cell] at lowA highA
  rw [add_mul, one_mul] at highA highB
  rw [abs_lt]
  constructor <;> linarith

/-- An interval holds one point for each whole gap, and one more. -/
theorem Spaced.length_le {gap low high : T} {points : List T} (spaced : Spaced gap points) (positive : 0 < gap)
    (inside : ∀ x ∈ points, low ≤ x ∧ x ≤ high) : points.length ≤ ⌊(high - low) / gap⌋₊ + 1 := by
  have distinct : (points.map fun x => ⌊(x - low) / gap⌋₊).Nodup := by
    rw [List.Nodup, List.pairwise_map]
    refine List.Pairwise.imp_of_mem ?_ spaced
    intro a b first second apart same
    exact absurd (near_of_cell positive (inside a first).1 (inside b second).1 same) (not_lt_of_ge apart)
  have within : (points.map fun x => ⌊(x - low) / gap⌋₊) ⊆ List.range (⌊(high - low) / gap⌋₊ + 1) := by
    intro cell member
    obtain ⟨x, there, rfl⟩ := List.mem_map.mp member
    rw [List.mem_range, Nat.lt_succ_iff]
    apply Nat.floor_le_floor
    exact div_le_div_of_nonneg_right (sub_le_sub_right (inside x there).2 low) positive.le
  have bound := (distinct.subperm within).length_le
  rwa [List.length_map, List.length_range] at bound

end Foundation
