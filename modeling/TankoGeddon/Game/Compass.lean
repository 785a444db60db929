import Mathlib.Data.Fin.VecNotation
import Mathlib.Data.Rat.Floor
import TankoGeddon.Game.Basic
import TankoGeddon.TankPawn.Motion

/-! The engine of a game, over the reals and on a grid.

Over the reals the directions are those of `FRotationMatrix`. A rational engine computes, and
says the same of everything that points, looks or lies along an axis of the level.
-/

set_option autoImplicit false

namespace TankoGeddon

/-! The reals. -/

noncomputable section

open Real

def Space.ofProd (v : ℝ × ℝ × ℝ) : Space ℝ := ![v.1, v.2.1, v.2.2]

/-- `FVector::Normalize` leaves alone what is shorter than its tolerance. -/
def realGameEngine : GameEngine ℝ where
  forwardVector r := Space.ofProd (realEngine.forwardVector r)
  rightVector r := Space.ofProd (realEngine.rightVector r)
  findLookAtRotation start target :=
    realEngine.findLookAtRotation (start.x, start.y, start.z) (target.x, target.y, target.z)
  normalize dir :=
    let squareSum := dir.x ^ 2 + dir.y ^ 2 + dir.z ^ 2
    if 1 / (10 : ℕ) ^ 8 < squareSum then fun i => dir i / √squareSum else dir

end

/-! The grid. -/

/-- The unit vector so many quarter turns from the first axis. -/
def quarter (n : ℤ) : Space ℚ :=
  if n % 4 = 0 then ![1, 0, 0] else if n % 4 = 1 then ![0, 1, 0] else if n % 4 = 2 then ![-1, 0, 0] else ![0, -1, 0]

def compass : GameEngine ℚ where
  forwardVector r := quarter ⌊r.yaw / 90⌋
  rightVector r := quarter (⌊r.yaw / 90⌋ + 1)
  findLookAtRotation start target :=
    let d : Space ℚ := target - start
    ⟨0, if d.y = 0 then if 0 ≤ d.x then 0 else 180 else if 0 < d.y then 90 else -90, 0⟩
  normalize dir := fun i => dir i / (|dir.x| + |dir.y| + |dir.z|)

/-! The two agree. -/

open Real

def Space.toReal (v : Space ℚ) : Space ℝ := fun i => v i

def Rotator.toReal (r : Rotator ℚ) : Rotator ℝ := ⟨r.pitch, r.yaw, r.roll⟩

theorem quarter_toReal (n : ℤ) : Space.toReal (quarter n) = ![cos (n * (π / 2)), sin (n * (π / 2)), 0] := by
  have whole : (n : ℝ) * (π / 2) = (n % 4 : ℤ) * (π / 2) + (n / 4 : ℤ) * (2 * π) := by
    have split : ((n % 4 : ℤ) : ℝ) + 4 * (n / 4 : ℤ) = n := by exact_mod_cast Int.emod_add_mul_ediv n 4
    rw [← split]
    ring
  -- whole turns drop out, four quarters are left
  have range : n % 4 = 0 ∨ n % 4 = 1 ∨ n % 4 = 2 ∨ n % 4 = 3 := by omega
  have three : (3 : ℝ) * (π / 2) = π / 2 + π := by ring
  have two : (2 : ℝ) * (π / 2) = π := by ring
  rw [whole, cos_add_int_mul_two_pi, sin_add_int_mul_two_pi]
  rcases range with rest | rest | rest | rest <;>
  · funext i
    simp only [quarter, rest, Space.toReal]
    refine Fin.cases ?_ (fun i => Fin.cases ?_ (fun i => Fin.cases ?_ (fun i => i.elim0) i) i) i <;>
      simp [two, three, cos_add_pi, sin_add_pi]

theorem yaw_quarters (n : ℤ) : ⌊(n : ℚ) * 90 / 90⌋ = n := by
  rw [mul_div_cancel_right₀ _ (by norm_num), Int.floor_intCast]

theorem radians_quarters (n : ℤ) : radians (n * 90) = n * (π / 2) := by
  unfold radians
  push_cast
  ring

theorem compass_forward (n : ℤ) : realGameEngine.forwardVector (Rotator.toReal ⟨0, n * 90, 0⟩) =
    (compass.forwardVector ⟨0, n * 90, 0⟩).toReal := by
  simp only [compass, yaw_quarters, quarter_toReal]
  simp [realGameEngine, realEngine, Space.ofProd, Rotator.toReal, radians_quarters, show radians 0 = 0 by simp [radians]]

theorem compass_right (n : ℤ) : realGameEngine.rightVector (Rotator.toReal ⟨0, n * 90, 0⟩) =
    (compass.rightVector ⟨0, n * 90, 0⟩).toReal := by
  have next : ((n + 1 : ℤ) : ℝ) * (π / 2) = n * (π / 2) + π / 2 := by
    push_cast
    ring
  simp only [compass, yaw_quarters, quarter_toReal, next, cos_add_pi_div_two, sin_add_pi_div_two]
  simp [realGameEngine, realEngine, Space.ofProd, Rotator.toReal, radians_quarters, show radians 0 = 0 by simp [radians]]

/-- Along one axis, and longer than the tolerance. -/
theorem compass_normalize {dir : Space ℚ} {i : Fin 3} (axis : ∀ j, j ≠ i → dir j = 0) (long : 1 / 10 ^ 4 < |dir i|) :
    realGameEngine.normalize dir.toReal = (compass.normalize dir).toReal := by
  have square : dir 0 ^ 2 + dir 1 ^ 2 + dir 2 ^ 2 = |dir i| ^ 2 := by
    rw [sq_abs, ← Fin.sum_univ_three (fun j => dir j ^ 2)]
    exact Finset.sum_eq_single i (fun j _ other => by simp [axis j other]) (by simp)
  have length : |dir 0| + |dir 1| + |dir 2| = |dir i| := by
    rw [← Fin.sum_univ_three (fun j => |dir j|)]
    exact Finset.sum_eq_single i (fun j _ other => by simp [axis j other]) (by simp)
  have far : 1 / 10 ^ 8 < |dir i| ^ 2 := by
    calc (1 : ℚ) / 10 ^ 8 = (1 / 10 ^ 4) ^ 2 := by norm_num
      _ < |dir i| ^ 2 := pow_lt_pow_left₀ long (by norm_num) (by norm_num)
  have square' : dir.toReal 0 ^ 2 + dir.toReal 1 ^ 2 + dir.toReal 2 ^ 2 = |(dir i : ℝ)| ^ 2 := by
    simp only [Space.toReal]
    exact_mod_cast square
  have far' : 1 / 10 ^ 8 < dir.toReal 0 ^ 2 + dir.toReal 1 ^ 2 + dir.toReal 2 ^ 2 := by
    rw [square']
    have cast := (Rat.cast_lt (K := ℝ)).mpr far
    push_cast at cast
    exact cast
  have normal : realGameEngine.normalize dir.toReal = fun j => dir.toReal j / |(dir i : ℝ)| := by
    rw [show realGameEngine.normalize dir.toReal = _ from if_pos far', square', Real.sqrt_sq (abs_nonneg _)]
  rw [normal]
  funext j
  simp [compass, Space.toReal, length]

theorem degrees_quarters (n : ℝ) : degrees (n * (π / 2)) = n * 90 := by
  unfold degrees
  field_simp
  push_cast
  ring

/-- Along an axis the direction is a whole number of quarters. -/
theorem arg_quarters {start target : Space ℚ} (axis : target 0 = start 0 ∨ target 1 = start 1) :
    ∃ n : ℤ, Complex.arg ⟨target 0 - start 0, target 1 - start 1⟩ = n * (π / 2) ∧
      (compass.findLookAtRotation start target).yaw = n * 90 := by
  have across : ¬ target 1 - start 1 = 0 → (target 0 : ℝ) - start 0 = 0 := by
    intro aside
    rcases axis with same | same
    · rw [same, sub_self]
    · exact absurd (sub_eq_zero.mpr same) aside
  have level : target 1 - start 1 = 0 → (target 1 : ℝ) - start 1 = 0 := fun along => by exact_mod_cast along
  simp only [compass, Pi.sub_apply]
  split_ifs with along ahead left
  · have ahead' : (0 : ℝ) ≤ target 0 - start 0 := by exact_mod_cast ahead
    refine ⟨0, ?_, by norm_num⟩
    rw [Complex.arg_eq_zero_iff.mpr ⟨ahead', level along⟩]
    simp
  · have behind : (target 0 : ℝ) - start 0 < 0 := by exact_mod_cast not_le.mp ahead
    refine ⟨2, ?_, by norm_num⟩
    rw [Complex.arg_eq_pi_iff.mpr ⟨behind, level along⟩]
    push_cast
    ring
  · have left' : (0 : ℝ) < target 1 - start 1 := by exact_mod_cast left
    refine ⟨1, ?_, by norm_num⟩
    rw [Complex.arg_eq_pi_div_two_iff.mpr ⟨across along, left'⟩]
    simp
  · have right : (target 1 : ℝ) - start 1 < 0 := by exact_mod_cast lt_of_le_of_ne (not_lt.mp left) along
    refine ⟨-1, ?_, by norm_num⟩
    rw [Complex.arg_eq_neg_pi_div_two_iff.mpr ⟨across along, right⟩]
    simp

/-- On level ground, along an axis. -/
theorem compass_findLookAtRotation {start target : Space ℚ} (level : target 2 = start 2)
    (axis : target 0 = start 0 ∨ target 1 = start 1) :
    realGameEngine.findLookAtRotation start.toReal target.toReal = (compass.findLookAtRotation start target).toReal := by
  obtain ⟨n, angle, yaw⟩ := arg_quarters axis
  have pitch : Complex.arg ⟨√((target 0 - start 0) ^ 2 + (target 1 - start 1) ^ 2), target 2 - start 2⟩ = 0 := by
    rw [Complex.arg_eq_zero_iff]
    exact ⟨Real.sqrt_nonneg _, by simp [level]⟩
  ext
  · have flat : degrees (Complex.arg ⟨√((target 0 - start 0) ^ 2 + (target 1 - start 1) ^ 2), target 2 - start 2⟩) = 0 := by
      rw [pitch, degrees, zero_mul, zero_div]
    simpa [realGameEngine, realEngine, Space.toReal, Rotator.toReal, compass] using flat
  · have turned : degrees (Complex.arg ⟨target 0 - start 0, target 1 - start 1⟩) = (n : ℝ) * 90 := by
      rw [angle, degrees_quarters]
    rw [Rotator.toReal, yaw]
    push_cast
    exact turned
  · simp [realGameEngine, realEngine, Rotator.toReal, compass]

end TankoGeddon
