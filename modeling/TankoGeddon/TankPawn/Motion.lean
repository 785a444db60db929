import Mathlib.Analysis.SpecialFunctions.Complex.Arg
import Mathlib.Tactic.FieldSimp
import Mathlib.Tactic.LinearCombination
import Mathlib.Tactic.Ring
import TankoGeddon.Foundation.Subdivision
import TankoGeddon.TankPawn.Basic

/-! Whether the motion of a tank depends on the frame rate, with nothing in its way.

The translation and the smoothing of the rotate input are taken once a frame, the
yaw in proportion to the time. Only a tank that does not translate, and whose
smoothing has nothing to do, turns the same at every frame rate.
-/

set_option autoImplicit false

namespace TankoGeddon

open Foundation (SubdivisionFree subdivisionFree_of_flow)

section

variable {K V : Type} [Field K] [LinearOrder K] [FloorRing K]

/-! One frame. -/

namespace TankPawn

variable [AddCommGroup V] [Module K V]

/-- Constant axis inputs. -/
structure Input (K : Type) where
  forward : K
  right : K
  rotate : K

/-- A frame in which the sweep meets no obstacle. -/
def frame (e : Engine K V) (input : Input K) (t : TankPawn K V) (f : Frame K V) : TankPawn K V :=
  (((t.moveForward input.forward).moveRight input.right).rotateRight input.rotate).tick e 1 f

variable (e : Engine K V) (input : Input K) (t : TankPawn K V) (f : Frame K V)

/-- The configuration no frame changes. -/
theorem frame_config : (t.frame e input f).moveSpeed = t.moveSpeed ∧
    (t.frame e input f).rotateSpeed = t.rotateSpeed ∧
    (t.frame e input f).interpolationKey = t.interpolationKey := by
  unfold frame tick rotateTurret
  split <;> exact ⟨rfl, rfl, rfl⟩

theorem frame_location : (t.frame e input f).location = t.location +
    (input.forward * t.moveSpeed) • e.forwardVector t.rotation +
    (input.right * t.moveSpeed) • e.rightVector t.rotation := by
  have moved : (t.frame e input f).location = t.location +
      (1 : K) • (input.forward • t.moveSpeed • e.forwardVector t.rotation +
        input.right • t.moveSpeed • e.rightVector t.rotation) := by
    unfold frame tick rotateTurret
    split <;> rfl
  rw [moved, one_smul, mul_smul, mul_smul, add_assoc]

theorem frame_current : (t.frame e input f).currentRotateAxisValue =
    lerp t.currentRotateAxisValue input.rotate t.interpolationKey := by
  unfold frame tick rotateTurret
  split <;> rfl

theorem frame_yaw : (t.frame e input f).rotation.yaw =
    normalizeAxis (t.rotateSpeed * lerp t.currentRotateAxisValue input.rotate t.interpolationKey *
      f.deltaSeconds + t.rotation.yaw) := by
  unfold frame tick rotateTurret
  split <;> rfl

end TankPawn

/-! The inputs and the smoothing over one frame. -/

/-- Forward and right are linearly independent, whatever the rotation. -/
structure Engine.Axes [AddCommGroup V] [Module K V] (e : Engine K V) : Prop where
  independent : ∀ (r : Rotator K) (a b : K), a • e.forwardVector r + b • e.rightVector r = 0 → a = 0 ∧ b = 0

namespace TankPawn

variable [AddCommGroup V] [Module K V] {e : Engine K V} {input : Input K} {t : TankPawn K V}

/-- The inputs do not translate the tank. -/
def Parked (t : TankPawn K V) (input : Input K) : Prop :=
  input.forward * t.moveSpeed = 0 ∧ input.right * t.moveSpeed = 0

/-- The tank does not turn, or the smoothing has reached its target, never moves or
reaches it in one frame. -/
def Steady (t : TankPawn K V) (input : Input K) : Prop :=
  t.rotateSpeed = 0 ∨ t.currentRotateAxisValue = input.rotate ∨ t.interpolationKey = 0 ∨ t.interpolationKey = 1

theorem Parked.location (parked : t.Parked input) (f : Frame K V) :
    (t.frame e input f).location = t.location := by
  rw [frame_location, parked.1, parked.2, zero_smul, zero_smul, add_zero, add_zero]

theorem Parked.frame (parked : t.Parked input) (f : Frame K V) : (t.frame e input f).Parked input := by
  unfold Parked
  rw [(frame_config e input t f).1]
  exact parked

theorem Steady.frame (steady : t.Steady input) (f : Frame K V) : (t.frame e input f).Steady input := by
  obtain ⟨_, speed, key⟩ := frame_config e input t f
  unfold Steady
  rw [speed, key, frame_current]
  rcases steady with none | reached | never | once
  · exact .inl none
  · exact .inr (.inl (by rw [lerp, reached, sub_self, mul_zero, add_zero]))
  · exact .inr (.inr (.inl never))
  · exact .inr (.inr (.inr once))

/-- The angular speed of a steady tank is that of its first frame. -/
theorem Steady.speed (steady : t.Steady input) (f : Frame K V) :
    (t.frame e input f).rotateSpeed * lerp (t.frame e input f).currentRotateAxisValue input.rotate
        (t.frame e input f).interpolationKey =
      t.rotateSpeed * lerp t.currentRotateAxisValue input.rotate t.interpolationKey := by
  obtain ⟨_, speed, key⟩ := frame_config e input t f
  rw [speed, key, frame_current]
  unfold lerp
  rcases steady with none | reached | never | once
  · rw [none, zero_mul, zero_mul]
  · rw [reached]
    ring
  · rw [never]
    ring
  · rw [once]
    ring

end TankPawn

/-! Angles. -/

theorem normalizeAxis_eq (angle : K) : ∃ n : ℤ, normalizeAxis angle = angle - 360 * n :=
  ⟨_, rfl⟩

variable [IsStrictOrderedRing K]

/-- Whole turns do not show. -/
theorem normalizeAxis_turns (angle : K) (n : ℤ) : normalizeAxis (angle - 360 * n) = normalizeAxis angle := by
  have shifted : (angle - 360 * n - 180) / 360 = (angle - 180) / 360 - (n : K) := by
    field_simp
    ring
  rw [normalizeAxis, shifted, Int.ceil_sub_intCast, normalizeAxis]
  push_cast
  ring

theorem normalizeAxis_add (turn angle : K) : normalizeAxis (turn + normalizeAxis angle) = normalizeAxis (turn + angle) := by
  obtain ⟨n, same⟩ := normalizeAxis_eq angle
  rw [same, ← add_sub_assoc]
  exact normalizeAxis_turns _ n

theorem turns_of_normalizeAxis_eq {a b : K} (same : normalizeAxis a = normalizeAxis b) :
    ∃ n : ℤ, a - b = 360 * n := by
  obtain ⟨m, left⟩ := normalizeAxis_eq a
  obtain ⟨n, right⟩ := normalizeAxis_eq b
  refine ⟨m - n, ?_⟩
  rw [left, right] at same
  push_cast
  linear_combination same

/-- An angular speed that makes whole turns in every time is none. -/
theorem speed_eq_zero {speed : K} (turns : ∀ d : K, 0 < d → ∃ n : ℤ, speed * d = 360 * n) : speed = 0 := by
  by_contra moving
  have positive : 0 < 1 / |speed| := one_div_pos.mpr (abs_pos.mpr moving)
  obtain ⟨n, whole⟩ := turns _ positive
  have unit : |speed * (1 / |speed|)| = 1 := by
    rw [abs_mul, abs_of_pos positive, mul_one_div, div_self (abs_ne_zero.mpr moving)]
  rw [whole] at unit
  have integral : |360 * n| = 1 := by exact_mod_cast unit
  rcases eq_or_eq_neg_of_abs_eq integral with one | minus <;> omega

/-! Runs of frames. -/

namespace TankPawn

variable [AddCommGroup V] [Module K V] {e : Engine K V} {input : Input K} {t : TankPawn K V}

/-- Location and yaw are the same after all lists of frames of one duration. -/
def FrameRateIndependent (e : Engine K V) (input : Input K) (t : TankPawn K V) : Prop :=
  SubdivisionFree (frame e input) Frame.deltaSeconds (fun t => (t.location, t.rotation.yaw)) t

/-- The closed form: the tank stays, and turns at one speed. -/
theorem run_parked_steady (parked : t.Parked input) (steady : t.Steady input) (f : Frame K V)
    (rest : List (Frame K V)) :
    ((f :: rest).foldl (TankPawn.frame e input) t).location = t.location ∧
      ((f :: rest).foldl (TankPawn.frame e input) t).rotation.yaw =
        normalizeAxis (t.rotateSpeed * lerp t.currentRotateAxisValue input.rotate t.interpolationKey *
          ((f :: rest).map Frame.deltaSeconds).sum + t.rotation.yaw) := by
  induction rest generalizing t f with
  | nil => exact ⟨parked.location f, by simpa using frame_yaw e input t f⟩
  | cons g rest ih =>
      obtain ⟨location, yaw⟩ := ih (parked.frame (e := e) f) (steady.frame f) g
      rw [List.foldl_cons]
      refine ⟨location.trans (parked.location f), yaw.trans ?_⟩
      rw [steady.speed, frame_yaw, normalizeAxis_add]
      congr 1
      simp only [List.map_cons, List.sum_cons]
      ring

/-- A frame of the given length, without a controller. -/
def plainFrame (deltaSeconds : K) : Frame K V := ⟨deltaSeconds, none, ⟨0, 0, 0⟩⟩

theorem FrameRateIndependent.halved (free : FrameRateIndependent e input t) {d : K} (positive : 0 < d) :
    (t.frame e input (plainFrame (d + d))).location =
        ((t.frame e input (plainFrame d)).frame e input (plainFrame d)).location ∧
      (t.frame e input (plainFrame (d + d))).rotation.yaw =
        ((t.frame e input (plainFrame d)).frame e input (plainFrame d)).rotation.yaw := by
  have half : 0 < (plainFrame d : Frame K V).deltaSeconds := positive
  have whole : (plainFrame (d + d) : Frame K V).deltaSeconds =
      (plainFrame d : Frame K V).deltaSeconds + (plainFrame d : Frame K V).deltaSeconds := rfl
  exact Prod.mk.inj (SubdivisionFree.halves free half half whole)

/-- Two frames translate twice as far as one. -/
theorem FrameRateIndependent.parked (axes : e.Axes) (free : FrameRateIndependent e input t) : t.Parked input := by
  obtain ⟨location, _⟩ := free.halved (d := 1) one_pos
  rw [frame_location _ _ (t.frame e input (plainFrame 1)), frame_location, frame_location,
    (frame_config e input t (plainFrame 1)).1, add_assoc (_ + _ + _)] at location
  exact axes.independent _ _ _ (left_eq_add.mp location)

/-- The second of two frames turns by what the smoothing has made of the input. -/
theorem FrameRateIndependent.steady (free : FrameRateIndependent e input t) : t.Steady input := by
  have still : t.rotateSpeed * (lerp t.currentRotateAxisValue input.rotate t.interpolationKey -
      lerp (lerp t.currentRotateAxisValue input.rotate t.interpolationKey) input.rotate t.interpolationKey) = 0 := by
    apply speed_eq_zero
    intro d positive
    obtain ⟨_, yaw⟩ := free.halved positive
    obtain ⟨_, speed, key⟩ := frame_config e input t (plainFrame d)
    rw [frame_yaw _ _ (t.frame e input (plainFrame d)), frame_yaw, frame_yaw, speed, key, frame_current,
      normalizeAxis_add] at yaw
    obtain ⟨n, turns⟩ := turns_of_normalizeAxis_eq yaw
    refine ⟨n, ?_⟩
    rw [← turns]
    simp only [plainFrame]
    ring
  have factors : t.rotateSpeed * (t.interpolationKey * ((1 - t.interpolationKey) *
      (input.rotate - t.currentRotateAxisValue))) = 0 := by
    unfold lerp at still
    linear_combination -still
  rcases mul_eq_zero.mp factors with none | rest
  · exact .inl none
  rcases mul_eq_zero.mp rest with never | rest
  · exact .inr (.inr (.inl never))
  rcases mul_eq_zero.mp rest with once | reached
  · exact .inr (.inr (.inr (sub_eq_zero.mp once).symm))
  · exact .inr (.inl (sub_eq_zero.mp reached).symm)

/-- The motion does not depend on the frame rate exactly when the tank is parked and
its turning steady. -/
theorem frameRateIndependent_iff (axes : e.Axes) :
    FrameRateIndependent e input t ↔ t.Parked input ∧ t.Steady input := by
  constructor
  · intro free
    exact ⟨free.parked axes, free.steady⟩
  · rintro ⟨parked, steady⟩
    refine subdivisionFree_of_flow (fun total => (t.location, normalizeAxis (t.rotateSpeed *
      lerp t.currentRotateAxisValue input.rotate t.interpolationKey * total + t.rotation.yaw))) ?_
    intro f rest _
    obtain ⟨location, yaw⟩ := run_parked_steady (e := e) parked steady f rest
    exact Prod.ext location yaw

end TankPawn

end

/-! The engine over the reals. -/

noncomputable section

open Real

def radians (angle : ℝ) : ℝ := angle * π / (180 : ℕ)

def degrees (angle : ℝ) : ℝ := angle * (180 : ℕ) / π

/-- The axes of `FRotationMatrix`, and the rotation of the direction to a target. -/
def realEngine : Engine ℝ (ℝ × ℝ × ℝ) where
  forwardVector r :=
    (cos (radians r.pitch) * cos (radians r.yaw), cos (radians r.pitch) * sin (radians r.yaw), sin (radians r.pitch))
  rightVector r :=
    (sin (radians r.roll) * sin (radians r.pitch) * cos (radians r.yaw) - cos (radians r.roll) * sin (radians r.yaw),
      sin (radians r.roll) * sin (radians r.pitch) * sin (radians r.yaw) + cos (radians r.roll) * cos (radians r.yaw),
      -(sin (radians r.roll) * cos (radians r.pitch)))
  findLookAtRotation start target :=
    let d := target - start
    ⟨degrees (Complex.arg ⟨√(d.1 ^ 2 + d.2.1 ^ 2), d.2.2⟩), degrees (Complex.arg ⟨d.1, d.2.1⟩), 0⟩

/-- The axes are orthonormal. -/
theorem realEngine_axes : realEngine.Axes where
  independent := by
    intro r a b zero
    simp only [realEngine, Prod.smul_mk, Prod.mk_add_mk, smul_eq_mul, Prod.mk_eq_zero] at zero
    obtain ⟨x, y, z⟩ := zero
    have pitch := sin_sq_add_cos_sq (radians r.pitch)
    have yaw := sin_sq_add_cos_sq (radians r.yaw)
    have roll := sin_sq_add_cos_sq (radians r.roll)
    generalize sin (radians r.pitch) = sp at *
    generalize cos (radians r.pitch) = cp at *
    generalize sin (radians r.yaw) = sy at *
    generalize cos (radians r.yaw) = cy at *
    generalize sin (radians r.roll) = sr at *
    generalize cos (radians r.roll) = cr at *
    constructor
    · -- along the forward axis
      linear_combination cp * cy * x + cp * sy * y + sp * z - a * pitch - (a * cp ^ 2 + b * sr * sp * cp) * yaw
    · -- along the right axis
      linear_combination (sr * sp * cy - cr * sy) * x + (sr * sp * sy + cr * cy) * y - sr * cp * z -
        b * roll - b * sr ^ 2 * pitch - (a * sr * sp * cp + b * sr ^ 2 * sp ^ 2 + b * cr ^ 2) * yaw

/-- A tank at the origin that looks along the first axis. -/
def parkedTank : TankPawn ℝ (ℝ × ℝ × ℝ) := .spawn 0 ⟨0, 0, 0⟩

/-- One whose rotate input is smoothed within a frame. -/
def nimbleTank : TankPawn ℝ (ℝ × ℝ × ℝ) := { parkedTank with interpolationKey := 1 }

/-- It turns on the spot, by a hundred degrees in every second. -/
theorem frameRateIndependent_iff_turning :
    realEngine.Axes ∧ TankPawn.FrameRateIndependent realEngine ⟨0, 0, 1⟩ nimbleTank :=
  ⟨realEngine_axes, (TankPawn.frameRateIndependent_iff realEngine_axes).mpr
    ⟨⟨zero_mul _, zero_mul _⟩, .inr (.inr (.inr rfl))⟩⟩

-- Forward at full throttle: two frames of a second go twice as far as one of two.
theorem motion_depends_on_frameRate :
    ¬ ∀ (input : TankPawn.Input ℝ) (t : TankPawn ℝ (ℝ × ℝ × ℝ)),
      TankPawn.FrameRateIndependent realEngine input t := by
  intro claim
  have parked := (claim ⟨1, 0, 0⟩ parkedTank).parked realEngine_axes
  have speed : (1 : ℝ) * 10 = 0 := parked.1
  norm_num at speed

end

end TankoGeddon
