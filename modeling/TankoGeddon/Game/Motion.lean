import Mathlib.Algebra.BigOperators.Ring.List
import Mathlib.Algebra.Group.Subgroup.ZPowers.Basic
import Mathlib.Tactic.FinCases
import Mathlib.Tactic.Linarith
import TankoGeddon.Foundation.Drift
import TankoGeddon.Game.Driving

/-! How far the player can take a tank.

The smoothed rotate input never leaves the range of what was sent, so a tank turns at most
`RotateSpeed` times that in a second. Its place is another matter: a tick moves it by up to
`MoveSpeed` for each axis however short it is, so what bounds the way is the number of ticks.
An obstacle only makes the way shorter.
-/

set_option autoImplicit false

namespace TankoGeddon

open Foundation (Run Step Shifts perform_run)

section

variable {K : Type} [Field K] [LinearOrder K] [IsStrictOrderedRing K]

/-- The smoothing stays between what it was and what it is told. -/
theorem lerp_within {a b alpha bound : K} (key : 0 ≤ alpha ∧ alpha ≤ 1) (first : |a| ≤ bound) (second : |b| ≤ bound) :
    |lerp a b alpha| ≤ bound := by
  obtain ⟨low, high⟩ := abs_le.mp first
  obtain ⟨low', high'⟩ := abs_le.mp second
  have mixed : lerp a b alpha = (1 - alpha) * a + alpha * b := by
    unfold lerp
    ring
  rw [mixed, abs_le]
  have rest : 0 ≤ 1 - alpha := sub_nonneg.mpr key.2
  constructor
  · have one := mul_le_mul_of_nonneg_left low rest
    have two := mul_le_mul_of_nonneg_left low' key.1
    linarith
  · have one := mul_le_mul_of_nonneg_left high rest
    have two := mul_le_mul_of_nonneg_left high' key.1
    linarith

end

variable {K : Type} [Field K] [LinearOrder K]

/-- A direction of the engine is a unit vector, so none of its coordinates is beyond one. -/
def GameEngine.Directed (e : GameEngine K) : Prop :=
  ∀ rotation i, |e.forwardVector rotation i| ≤ 1 ∧ |e.rightVector rotation i| ≤ 1

/-- The directions are two columns of an orthogonal matrix, whose rows are unit vectors. -/
theorem realGameEngine_directed : realGameEngine.Directed := by
  intro r
  have unit : ∀ {a b c : ℝ}, a ^ 2 + b ^ 2 + c ^ 2 = 1 → |a| ≤ 1 ∧ |b| ≤ 1 := by
    intro a b c sum
    rw [← sq_le_one_iff_abs_le_one, ← sq_le_one_iff_abs_le_one]
    constructor <;> nlinarith [sq_nonneg a, sq_nonneg b, sq_nonneg c]
  have pitch := Real.sin_sq_add_cos_sq (radians r.pitch)
  have yaw := Real.sin_sq_add_cos_sq (radians r.yaw)
  have roll := Real.sin_sq_add_cos_sq (radians r.roll)
  simp only [realGameEngine, realEngine, Space.ofProd]
  generalize Real.sin (radians r.pitch) = sp at *
  generalize Real.cos (radians r.pitch) = cp at *
  generalize Real.sin (radians r.yaw) = sy at *
  generalize Real.cos (radians r.yaw) = cy at *
  generalize Real.sin (radians r.roll) = sr at *
  generalize Real.cos (radians r.roll) = cr at *
  intro i
  -- the third column is the up vector
  fin_cases i
  · apply unit (a := cp * cy) (b := sr * sp * cy - cr * sy) (c := cr * sp * cy + sr * sy)
    linear_combination cy ^ 2 * pitch + yaw + (sp ^ 2 * cy ^ 2 + sy ^ 2) * roll
  · apply unit (a := cp * sy) (b := sr * sp * sy + cr * cy) (c := cr * sp * sy - sr * cy)
    linear_combination sy ^ 2 * pitch + yaw + (sp ^ 2 * sy ^ 2 + cy ^ 2) * roll
  · apply unit (a := sp) (b := -(sr * cp)) (c := cr * cp)
    linear_combination pitch + cp ^ 2 * roll

/-- The sweep ends on the way, and the way is no longer than the speed of both axes. -/
theorem TankPawn.move_within [IsStrictOrderedRing K] {e : GameEngine K} {t : TankPawn K (Space K)} {reached bound : K}
    (sweep : 0 ≤ reached ∧ reached ≤ 1) (forward : |t.targetForwardAxisValue| ≤ bound)
    (right : |t.targetRightAxisValue| ≤ bound) (directed : e.Directed) (i : Fin 3) :
    |(t.move e.toEngine reached).location i - t.location i| ≤ 2 * |t.moveSpeed| * bound := by
  have reach : ∀ value direction : K, |value| ≤ bound → |direction| ≤ 1 →
      |value * (t.moveSpeed * direction)| ≤ |t.moveSpeed| * bound := by
    intro value direction small unit
    have nonneg : 0 ≤ bound := (abs_nonneg value).trans small
    rw [mul_left_comm, abs_mul, abs_mul]
    apply mul_le_mul_of_nonneg_left _ (abs_nonneg _)
    calc |value| * |direction| ≤ bound * 1 := mul_le_mul small unit (abs_nonneg _) nonneg
      _ = bound := mul_one bound
  obtain ⟨ahead, aside⟩ := directed t.rotation i
  have one := reach _ _ forward ahead
  have two := reach _ _ right aside
  have moved : (t.move e.toEngine reached).location i - t.location i =
      reached * (t.targetForwardAxisValue * (t.moveSpeed * e.forwardVector t.rotation i) +
        t.targetRightAxisValue * (t.moveSpeed * e.rightVector t.rotation i)) := by
    simp only [move, Pi.add_apply, Pi.smul_apply, smul_eq_mul]
    ring
  rw [moved, abs_mul, abs_of_nonneg sweep.1]
  apply (mul_le_of_le_one_left (abs_nonneg _) sweep.2).trans
  apply (abs_add_le _ _).trans
  linarith

variable [FloorRing K]

namespace TankPawn

variable (e : Engine K (Space K)) (reached : K) (t : TankPawn K (Space K)) (f : Frame K (Space K))

/-- What nothing changes. -/
def config (t : TankPawn K (Space K)) : K × K × K := (t.moveSpeed, t.rotateSpeed, t.interpolationKey)

theorem tick_config : (t.tick e reached f).config = t.config := by
  unfold tick rotateTurret
  split <;> rfl

theorem tick_location : (t.tick e reached f).location = (t.move e reached).location := by
  unfold tick rotateTurret
  split <;> rfl

theorem tick_current : (t.tick e reached f).currentRotateAxisValue =
    lerp t.currentRotateAxisValue t.rotateRightAxisValue t.interpolationKey := by
  unfold tick rotateTurret
  split <;> rfl

theorem tick_rotation : (t.tick e reached f).rotation = ⟨normalizeAxis 0, normalizeAxis (t.rotateSpeed *
    lerp t.currentRotateAxisValue t.rotateRightAxisValue t.interpolationKey * f.deltaSeconds + t.rotation.yaw),
    normalizeAxis 0⟩ := by
  unfold tick rotateTurret
  split <;> rfl

end TankPawn

/-- Whole turns. -/
def turns (K : Type) [Field K] : AddSubgroup K := AddSubgroup.zmultiples ((360 : ℕ) : K)

theorem normalizeAxis_turned (angle : K) : normalizeAxis angle - angle ∈ turns K := by
  rw [turns, AddSubgroup.mem_zmultiples_iff]
  refine ⟨-⌈(angle - 180) / 360⌉, ?_⟩
  rw [zsmul_eq_mul, normalizeAxis]
  push_cast
  ring

namespace Tank

/-- The time a deed takes. -/
def Deed.elapsed : Deed K → K
  | .tick deltaSeconds _ _ _ => deltaSeconds
  | _ => 0

/-- The frames a deed takes. -/
def Deed.frames : Deed K → K
  | .tick _ _ _ _ => 1
  | _ => 0

/-- The inputs, and what they are smoothed to, are within a bound. -/
structure Within (bound : K) (t : Tank K) : Prop where
  axes : ∀ axis, |t.body.axisValue axis| ≤ bound
  current : |t.body.currentRotateAxisValue| ≤ bound
  key : 0 ≤ t.body.interpolationKey ∧ t.body.interpolationKey ≤ 1

variable {e : GameEngine K} {t t' : Tank K} {deed : Deed K} {bound : K} {out : Unit}

theorem undergo_config (acted : t.undergo e.toEngine deed = some (t', out)) : t'.body.config = t.body.config := by
  cases deed with
  | beginPlay possessed =>
      cases acted
      rfl
  | input axis value =>
      cases acted
      cases axis <;> rfl
  | tick deltaSeconds mousePos turretRotation reached =>
      obtain ⟨_, f, _, rfl⟩ := undergo_tick acted
      exact TankPawn.tick_config _ _ _ f

variable [IsStrictOrderedRing K]

theorem undergo_within (acted : t.undergo e.toEngine deed = some (t', out)) (within : t.Within bound)
    (told : ∀ axis value, deed = .input axis value → |value| ≤ bound) : t'.Within bound := by
  have key : t'.body.interpolationKey = t.body.interpolationKey := congrArg (·.2.2) (undergo_config acted)
  refine ⟨?_, ?_, key ▸ within.key⟩
  · intro axis
    cases deed with
    | beginPlay possessed =>
        cases acted
        exact within.axes axis
    | input other value =>
        cases acted
        rw [TankPawn.axisValue_input]
        split
        · exact told other value rfl
        · exact within.axes axis
    | tick deltaSeconds mousePos turretRotation reached =>
        obtain ⟨_, f, _, rfl⟩ := undergo_tick acted
        rw [TankPawn.axisValue_tick]
        exact within.axes axis
  · cases deed with
    | beginPlay possessed =>
        cases acted
        exact within.current
    | input axis value =>
        cases acted
        cases axis <;> exact within.current
    | tick deltaSeconds mousePos turretRotation reached =>
        obtain ⟨_, f, _, rfl⟩ := undergo_tick acted
        rw [TankPawn.tick_current]
        exact lerp_within within.key within.current (within.axes .rotateRight)

/-- One deed turns a tank at its rate, for the time it takes. -/
theorem undergo_turns (acted : t.undergo e.toEngine deed = some (t', out)) (within : t.Within bound)
    (forward : 0 ≤ deed.elapsed) :
    Shifts (turns K) (|t.body.rotateSpeed| * bound * deed.elapsed) t.body.rotation.yaw t'.body.rotation.yaw := by
  cases deed with
  | beginPlay possessed =>
      cases acted
      exact .of_eq _ (by simp [Deed.elapsed]) rfl
  | input axis value =>
      cases acted
      exact .of_eq _ (by simp [Deed.elapsed]) (by cases axis <;> rfl)
  | tick deltaSeconds mousePos turretRotation reached =>
      obtain ⟨_, f, rfl, rfl⟩ := undergo_tick acted
      have smooth := lerp_within within.key within.current (within.axes .rotateRight)
      rw [TankPawn.tick_rotation]
      refine ⟨t.body.rotateSpeed * lerp t.body.currentRotateAxisValue t.body.rotateRightAxisValue t.body.interpolationKey *
        f.deltaSeconds, ?_, ?_⟩
      · rw [abs_mul, abs_mul, abs_of_nonneg (show 0 ≤ f.deltaSeconds from forward)]
        exact mul_le_mul_of_nonneg_right (mul_le_mul_of_nonneg_left smooth (abs_nonneg _)) forward
      · have turned := normalizeAxis_turned (t.body.rotateSpeed *
          lerp t.body.currentRotateAxisValue t.body.rotateRightAxisValue t.body.interpolationKey * f.deltaSeconds +
            t.body.rotation.yaw)
        rwa [← sub_sub, sub_right_comm] at turned

/-- One frame moves a tank by the speed of each axis, or less. `BeginPlay` moves it upright only. -/
theorem undergo_moves (acted : t.undergo e.toEngine deed = some (t', out)) (within : t.Within bound)
    (directed : e.Directed) {i : Fin 3} (level : i ≠ 2) :
    Shifts ⊥ (2 * |t.body.moveSpeed| * bound * deed.frames) (t.body.location i) (t'.body.location i) := by
  cases deed with
  | beginPlay possessed =>
      cases acted
      exact .of_eq _ (by simp [Deed.frames]) (Function.update_of_ne level _ _)
  | input axis value =>
      cases acted
      exact .of_eq _ (by simp [Deed.frames]) (by cases axis <;> rfl)
  | tick deltaSeconds mousePos turretRotation reached =>
      obtain ⟨sweep, f, _, rfl⟩ := undergo_tick acted
      rw [TankPawn.tick_location]
      have way := TankPawn.move_within sweep (within.axes .moveForward) (within.axes .moveRight) directed i
      refine ⟨_, ?_, by rw [sub_self]; exact zero_mem _⟩
      simpa [Deed.frames] using way

/-- What a tank can have done in so much time and so many frames. -/
structure Ranged (bound elapsed frames : K) (t₀ t : Tank K) : Prop where
  smooth : |t.body.currentRotateAxisValue| ≤ bound
  turned : Shifts (turns K) (|t₀.body.rotateSpeed| * bound * elapsed) t₀.body.rotation.yaw t.body.rotation.yaw
  moved : ∀ i : Fin 3, i ≠ 2 → |t.body.location i - t₀.body.location i| ≤ 2 * |t₀.body.moveSpeed| * bound * frames

theorem run_ranged {t₀ : Tank K} {own : List (Step (Tank K) (Deed K) Unit)} (run : Run (undergo e.toEngine) t₀ own t)
    (directed : e.Directed) (within : t₀.Within bound)
    (told : ∀ u ∈ own, ∀ axis value, u.event = .input axis value → |value| ≤ bound)
    (forward : ∀ u ∈ own, 0 ≤ u.event.elapsed) :
    Ranged bound (own.map fun u => u.event.elapsed).sum (own.map fun u => u.event.frames).sum t₀ t := by
  have inv := run.invariant (fun s => s.Within bound ∧ s.body.config = t₀.body.config) ⟨within, rfl⟩
    fun u member acted kept =>
      ⟨undergo_within acted kept.1 (told u member), (undergo_config acted).trans kept.2⟩
  obtain ⟨⟨last, _⟩, each⟩ := inv
  refine ⟨last.current, ?_, ?_⟩
  · have drift := run.drift (turns K) (·.body.rotation.yaw)
      (fun u => |t₀.body.rotateSpeed| * bound * u.event.elapsed) ?_
    · rwa [List.sum_map_mul_left] at drift
    · intro u member
      obtain ⟨kept, config⟩ := (each u member).1
      have speed : u.before.body.rotateSpeed = t₀.body.rotateSpeed := congrArg (·.2.1) config
      rw [← speed]
      exact undergo_turns (run.taken member) kept (forward u member)
  · intro i level
    have drift := run.drift ⊥ (·.body.location i) (fun u => 2 * |t₀.body.moveSpeed| * bound * u.event.frames) ?_
    · rw [List.sum_map_mul_left] at drift
      exact drift.distance
    · intro u member
      obtain ⟨kept, config⟩ := (each u member).1
      have speed : u.before.body.moveSpeed = t₀.body.moveSpeed := congrArg (·.1) config
      rw [← speed]
      exact undergo_moves (run.taken member) kept directed level

end Tank

namespace Game

section

variable {K : Type} {t : Step (Game K) (Event K) Sight} {i : TankId}

theorem deed_input {axis : Axis} {value : K} (acts : deed i t = some (.input axis value)) : t.event.axis = some (axis, value) := by
  obtain ⟨g, event, sight, g'⟩ := t
  cases event <;> simp only [deed] at acts <;> first | cases acts | skip
  all_goals
    split at acts <;> cases acts
    try rfl

theorem deed_elapsed [Field K] [LinearOrder K] {own : Tank.Deed K} (acts : deed i t = some own)
    (forward : ∀ j deltaSeconds turretRotation reached,
      t.event = .tick j deltaSeconds turretRotation reached → 0 ≤ deltaSeconds) : 0 ≤ own.elapsed := by
  cases own with
  | beginPlay | input => exact le_rfl
  | tick deltaSeconds mousePos turretRotation reached =>
      obtain ⟨g, event, sight, g'⟩ := t
      cases event <;> simp only [deed] at acts <;> first | cases acts | skip
      all_goals
        split at acts <;> cases acts
        try exact forward _ _ _ _ rfl

end

variable [IsStrictOrderedRing K] {e : GameEngine K} {g g' : Game K}

/-- Where no input is beyond a bound, in every run of every game. -/
theorem tank_ranged {trace : List (Step (Game K) (Event K) Sight)} {bound : K} (initial : g.Initial)
    (run : Run (step e) g trace g') (directed : e.Directed) (nonneg : 0 ≤ bound)
    (told : ∀ t ∈ trace, ∀ axis value, t.event.axis = some (axis, value) → |value| ≤ bound)
    (forward : ∀ t ∈ trace, ∀ j deltaSeconds turretRotation reached,
      t.event = .tick j deltaSeconds turretRotation reached → 0 ≤ deltaSeconds)
    {i : TankId} {t₀ t : Tank K} (first : g.tanks[i]? = some t₀) (last : g'.tanks[i]? = some t)
    (key : 0 ≤ t₀.body.interpolationKey ∧ t₀.body.interpolationKey ≤ 1) :
    Tank.Ranged bound ((trace.filterMap (deed i)).map Tank.Deed.elapsed).sum
      ((trace.filterMap (deed i)).map Tank.Deed.frames).sum t₀ t := by
  obtain ⟨t₁, own, found, alone, events⟩ := (tank_driven initial run last).history
  obtain rfl : t₀ = t₁ := Option.some.inj (first.symm.trans found)
  have origin : ∀ u ∈ own, ∃ v ∈ trace, deed i v = some u.event := by
    intro u member
    apply List.mem_filterMap.mp
    rw [← events]
    exact List.mem_map_of_mem member
  have within : t₀.Within bound := by
    obtain ⟨_, _, moveForward, moveRight, rotateRight, current⟩ := initial.tanks t₀ (List.mem_of_getElem? first)
    refine ⟨?_, by rwa [current, abs_zero], key⟩
    intro axis
    have zero : t₀.body.axisValue axis = 0 := by
      cases axis
      · exact moveForward
      · exact moveRight
      · exact rotateRight
    rwa [zero, abs_zero]
  have ranged := Tank.run_ranged alone directed within ?_ ?_
  · rw [← events, List.map_map, List.map_map]
    exact ranged
  · intro u member axis value named
    obtain ⟨v, inside, acts⟩ := origin u member
    rw [named] at acts
    exact told v inside axis value (deed_input acts)
  · intro u member
    obtain ⟨v, inside, acts⟩ := origin u member
    exact deed_elapsed acts (forward v inside)

theorem quarter_unit (n : ℤ) (i : Fin 3) : |quarter n i| ≤ 1 := by
  revert i
  unfold quarter
  split_ifs <;> decide +kernel

theorem compass_directed : compass.Directed := fun _ i => ⟨quarter_unit _ i, quarter_unit _ i⟩

/-- Within two frames of a tenth of a second each. -/
theorem tank_ranged_outing : ∃ t₀ t, convoy.tanks[0]? = some t₀ ∧ outingRun.2.tanks[0]? = some t ∧
    Tank.Ranged 1 ((outingRun.1.filterMap (deed 0)).map Tank.Deed.elapsed).sum
      ((outingRun.1.filterMap (deed 0)).map Tank.Deed.frames).sum t₀ t := by
  have there : (outingRun.2.tanks[0]?).isSome = true := by decide +kernel
  obtain ⟨t, last⟩ := Option.isSome_iff_exists.mp there
  have inputs : ∀ u ∈ outingRun.1, (u.event.axis.all fun input => decide (|input.2| ≤ 1)) = true := by decide +kernel
  have times : ∀ u ∈ outingRun.1, ∀ tick ∈ u.event.ticking, 0 ≤ tick.2 := by decide +kernel
  refine ⟨_, t, rfl, last, tank_ranged convoy_initial (perform_run _ _ _) compass_directed zero_le_one ?_ ?_ rfl last ?_⟩
  · intro u member axis value named
    have small := inputs u member
    rw [named] at small
    simpa using small
  · intro u member j deltaSeconds turretRotation reached named
    exact times u member (j, deltaSeconds) (by rw [named]; rfl)
  · simp only [nimble]
    norm_num

end Game

/-! The ground. -/

variable {e : GameEngine K}

theorem normalizeAxis_zero [IsStrictOrderedRing K] : normalizeAxis (0 : K) = 0 := by
  have none : ⌈(0 - 180) / (360 : K)⌉ = 0 := by
    rw [Int.ceil_eq_iff]
    norm_num
  rw [normalizeAxis, none]
  simp

/-- On level ground the directions of the engine are level, and normalizing a level
direction leaves it level. -/
structure GameEngine.Flat (e : GameEngine K) : Prop where
  forward : ∀ yaw, e.forwardVector ⟨0, yaw, 0⟩ 2 = 0
  right : ∀ yaw, e.rightVector ⟨0, yaw, 0⟩ 2 = 0
  normalize : ∀ dir, dir 2 = 0 → e.normalize dir 2 = 0

theorem realGameEngine_flat : realGameEngine.Flat where
  forward yaw := by simp [realGameEngine, realEngine, Space.ofProd, radians]
  right yaw := by simp [realGameEngine, realEngine, Space.ofProd, radians]
  normalize dir level := by
    simp only [realGameEngine]
    split
    · simp [level]
    · exact level

namespace Tank

def Upright (t : Tank K) : Prop := t.body.rotation.pitch = 0 ∧ t.body.rotation.roll = 0

/-- Only `BeginPlay` changes the height of an upright tank. -/
theorem undergo_height {t t' : Tank K} {deed : Deed K} {out : Unit} (flat : e.Flat)
    (acted : t.undergo e.toEngine deed = some (t', out)) (upright : t.Upright) :
    (∃ possessed, deed = .beginPlay possessed) ∧ t'.body.location 2 = 0 ∨
      (∀ possessed, deed ≠ .beginPlay possessed) ∧ t'.body.location 2 = t.body.location 2 := by
  cases deed with
  | beginPlay possessed =>
      cases acted
      exact .inl ⟨⟨possessed, rfl⟩, by simp [beginPlay, Space.setZ]⟩
  | input axis value =>
      cases acted
      exact .inr ⟨(fun _ same => by cases same), by cases axis <;> rfl⟩
  | tick deltaSeconds mousePos turretRotation reached =>
      obtain ⟨_, f, _, rfl⟩ := undergo_tick acted
      have level : t.body.rotation = ⟨0, t.body.rotation.yaw, 0⟩ := by
        ext
        · exact upright.1
        · rfl
        · exact upright.2
      refine .inr ⟨(fun _ same => by cases same), ?_⟩
      rw [TankPawn.tick_location, TankPawn.move, level]
      simp [flat.forward, flat.right]

variable [IsStrictOrderedRing K]

theorem undergo_upright {t t' : Tank K} {deed : Deed K} {out : Unit} (acted : t.undergo e.toEngine deed = some (t', out))
    (upright : t.Upright) : t'.Upright := by
  cases deed with
  | beginPlay possessed =>
      cases acted
      exact upright
  | input axis value =>
      cases acted
      cases axis <;> exact upright
  | tick deltaSeconds mousePos turretRotation reached =>
      obtain ⟨_, f, _, rfl⟩ := undergo_tick acted
      unfold Upright
      rw [TankPawn.tick_rotation]
      exact ⟨normalizeAxis_zero, normalizeAxis_zero⟩

theorem run_grounded {t₀ t : Tank K} {own : List (Step (Tank K) (Deed K) Unit)} (run : Run (undergo e.toEngine) t₀ own t)
    (flat : e.Flat) (upright : t₀.Upright) :
    t.Upright ∧ ((∃ possessed, .beginPlay possessed ∈ own.map (·.event)) → t.body.location 2 = 0) := by
  refine run.growing (motive := fun own (s : Tank K) =>
    s.Upright ∧ ((∃ possessed, .beginPlay possessed ∈ own.map (·.event)) → s.body.location 2 = 0)) ?nil ?snoc
  case nil => exact ⟨upright, by simp⟩
  case snoc =>
    intro own u _ acted ih
    refine ⟨undergo_upright acted ih.1, ?_⟩
    rintro ⟨possessed, member⟩
    rw [List.map_append, List.mem_append] at member
    rcases undergo_height flat acted ih.1 with ⟨_, zero⟩ | ⟨other, same⟩
    · exact zero
    · rw [same]
      rcases member with early | last
      · exact ih.2 ⟨possessed, early⟩
      · exact absurd (List.mem_singleton.mp last).symm (other possessed)

end Tank

namespace Game

variable [IsStrictOrderedRing K] {g g' : Game K}

/-- In a level where the tanks are placed upright: they stay so, and from `BeginPlay` on they
stay at height zero. The mouse is always taken at the height of the tank. -/
theorem tank_grounded {trace : List (Step (Game K) (Event K) Sight)} (initial : g.Initial)
    (run : Run (step e) g trace g') (flat : e.Flat) (placed : ∀ t ∈ g.tanks, t.Upright) :
    (∀ i t, g'.tanks[i]? = some t → t.Upright ∧
      ((∃ possessed, .beginPlay possessed ∈ trace.filterMap (deed i)) → t.body.location 2 = 0)) ∧
    ∀ u ∈ trace, ∀ deprojected, u.event = .controllerTick deprojected → ∀ i t, u.before.drives i = true →
      u.before.tanks[i]? = some t → u.after.tankController.mousePos 2 = t.body.location 2 := by
  constructor
  · intro i t last
    obtain ⟨t₀, own, found, alone, events⟩ := (tank_driven initial run last).history
    rw [← events]
    exact Tank.run_grounded alone flat (placed t₀ (List.mem_of_getElem? found))
  · intro u member deprojected named i t drives here
    obtain ⟨steered, _, crew⟩ := ((run_steered initial run).2 u member).1
    have apart : u.before.crew.Nodup := by
      rw [crew]
      exact initial.apart
    have move : Transition e u.before u.event u.after u.output := step_transition (run.taken member)
    rw [named] at move
    have after : u.after = u.before.controllerTick e deprojected := by
      generalize u.after = g', u.output = sight at move
      cases move with
      | controllerTick => rfl
      | axis input => cases input
      | unheard trigger | trigger trigger => cases trigger
      | box named => cases named
    have pointer := (steered.pointer_iff apart).mpr drives
    rw [after]
    simp only [controllerTick, pointer, Option.bind_some, here, Option.map_some, TankController.tick]
    have level := flat.normalize (Space.setZ (deprojected.getD u.before.tankController.mousePos) (t.body.location 2) -
      t.body.location) (by simp [Space.setZ])
    simp [level]

theorem quarter_level (n : ℤ) : quarter n 2 = 0 := by
  unfold quarter
  split_ifs <;> rfl

theorem compass_flat : compass.Flat where
  forward _ := quarter_level _
  right _ := quarter_level _
  normalize dir level := by simp [compass, level]

theorem outing_began : 1 < outingRun.1.length := by decide +kernel

theorem tank_grounded_outing : ∃ t, outingRun.2.tanks[0]? = some t ∧ t.body.location 2 = 0 := by
  have there : (outingRun.2.tanks[0]?).isSome = true := by decide +kernel
  obtain ⟨t, last⟩ := Option.isSome_iff_exists.mp there
  have placed : ∀ t ∈ convoy.tanks, t.Upright := by simp [convoy, Tank.Upright, nimble, TankPawn.spawn]
  have known := (tank_grounded convoy_initial (perform_run _ _ _) compass_flat placed).1 0 t last
  have began : deed 0 (outingRun.1.get ⟨1, outing_began⟩) = some (.beginPlay true) := rfl
  exact ⟨t, last, known.2 ⟨true, List.mem_filterMap.mpr ⟨_, List.get_mem _ _, began⟩⟩⟩

end Game

end TankoGeddon
