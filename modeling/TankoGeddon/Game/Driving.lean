import Mathlib.Data.List.Nodup
import TankoGeddon.Game.Compass
import TankoGeddon.Game.Steering
import TankoGeddon.World.Pools

/-! The history of one tank.

Whatever goes on in a game, a tank only ever sees its `BeginPlay`, the axis inputs the player
gives while it is the player's pawn, and its own ticks, each with what the engine says of the
mouse, of its turret and of how far its sweep got. So its motion is a run of the tank alone,
its axis values are the last that reached it, and it aims at the mouse exactly if it was the
player's pawn when it began play.
-/

set_option autoImplicit false

namespace TankoGeddon

open Foundation (Run Step perform_run)

variable {K : Type}

/-- What befalls a tank. -/
inductive Tank.Deed (K : Type) where
  | beginPlay (possessed : Bool)
  | input (axis : Axis) (value : K)
  | tick (deltaSeconds : K) (mousePos : Space K) (turretRotation : Rotator K) (reached : K)

/-- The member an axis sets. -/
def TankPawn.axisValue {V : Type} (axis : Axis) (t : TankPawn K V) : K :=
  match axis with
  | .moveForward => t.targetForwardAxisValue
  | .moveRight => t.targetRightAxisValue
  | .rotateRight => t.rotateRightAxisValue

theorem TankPawn.axisValue_input {V : Type} (axis other : Axis) (value : K) (t : TankPawn K V) :
    (t.input other value).axisValue axis = if other = axis then value else t.axisValue axis := by
  cases axis <;> cases other <;> rfl

/-- The last value an axis was given. -/
def lastInput (axis : Axis) (initial : K) (deeds : List (Tank.Deed K)) : K :=
  deeds.foldl (fun kept deed =>
    match deed with
    | .input other value => if other = axis then value else kept
    | _ => kept) initial

section

variable [Field K] [LinearOrder K] [FloorRing K]

/-- The mouse is seen through the tank's own pointer. What is in the way of the tank shows
in how far it gets. -/
def Tank.undergo (e : Engine K (Space K)) (t : Tank K) : Tank.Deed K → Option (Tank K × Unit)
  | .beginPlay possessed => some (t.beginPlay possessed, ())
  | .input axis value => some ({ t with body := t.body.input axis value }, ())
  | .tick deltaSeconds mousePos turretRotation reached =>
      let mousePosition := if t.tankController then some mousePos else none
      if 0 ≤ reached ∧ reached ≤ 1 then
        some ({ t with body := t.body.tick e reached { deltaSeconds, mousePosition, turretRotation } }, ())
      else none

theorem Tank.undergo_tick {e : Engine K (Space K)} {t t' : Tank K} {deltaSeconds reached : K} {mousePos : Space K}
    {turretRotation : Rotator K} {out : Unit}
    (acted : t.undergo e (.tick deltaSeconds mousePos turretRotation reached) = some (t', out)) :
    (0 ≤ reached ∧ reached ≤ 1) ∧ ∃ f : Frame K (Space K), f.deltaSeconds = deltaSeconds ∧
      t' = { t with body := t.body.tick e reached f } := by
  simp only [undergo] at acted
  split at acted
  · next sweep =>
    cases acted
    exact ⟨sweep, _, rfl, rfl⟩
  · cases acted

theorem TankPawn.axisValue_tick (e : Engine K (Space K)) (axis : Axis) (reached : K) (t : TankPawn K (Space K))
    (f : Frame K (Space K)) : (t.tick e reached f).axisValue axis = t.axisValue axis := by
  unfold tick rotateTurret
  split <;> cases axis <;> rfl

/-- A tank keeps what it was last told. -/
theorem Tank.run_axisValue {e : Engine K (Space K)} {t₀ t : Tank K} {own : List (Step (Tank K) (Tank.Deed K) Unit)}
    (run : Run (Tank.undergo e) t₀ own t) (axis : Axis) :
    t.body.axisValue axis = lastInput axis (t₀.body.axisValue axis) (own.map (·.event)) := by
  induction run with
  | nil => rfl
  | @cons t₀ t₁ t deed _ own taken _ ih =>
      have first : t₁.body.axisValue axis = lastInput axis (t₀.body.axisValue axis) [deed] := by
        cases deed with
        | beginPlay possessed =>
            cases taken
            cases axis <;> rfl
        | input other value =>
            cases taken
            exact TankPawn.axisValue_input axis other value t₀.body
        | tick deltaSeconds mousePos turretRotation reached =>
            obtain ⟨_, f, _, rfl⟩ := Tank.undergo_tick taken
            exact TankPawn.axisValue_tick e axis reached t₀.body f
      rw [ih, first]
      rfl

end

namespace Game

/-- The tank is the player's pawn. -/
def drives (g : Game K) (i : TankId) : Bool := (g.tanks[i]?).any fun t => g.level.getPawn == some t.pawn

/-- What a step of the game is to one tank. -/
def deed (i : TankId) (t : Step (Game K) (Event K) Sight) : Option (Tank.Deed K) :=
  match t.event with
  | .moveForward value => if t.before.drives i then some (.input .moveForward value) else none
  | .moveRight value => if t.before.drives i then some (.input .moveRight value) else none
  | .rotateRight value => if t.before.drives i then some (.input .rotateRight value) else none
  | .beginPlay j _ _ => if j = i then some (.beginPlay (t.after.drives i)) else none
  | .tick j deltaSeconds turretRotation reached =>
      if j = i then some (.tick deltaSeconds t.before.tankController.mousePos turretRotation reached) else none
  | _ => none

theorem deed_axis {t : Step (Game K) (Event K) Sight} {axis : Axis} {value : K}
    (input : t.event.axis = some (axis, value)) (i : TankId) :
    deed i t = if t.before.drives i then some (.input axis value) else none := by
  obtain ⟨g, event, sight, g'⟩ := t
  cases event <;> cases input <;> rfl

/-- With every tank a pawn of its own, the pointer says which tank is the player's. -/
theorem Steered.pointer_iff {g : Game K} (steered : g.Steered) (apart : g.crew.Nodup) {i : TankId} :
    g.tankController.tankPawn = some i ↔ g.drives i = true := by
  rw [steered, drives]
  cases pawn : g.level.getPawn with
  | none => simp
  | some p =>
      rw [Option.bind_some, List.findIdx?_eq_some_iff_getElem, Option.any_eq_true]
      constructor
      · rintro ⟨inside, same, _⟩
        have inside' : i < g.tanks.length := by simpa [crew] using inside
        refine ⟨g.tanks[i], List.getElem?_eq_getElem inside', ?_⟩
        rw [beq_iff_eq] at same ⊢
        rw [← same]
        simp only [crew, List.getElem_map]
      · rintro ⟨t, found, same⟩
        obtain ⟨inside, rfl⟩ := List.getElem?_eq_some_iff.mp found
        have inside' : i < g.crew.length := by simpa [crew] using inside
        have named : g.crew[i] = p := by
          simp only [crew, List.getElem_map]
          exact (Option.some.inj (beq_iff_eq.mp same)).symm
        refine ⟨inside', by simpa using named, ?_⟩
        intro j before again
        have bound : j < g.crew.length := before.trans inside'
        have other : g.crew[j] = g.crew[i] := by simpa [named] using again
        have same := (List.Nodup.getElem_inj_iff apart).mp other
        omega

section

variable [Field K] [LinearOrder K] [FloorRing K] {e : GameEngine K} {g g' : Game K}

/-- To one tank a step is what its deed says. -/
theorem step_tracks {t : Step (Game K) (Event K) Sight} (steered : t.before.Steered) (apart : t.before.crew.Nodup)
    (taken : t.before.step e t.event = some (t.after, t.output)) (i : TankId) :
    t.Tracks (Tank.undergo e.toEngine) (fun g => g.tanks[i]?) (deed i) := by
  have told : ∀ tank, t.before.tanks[i]? = some tank →
      match deed i t with
      | some own => ∃ next, tank.undergo e.toEngine own = some (next, ()) ∧ t.after.tanks[i]? = some next
      | none => t.after.tanks[i]? = some tank := by
    intro tank here
    have move : Transition e t.before t.event t.after t.output := step_transition taken
    obtain ⟨g, event, sight, g'⟩ := t
    simp only at move here steered apart ⊢
    have levels : ∀ l, (g.withLevel l).tanks[i]? = some tank := by
      intro l
      rw [withLevel_tanks]
      exact here
    cases move with
    | level | setPawn => exact levels _
    | @axis _ axis value input =>
        rw [deed_axis input]
        unfold onAxis
        cases drives : g.drives i with
        | true =>
            rw [(steered.pointer_iff apart).mpr drives]
            exact ⟨{ tank with body := tank.body.input axis value }, rfl, by simp [here]⟩
        | false =>
            cases pointer : g.tankController.tankPawn with
            | none => exact here
            | some j =>
                have other : j ≠ i := by
                  rintro rfl
                  cases ((steered.pointer_iff apart).mp pointer).symm.trans drives
                simpa [other] using here
    | unheard trigger => cases event <;> cases trigger <;> exact here
    | trigger trigger => cases event <;> cases trigger <;> exact levels _
    | controllerTick => exact here
    | @beginPlay j main alternate t l _ found began =>
        simp only [deed]
        by_cases same : j = i
        · subst same
          obtain rfl := Option.some.inj (found.symm.trans here)
          rw [if_pos rfl]
          refine ⟨_, rfl, ?_⟩
          simp [drives, here, Tank.beginPlay]
        · rw [if_neg same]
          simpa [same] using here
    | @tick j deltaSeconds turretRotation reached t found alive begun sweep =>
        simp only [deed]
        by_cases same : j = i
        · subst same
          rw [if_pos rfl]
          refine ⟨{ tank with body := tank.body.tick e.toEngine reached (g.frame tank deltaSeconds turretRotation) }, ?_,
            by simp [here]⟩
          simp only [Tank.undergo, if_pos sweep, frame]
        · rw [if_neg same]
          simpa [same] using here
    | @box _ _ a named =>
        have kept : (g.withArena a).tanks[i]? = some tank := by
          rw [withArena_tanks]
          exact here
        cases event <;> cases named <;> exact kept
  constructor
  · intro tank own here acts
    have known := told tank here
    rw [acts] at known
    obtain ⟨next, acted, after⟩ := known
    exact ⟨next, (), acted, after⟩
  · intro tank here acts
    have known := told tank here
    rw [acts] at known
    exact known

/-- The tank was there before the step. -/
theorem Transition.tank_before {event : Event K} {sight : Sight} (move : Transition e g event g' sight) {i : TankId}
    {tank' : Tank K} (here : g'.tanks[i]? = some tank') : ∃ tank, g.tanks[i]? = some tank ∧ tank.pawn = tank'.pawn := by
  have listed : g.crew[i]? = some tank'.pawn := by
    rw [← move.crew]
    simp [Game.crew, here]
  simpa [Game.crew] using listed

theorem step_begun {event : Event K} {sight : Sight} (wired : g.level.world.links.Wired)
    (taken : g.step e event = some (g', sight)) {p : PawnId} (begun : g.level.begun p = true) :
    g'.level.begun p = true := by
  have covers := step_covers (t := ⟨g, event, sight, g'⟩) taken
  unfold Step.Covers levelStep at covers
  cases asked : g.asks event with
  | none =>
      simp only [asked, Option.map_none] at covers
      rw [covers]
      exact begun
  | some own =>
      simp only [asked, Option.map_some] at covers
      exact (Level.step_transition covers.2.2).stays_begun wired begun

/-- `BeginPlay` is for a tank that has not begun play. -/
theorem step_begins {t : Step (Game K) (Event K) Sight} (taken : t.before.step e t.event = some (t.after, t.output))
    {i : TankId} {tank : Tank K} (here : t.before.tanks[i]? = some tank) {possessed : Bool}
    (acts : deed i t = some (.beginPlay possessed)) :
    t.before.level.begun tank.pawn = false ∧ t.after.level.begun tank.pawn = true := by
  have move : Transition e t.before t.event t.after t.output := step_transition taken
  obtain ⟨g, event, sight, g'⟩ := t
  simp only at move here ⊢
  cases move with
  | @beginPlay j _ _ u l _ found began =>
      have same : j = i := by
        by_contra other
        simp [deed, other] at acts
      subst same
      obtain rfl := Option.some.inj (found.symm.trans here)
      cases Level.step_transition began with
      | world stepped =>
          have begins := World.beginPlay_begins stepped
          rw [withLevel_level]
          exact begins
  | axis input =>
      rw [deed_axis input] at acts
      split at acts <;> cases acts
  | unheard trigger | trigger trigger => cases event <;> cases trigger <;> cases acts
  | box named => cases event <;> cases named <;> cases acts
  | tick =>
      simp only [deed] at acts
      split at acts <;> cases acts
  | level | setPawn | controllerTick => cases acts

/-- A tank looks where the mouse is exactly if it began play as the player's pawn. -/
theorem run_aims {trace : List (Step (Game K) (Event K) Sight)} (initial : g.Initial) (run : Run (step e) g trace g') :
    ∀ i tank, g'.tanks[i]? = some tank →
      (tank.tankController = true ↔ .beginPlay true ∈ trace.filterMap (deed i)) ∧
      ∀ possessed, .beginPlay possessed ∈ trace.filterMap (deed i) → g'.level.begun tank.pawn = true := by
  refine run.growing (motive := fun trace (s : Game K) => ∀ i tank, s.tanks[i]? = some tank →
    (tank.tankController = true ↔ .beginPlay true ∈ trace.filterMap (deed i)) ∧
      ∀ possessed, .beginPlay possessed ∈ trace.filterMap (deed i) → s.level.begun tank.pawn = true) ?nil ?snoc
  case nil =>
    intro i tank here
    have idle := (initial.tanks tank (List.mem_of_getElem? here)).2.1
    simp [idle]
  case snoc =>
    intro trace t prior taken ih i tank' here'
    obtain ⟨steered, wired, crew⟩ := (run_steered initial prior).1
    have apart : t.before.crew.Nodup := by
      rw [crew]
      exact initial.apart
    obtain ⟨tank, here, pawn⟩ := (step_transition taken).tank_before here'
    obtain ⟨aims, begun⟩ := ih i tank here
    have tracks := step_tracks steered apart taken i
    rw [← pawn, List.filterMap_append, List.filterMap_cons, List.filterMap_nil]
    have later : ∀ possessed, .beginPlay possessed ∈ trace.filterMap (deed i) → t.after.level.begun tank.pawn = true :=
      fun possessed member => step_begun wired taken (begun possessed member)
    cases acts : deed i t with
    | none =>
        obtain rfl := Option.some.inj ((tracks.left tank here acts).symm.trans here')
        simp only [List.append_nil]
        exact ⟨aims, later⟩
    | some own =>
        obtain ⟨next, _, acted, after⟩ := tracks.taken tank own here acts
        obtain rfl := Option.some.inj (after.symm.trans here')
        cases own with
        | beginPlay possessed =>
            obtain ⟨fresh, begins⟩ := step_begins taken here acts
            -- an earlier one would have begun it
            have first : ∀ b, .beginPlay b ∉ trace.filterMap (deed i) := by
              intro b member
              cases (begun b member).symm.trans fresh
            cases acted
            refine ⟨?_, fun _ _ => begins⟩
            simp [Tank.beginPlay, first, eq_comm]
        | input axis value =>
            cases acted
            simp only [List.mem_append, List.mem_singleton, reduceCtorEq, or_false]
            exact ⟨aims, later⟩
        | tick deltaSeconds mousePos turretRotation reached =>
            obtain ⟨_, f, _, rfl⟩ := Tank.undergo_tick acted
            simp only [List.mem_append, List.mem_singleton, reduceCtorEq, or_false]
            exact ⟨aims, later⟩

/-- What the game did to a tank. -/
structure Driven (e : GameEngine K) (g : Game K) (trace : List (Step (Game K) (Event K) Sight)) (i : TankId)
    (tank : Tank K) : Prop where
  history : ∃ t₀ own, g.tanks[i]? = some t₀ ∧ Run (Tank.undergo e.toEngine) t₀ own tank ∧
    own.map (·.event) = trace.filterMap (deed i)
  inputs : ∀ axis, tank.body.axisValue axis = lastInput axis 0 (trace.filterMap (deed i))
  aims : tank.tankController = true ↔ .beginPlay true ∈ trace.filterMap (deed i)

theorem tank_driven {trace : List (Step (Game K) (Event K) Sight)} (initial : g.Initial) (run : Run (step e) g trace g')
    {i : TankId} {tank : Tank K} (here : g'.tanks[i]? = some tank) : Driven e g trace i tank := by
  obtain ⟨_, each⟩ := run_steered initial run
  obtain ⟨t₀, start⟩ : ∃ t₀, g.tanks[i]? = some t₀ := by
    have listed : g.crew[i]? = some tank.pawn := by
      rw [← (run_steered initial run).1.2.2]
      simp [crew, here]
    obtain ⟨t₀, found, _⟩ : ∃ t₀, g.tanks[i]? = some t₀ ∧ t₀.pawn = tank.pawn := by simpa [crew] using listed
    exact ⟨t₀, found⟩
  have tracks : ∀ t ∈ trace, t.Tracks (Tank.undergo e.toEngine) (fun g => g.tanks[i]?) (deed i) := by
    intro t member
    obtain ⟨steered, _, crew⟩ := (each t member).1
    apply step_tracks steered _ (run.taken member)
    rw [crew]
    exact initial.apart
  obtain ⟨own, tank', shown, alone, events⟩ := run.component_from (fun g => g.tanks[i]?) (deed i) tracks start
  obtain rfl := Option.some.inj (shown.symm.trans here)
  refine ⟨⟨t₀, own, start, alone, events⟩, ?_, (run_aims initial run i tank' here).1⟩
  intro axis
  have zero : t₀.body.axisValue axis = 0 := by
    obtain ⟨_, _, forward, right, rotate, _⟩ := initial.tanks t₀ (List.mem_of_getElem? start)
    cases axis
    · exact forward
    · exact right
    · exact rotate
  rw [Tank.run_axisValue alone axis, zero, events]

end

/-- A tank whose turning is smoothed within a frame. -/
def nimble (location : Space ℚ) : TankPawn ℚ (Space ℚ) :=
  { TankPawn.spawn location ⟨0, 0, 0⟩ with rotateSpeed := 900, interpolationKey := 1 }

/-- Two tanks, and the pawns they are. -/
def convoy : Game ℚ where
  level := { world := World.skirmish }
  tanks := [⟨0, nimble ![0, 0, 30], false⟩, ⟨1, nimble ![10, 900, 30], false⟩]
  tankController := { mousePos := ![0, 0, 0] }

theorem convoy_initial : convoy.Initial where
  level := ⟨World.skirmish_initial, by simp [convoy], rfl⟩
  unpossessed := ⟨rfl, rfl⟩
  apart := by decide
  tanks := by simp [convoy, World.skirmish, nimble, TankPawn.spawn]
  ammoBoxes := by simp [convoy]

/-- The player begins in the first tank, drives off, turns by a quarter, fires, and takes
the second. In its next frame the first meets an obstacle half way. -/
def outing : List (Event ℚ) :=
  [.setPawn (some 0), .beginPlay 0 {} {}, .beginPlay 1 {} {}, .controllerTick (some ![500, 0, 90]), .moveForward 1,
    .rotateRight 1, .tick 0 (1 / 10) ⟨0, 90, 0⟩ 1, .fire {}, .setPawn (some 1), .controllerTick (some ![10, 2000, 55]),
    .moveForward (1 / 2), .tick 0 (1 / 10) ⟨0, 171, 0⟩ (1 / 2), .tick 1 (1 / 10) ⟨0, 0, 0⟩ 1]

def outingRun : List (Step (Game ℚ) (Event ℚ) Sight) × Game ℚ := Foundation.perform (step compass) convoy outing

/-- The tank that ticks, and for how long. -/
def Event.ticking : Event K → Option (TankId × K)
  | .tick i deltaSeconds _ _ => some (i, deltaSeconds)
  | _ => none

/-- Where the mouse points. -/
def Event.pointing : Event K → Option (Space K)
  | .controllerTick deprojected => deprojected
  | _ => none

/-- All that the engine is asked on the outing, it answers as the one over the reals does. -/
theorem outing_exact : ∀ u ∈ outingRun.1,
    (∀ t ∈ u.before.tanks,
      realGameEngine.forwardVector t.body.rotation.toReal = (compass.forwardVector t.body.rotation).toReal ∧
      realGameEngine.rightVector t.body.rotation.toReal = (compass.rightVector t.body.rotation).toReal) ∧
    (∀ tick ∈ u.event.ticking, ∀ t ∈ u.after.tanks[tick.1]?, t.tankController = true →
      realGameEngine.findLookAtRotation t.body.location.toReal u.before.tankController.mousePos.toReal =
        (compass.findLookAtRotation t.body.location u.before.tankController.mousePos).toReal) ∧
    ∀ position ∈ u.event.pointing, ∀ i ∈ u.before.tankController.tankPawn, ∀ t ∈ u.before.tanks[i]?,
      realGameEngine.normalize (Space.setZ position t.body.location.z - t.body.location).toReal =
        (compass.normalize (Space.setZ position t.body.location.z - t.body.location)).toReal := by
  have turned : ∀ u ∈ outingRun.1, ∀ t ∈ u.before.tanks, t.body.rotation.pitch = 0 ∧ t.body.rotation.roll = 0 ∧
      (t.body.rotation.yaw = (0 : ℤ) * 90 ∨ t.body.rotation.yaw = (1 : ℤ) * 90 ∨ t.body.rotation.yaw = (2 : ℤ) * 90) := by
    decide +kernel
  have looks : ∀ u ∈ outingRun.1, ∀ tick ∈ u.event.ticking, ∀ t ∈ u.after.tanks[tick.1]?, t.tankController = true →
      u.before.tankController.mousePos 2 = t.body.location 2 ∧
        (u.before.tankController.mousePos 0 = t.body.location 0 ∨
          u.before.tankController.mousePos 1 = t.body.location 1) := by
    decide +kernel
  have points : ∀ u ∈ outingRun.1, ∀ position ∈ u.event.pointing, ∀ i ∈ u.before.tankController.tankPawn,
      ∀ t ∈ u.before.tanks[i]?,
        ∃ k : Fin 3, (∀ j, j ≠ k → (Space.setZ position t.body.location.z - t.body.location) j = 0) ∧
          1 / 10 ^ 4 < |(Space.setZ position t.body.location.z - t.body.location) k| := by
    decide +kernel
  intro u member
  refine ⟨?_, ?_, ?_⟩
  · intro t inside
    obtain ⟨pitch, roll, yaw⟩ := turned u member t inside
    obtain ⟨n, yaw⟩ : ∃ n : ℤ, t.body.rotation.yaw = n * 90 := by
      rcases yaw with yaw | yaw | yaw <;> exact ⟨_, yaw⟩
    have level : t.body.rotation = ⟨0, n * 90, 0⟩ := Rotator.ext pitch yaw roll
    rw [level]
    exact ⟨compass_forward n, compass_right n⟩
  · intro tick ticks t here aims
    obtain ⟨level, axis⟩ := looks u member tick ticks t here aims
    exact compass_findLookAtRotation level axis
  · intro position pointed i pointer t here
    obtain ⟨k, axis, long⟩ := points u member position pointed i pointer t here
    exact compass_normalize axis long

/-- The first tank goes on as it was told before the player left it. -/
theorem tank_driven_outing : outingRun.1.length = 13 ∧
    ∃ tank, outingRun.2.tanks[0]? = some tank ∧ Driven compass convoy outingRun.1 0 tank ∧
      tank.body.location 1 = 5 ∧ tank.body.rotation.yaw = 180 := by
  have there : (outingRun.2.tanks[0]?.map fun tank => (tank.body.location 1, tank.body.rotation.yaw)) =
      some (5, 180) := by decide +kernel
  obtain ⟨tank, here, same⟩ := Option.map_eq_some_iff.mp there
  obtain ⟨location, yaw⟩ := Prod.mk.inj same
  exact ⟨by decide +kernel, tank, here, tank_driven convoy_initial (perform_run _ _ _) here, location, yaw⟩

end Game

end TankoGeddon
