import TankoGeddon.Foundation.Table
import TankoGeddon.Game.Basic

/-! What a step of the game does, said once. -/

set_option autoImplicit false

namespace TankoGeddon.Game

variable {K : Type}

/-- An axis and the value a frame gives it. -/
def Event.axis : Event K → Option (Axis × K)
  | .moveForward value => some (.moveForward, value)
  | .moveRight value => some (.moveRight, value)
  | .rotateRight value => some (.rotateRight, value)
  | _ => none

/-- What a trigger presses. -/
def Event.trigger : Event K → Option (PawnId → World.Event)
  | .fire reply => some (.fire · reply)
  | .alternateFire reply => some (.alternateFire · reply)
  | _ => none

def Event.box : Event K → Option Arena.Event
  | .ammoBoxOverlap b otherActor => some (.ammoBoxOverlap b otherActor)
  | .newCannonBoxOverlap b otherActor main alternate => some (.newCannonBoxOverlap b otherActor main alternate)
  | .spawnAmmoBox ammoBoxVolume => some (.spawnAmmoBox ammoBoxVolume)
  | .spawnNewCannonBox cannonClass => some (.spawnNewCannonBox cannonClass)
  | _ => none

/-- The pawn of the tank the controller points to. -/
def driven (g : Game K) : Option PawnId := (g.tankController.tankPawn.bind (g.tanks[·]?)).map (·.pawn)

/-- The level goes on, and a pawn it destroyed is taken from the controller. -/
def withLevel (g : Game K) (l : Level) : Game K := ({ g with level := l } : Game K).pawnPendingDestroy

def withArena (g : Game K) (a : Arena) : Game K :=
  ({ g with
      level := { g.level with world := a.world }
      ammoBoxes := a.ammoBoxes
      newCannonBoxes := a.newCannonBoxes } : Game K).pawnPendingDestroy

/-! What is left alone. -/

@[simp] theorem pawnPendingDestroy_level (g : Game K) : g.pawnPendingDestroy.level = g.level := by
  unfold pawnPendingDestroy
  split <;> rfl

@[simp] theorem pawnPendingDestroy_tanks (g : Game K) : g.pawnPendingDestroy.tanks = g.tanks := by
  unfold pawnPendingDestroy
  split <;> rfl

@[simp] theorem withLevel_level (g : Game K) (l : Level) : (g.withLevel l).level = l :=
  pawnPendingDestroy_level { g with level := l }

@[simp] theorem withLevel_tanks (g : Game K) (l : Level) : (g.withLevel l).tanks = g.tanks :=
  pawnPendingDestroy_tanks { g with level := l }

@[simp] theorem withArena_level (g : Game K) (a : Arena) : (g.withArena a).level = { g.level with world := a.world } :=
  pawnPendingDestroy_level _

@[simp] theorem withArena_tanks (g : Game K) (a : Arena) : (g.withArena a).tanks = g.tanks :=
  pawnPendingDestroy_tanks _

@[simp] theorem onAxis_level (g : Game K) (axis : Axis) (value : K) : (g.onAxis axis value).level = g.level := by
  unfold onAxis
  split <;> rfl

/-! One step. -/

section

variable [Field K] [LinearOrder K] [FloorRing K]

inductive Transition (e : GameEngine K) (g : Game K) : Event K → Game K → Sight → Prop
  | level {event : Level.Event} {l : Level} {sight : Sight} (free : g.bypasses event = false)
      (taken : g.level.step event = some (l, sight)) :
      Transition e g (.level event) (g.withLevel l) sight
  | setPawn {inPawn : Option PawnId} {l : Level} {sight : Sight}
      (taken : g.level.step (.possess inPawn) = some (l, sight)) :
      Transition e g (.setPawn inPawn) ((g.withLevel l).setPawn inPawn) sight
  | axis {event : Event K} {axis : Axis} {value : K} (input : event.axis = some (axis, value)) :
      Transition e g event (g.onAxis axis value) {}
  | unheard {event : Event K} {press : PawnId → World.Event} (trigger : event.trigger = some press)
      (idle : g.driven = none) : Transition e g event g {}
  | trigger {event : Event K} {press : PawnId → World.Event} {p : PawnId} {l : Level} {sight : Sight}
      (trigger : event.trigger = some press) (drives : g.driven = some p)
      (taken : g.level.step (.world (press p)) = some (l, sight)) :
      Transition e g event (g.withLevel l) sight
  | controllerTick (deprojected : Option (Space K)) :
      Transition e g (.controllerTick deprojected) (g.controllerTick e deprojected) {}
  | beginPlay {i : TankId} {main alternate : CannonReply} {t : Tank K} {l : Level} {sight : Sight}
      (found : g.tanks[i]? = some t) (taken : g.level.step (.world (.beginPlay t.pawn main alternate)) = some (l, sight)) :
      Transition e g (.beginPlay i main alternate)
        { g.withLevel l with tanks := g.tanks.modify i (Tank.beginPlay (l.getPawn == some t.pawn)) } sight
  | tick {i : TankId} {deltaSeconds : K} {turretRotation : Rotator K} {reached : K} {t : Tank K}
      (found : g.tanks[i]? = some t)
      (alive : g.level.world.pawnAlive t.pawn = true)
      (begun : g.level.world.pawns[t.pawn]?.any (·.bActorHasBegunPlay) = true) (sweep : 0 ≤ reached ∧ reached ≤ 1) :
      Transition e g (.tick i deltaSeconds turretRotation reached)
        { g with tanks := g.tanks.modify i fun t =>
            { t with body := t.body.tick e.toEngine reached (g.frame t deltaSeconds turretRotation) } } {}
  | box {event : Event K} {boxEvent : Arena.Event} {a : Arena} (named : event.box = some boxEvent)
      (taken : g.arena.step boxEvent = some (a, ())) : Transition e g event (g.withArena a) {}

theorem onTrigger_transition {e : GameEngine K} {g g' : Game K} {event : Event K} {press : PawnId → World.Event}
    {sight : Sight} (trigger : event.trigger = some press) (taken : g.onTrigger press = some (g', sight)) :
    Transition e g event g' sight := by
  unfold onTrigger at taken
  split at taken
  · next t found =>
    obtain ⟨next, stepped, same⟩ := Option.map_eq_some_iff.mp taken
    cases same
    exact .trigger trigger (by rw [driven, found]; rfl) stepped
  · next idle =>
    cases taken
    exact .unheard trigger (by rw [driven, idle]; rfl)

theorem onArena_transition {e : GameEngine K} {g g' : Game K} {event : Event K} {boxEvent : Arena.Event}
    {sight : Sight} (named : event.box = some boxEvent) (taken : g.onArena boxEvent = some (g', sight)) :
    Transition e g event g' sight := by
  obtain ⟨⟨a, _⟩, stepped, same⟩ := Option.map_eq_some_iff.mp taken
  cases same
  exact .box named stepped

theorem step_transition {e : GameEngine K} {g g' : Game K} {event : Event K} {sight : Sight}
    (taken : g.step e event = some (g', sight)) : Transition e g event g' sight := by
  unfold step at taken
  split at taken
  · cases taken
  cases event with
  | level event =>
      simp only [] at taken
      split at taken
      · cases taken
      · next free =>
        obtain ⟨next, stepped, same⟩ := Option.map_eq_some_iff.mp taken
        cases same
        exact .level (by simpa using free) stepped
  | setPawn inPawn =>
      obtain ⟨next, stepped, same⟩ := Option.map_eq_some_iff.mp taken
      obtain ⟨below, possessed, same'⟩ := Option.map_eq_some_iff.mp stepped
      cases same'
      cases same
      exact .setPawn possessed
  | moveForward | moveRight | rotateRight =>
      cases taken
      exact .axis rfl
  | fire reply => exact onTrigger_transition rfl taken
  | alternateFire reply => exact onTrigger_transition rfl taken
  | controllerTick deprojected =>
      cases taken
      exact .controllerTick deprojected
  | beginPlay i main alternate =>
      simp only [beginPlay] at taken
      split at taken
      · cases taken
      next t found =>
      obtain ⟨next, stepped, same⟩ := Option.map_eq_some_iff.mp taken
      obtain ⟨below, began, same'⟩ := Option.map_eq_some_iff.mp stepped
      cases same'
      cases same
      change Transition e g _ { g.withLevel below.1 with
        tanks := (g.withLevel below.1).tanks.modify i
          (Tank.beginPlay ((g.withLevel below.1).level.getPawn == some t.pawn)) } below.2
      rw [withLevel_tanks, withLevel_level]
      exact .beginPlay found began
  | tick i deltaSeconds turretRotation reached =>
      simp only [tick] at taken
      split at taken
      · cases taken
      next t found =>
      split at taken
      · next able =>
        cases taken
        obtain ⟨lives, sweep⟩ := Bool.and_eq_true_iff.mp able
        obtain ⟨alive, begun⟩ := Bool.and_eq_true_iff.mp lives
        have same : (g.tanks.modify i fun u =>
              { u with body := t.body.tick e.toEngine reached (g.frame t deltaSeconds turretRotation) }) =
            g.tanks.modify i fun u =>
              { u with body := u.body.tick e.toEngine reached (g.frame u deltaSeconds turretRotation) } := by
          apply Foundation.modify_congr
          intro u here
          obtain rfl := Option.some.inj (found.symm.trans here)
          rfl
        rw [same]
        exact .tick found alive begun (of_decide_eq_true sweep)
      · cases taken
  | ammoBoxOverlap | newCannonBoxOverlap | spawnAmmoBox | spawnNewCannonBox => exact onArena_transition rfl taken

end

end TankoGeddon.Game
