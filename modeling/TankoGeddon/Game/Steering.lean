import TankoGeddon.Game.Projection
import TankoGeddon.Level.Transitions

/-! Whom the player drives.

`TankPawn` of the controller is at all times the tank that is its pawn, as long as that is
alive: possession sets it, destruction clears it and nothing else touches it. So an input
never reaches a destroyed tank, and never another one than the player's.
-/

set_option autoImplicit false

namespace TankoGeddon

open Foundation (Run Step)

namespace Level

/-- The controller's pawn is changed by possession alone. -/
theorem Transition.controller {l l' : Level} {event : Event} {sight : Sight} (move : Transition l event l' sight)
    (stays : ∀ inPawn, event ≠ .possess inPawn) : l'.controllerPawn = l.controllerPawn := by
  cases move with
  | possess inPawn => exact absurd rfl (stays inPawn)
  | _ => rfl

/-- Otherwise it can only be lost. -/
theorem Transition.keepsPawn {l l' : Level} {event : Event} {sight : Sight} (move : Transition l event l' sight)
    (wired : l.world.links.Wired) (stays : ∀ inPawn, event ≠ .possess inPawn) :
    l'.getPawn = l.getPawn ∨ l'.getPawn = none := by
  unfold getPawn
  rw [move.controller stays]
  cases l.controllerPawn with
  | none => exact .inl rfl
  | some p =>
      cases alive : l'.world.pawnAlive p with
      | false => exact .inr (by simp [Option.filter_some, alive])
      | true =>
          have before : l.world.pawnAlive p = true := by
            by_contra dead
            have gone := move.stays_dead wired (by simpa using dead)
            cases gone.symm.trans alive
          exact .inl (by simp [Option.filter_some, alive, before])

theorem step_possess {l l' : Level} {inPawn : Option PawnId} {sight : Sight}
    (taken : l.step (.possess inPawn) = some (l', sight)) : l'.getPawn = inPawn := by
  unfold step at taken
  split at taken
  · cases taken
  simp only [] at taken
  split at taken
  · next alive =>
    cases taken
    cases inPawn with
    | none => rfl
    | some p => exact Option.filter_eq_some_iff.mpr ⟨rfl, by simpa using alive⟩
  · cases taken

end Level

namespace Game

variable {K : Type}

/-- The pawns that are tanks. -/
def crew (g : Game K) : List PawnId := g.tanks.map (·.pawn)

theorem castTankPawn_eq (g : Game K) (p : PawnId) : g.castTankPawn p = g.crew.findIdx? (· == p) := by
  unfold castTankPawn crew
  rw [List.findIdx?_map]
  rfl

/-- The pointer of the controller is its live pawn, as far as that is a tank. -/
def Steered (g : Game K) : Prop := g.tankController.tankPawn = g.level.getPawn.bind fun p => g.crew.findIdx? (· == p)

theorem crew_modify (g : Game K) (i : TankId) {f : Tank K → Tank K} (same : ∀ t, (f t).pawn = t.pawn) :
    (g.tanks.modify i f).map (·.pawn) = g.crew :=
  Foundation.map_modify_hidden _ _ _ fun t _ => same t

theorem onAxis_crew (g : Game K) (axis : Axis) (value : K) : (g.onAxis axis value).crew = g.crew := by
  unfold onAxis
  split
  · exact crew_modify g _ fun _ => rfl
  · rfl

theorem onAxis_pointer (g : Game K) (axis : Axis) (value : K) :
    (g.onAxis axis value).tankController = g.tankController := by
  unfold onAxis
  split <;> rfl

/-- The engine's part: the pointer is cleared when the pawn is lost. -/
theorem pawnPendingDestroy_pointer (g : Game K) : g.pawnPendingDestroy.tankController.tankPawn =
    if g.level.getPawn.isNone then none else g.tankController.tankPawn := by
  unfold pawnPendingDestroy
  split <;> rfl

theorem Initial.steered [Field K] {g : Game K} (initial : g.Initial) : g.Steered := by
  unfold Steered Level.getPawn
  rw [initial.unpossessed.1, initial.unpossessed.2]
  rfl

theorem controllerTick_pointer [Field K] (e : GameEngine K) (g : Game K) (deprojected : Option (Space K)) :
    (g.controllerTick e deprojected).tankController.tankPawn = g.tankController.tankPawn := by
  simp only [controllerTick, TankController.tick]
  split <;> rfl

theorem Steered.lost {g : Game K} {l : Level} (steered : g.Steered)
    (keeps : l.getPawn = g.level.getPawn ∨ l.getPawn = none) :
    (if l.getPawn.isNone then none else g.tankController.tankPawn) =
      l.getPawn.bind fun p => g.crew.findIdx? (· == p) := by
  rcases keeps with same | gone
  · rw [steered, same]
    cases g.level.getPawn with
    | none => rfl
    | some p => rfl
  · rw [gone]
    rfl

section

variable [Field K] [LinearOrder K] [FloorRing K] {e : GameEngine K} {g g' : Game K}

/-- Tanks are neither made nor exchanged. -/
theorem Transition.crew {event : Event K} {sight : Sight} (move : Transition e g event g' sight) : g'.crew = g.crew := by
  cases move with
  | level | trigger => exact congrArg (List.map _) (withLevel_tanks _ _)
  | setPawn => exact congrArg (List.map _) (withLevel_tanks _ _)
  | axis => exact onAxis_crew _ _ _
  | unheard | controllerTick => rfl
  | beginPlay | tick => exact crew_modify g _ fun _ => rfl
  | box => exact congrArg (List.map _) (withArena_tanks _ _)

/-- What a step does to the player's pawn. -/
theorem step_keepsPawn {event : Event K} {sight : Sight} (wired : g.level.world.links.Wired)
    (taken : g.step e event = some (g', sight)) (stays : ∀ inPawn, event ≠ .setPawn inPawn) :
    g'.level.getPawn = g.level.getPawn ∨ g'.level.getPawn = none := by
  have covers := step_covers (t := ⟨g, event, sight, g'⟩) taken
  unfold Step.Covers levelStep at covers
  cases asked : g.asks event with
  | none =>
      simp only [asked, Option.map_none] at covers
      exact .inl (by rw [covers])
  | some own =>
      simp only [asked, Option.map_some] at covers
      apply (Level.step_transition covers.2.2).keepsPawn wired
      rintro inPawn rfl
      -- the level is asked to possess by the controller alone
      have move := step_transition taken
      cases move with
      | level free =>
          obtain rfl := Option.some.inj asked
          cases free
      | setPawn => exact stays _ rfl
      | axis input => cases (asks_axis input).symm.trans asked
      | unheard trigger idle => simp [asks_trigger trigger, idle] at asked
      | trigger trigger drives => simp [asks_trigger trigger, drives] at asked
      | controllerTick | tick => cases asked
      | beginPlay found => simp [asks, found] at asked
      | box named => simp [(asks_box (g := g) named).1] at asked

theorem step_steered {event : Event K} {sight : Sight} (wired : g.level.world.links.Wired)
    (taken : g.step e event = some (g', sight)) (steered : g.Steered) : g'.Steered := by
  have move := step_transition taken
  have crew := move.crew
  unfold Steered
  rw [crew]
  cases move with
  | @setPawn inPawn l _ possessed =>
      have pawn : (g.withLevel l).level.getPawn = inPawn := by
        rw [withLevel_level]
        exact Level.step_possess possessed
      simp only [setPawn, pawn]
      congr 1
      funext p
      rw [castTankPawn_eq, show (g.withLevel l).crew = g.crew from congrArg (List.map _) (withLevel_tanks _ _)]
  | level | beginPlay =>
      have keeps := step_keepsPawn wired taken fun inPawn same => by cases same
      simp only [withLevel_level] at keeps ⊢
      exact (pawnPendingDestroy_pointer _).trans (steered.lost keeps)
  | trigger trigger =>
      have keeps := step_keepsPawn wired taken (by rintro inPawn rfl; cases trigger)
      simp only [withLevel_level] at keeps ⊢
      exact (pawnPendingDestroy_pointer _).trans (steered.lost keeps)
  | axis =>
      rw [onAxis_pointer, onAxis_level]
      exact steered
  | controllerTick deprojected =>
      rw [controllerTick_pointer]
      exact steered
  | unheard | tick => exact steered
  | box named =>
      have keeps := step_keepsPawn wired taken (by rintro inPawn rfl; cases named)
      simp only [withArena_level] at keeps ⊢
      exact (pawnPendingDestroy_pointer _).trans (steered.lost keeps)

/-- In every run of every game. -/
theorem run_steered {trace : List (Step (Game K) (Event K) Sight)} (initial : g.Initial)
    (run : Run (step e) g trace g') :
    (g'.Steered ∧ g'.level.world.links.Wired ∧ g'.crew = g.crew) ∧
      ∀ t ∈ trace, (t.before.Steered ∧ t.before.level.world.links.Wired ∧ t.before.crew = g.crew) ∧
        t.after.Steered ∧ t.after.level.world.links.Wired ∧ t.after.crew = g.crew := by
  refine run.invariant (fun s => s.Steered ∧ s.level.world.links.Wired ∧ s.crew = g.crew) ?_ ?_
  · exact ⟨initial.steered, initial.level.world.wired, rfl⟩
  · rintro t _ taken ⟨steered, wired, crew⟩
    refine ⟨step_steered wired taken steered, ?_, (step_transition taken).crew.trans crew⟩
    have covers := step_covers (t := t) taken
    unfold Step.Covers levelStep at covers
    cases asked : t.before.asks t.event with
    | none =>
        simp only [asked, Option.map_none] at covers
        rw [covers]
        exact wired
    | some own =>
        simp only [asked, Option.map_some] at covers
        exact (Level.step_transition covers.2.2).wired wired

end

end Game

end TankoGeddon
