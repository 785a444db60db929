import TankoGeddon.Foundation.Projection
import TankoGeddon.Level.Basic

/-! The world inside a level.

A level asks its world for at most one event in a step. With the other steps left out,
what the world of a level does is a run of the world.
-/

set_option autoImplicit false

namespace TankoGeddon.Level

open Foundation (Run Step)

/-- The cannon fires when `Targeting` gets through its conditions. -/
def triggers (l : Level) (sighting : Sighting) (turret : Turret) : Bool :=
  turret.playerPawn.isSome && turret.isPlayerInRange sighting && turret.canFire sighting &&
    l.isReadyToFire turret.pawn

/-- What an event of the level asks of the world. -/
def asks (l : Level) : Event → Option World.Event
  | .world event => some event
  | .beginPlay i main alternate => l.turrets[i]?.map fun turret => .beginPlay turret.pawn main alternate
  | .targeting i sighting reply =>
      (l.turrets[i]?.filter (l.triggers sighting)).map fun turret => .fire turret.pawn reply
  | .possess _ | .collectGarbage => none

/-- The world's step inside a step of the level. -/
def worldStep (t : Step Level Event Sight) : Option (Step World World.Event Report) :=
  (t.before.asks t.event).map fun event => ⟨t.before.world, event, t.output.report, t.after.world⟩

/-- Both ways a step of the level can go for its world. -/
def Reaches (l : Level) (event : Event) (l' : Level) (sight : Sight) : Prop :=
  match l.asks event with
  | some event => l.world.step event = some (l'.world, sight.report)
  | none => l'.world = l.world ∧ sight.report = {}

theorem targeting_reaches {l l' : Level} {i : Nat} {sighting : Sighting} {reply : Reply} {turret : Turret}
    {sight : Sight} (found : l.turrets[i]? = some turret)
    (taken : l.targeting i turret sighting reply = some (l', sight)) :
    l.Reaches (.targeting i sighting reply) l' sight := by
  have asked : l.asks (.targeting i sighting reply) =
      if l.triggers sighting turret then some (.fire turret.pawn reply) else none := by
    simp only [asks, found, Option.filter_some]
    split <;> rfl
  unfold Reaches
  rw [asked]
  unfold targeting at taken
  cases pointer : turret.playerPawn with
  | none =>
      rw [pointer] at taken
      cases taken
      simp [triggers, pointer]
  | some p =>
      rw [pointer] at taken
      simp only [] at taken
      cases range : turret.isPlayerInRange sighting with
      | false =>
          simp only [range, Bool.false_eq_true, if_false] at taken
          cases taken
          simp [triggers, range]
      | true =>
          simp only [range, if_true] at taken
          -- what is ready to fire is read before the turret turns
          cases ready : turret.canFire sighting && l.isReadyToFire turret.pawn with
          | false =>
              have refused : l.triggers sighting turret = false := by
                simp only [triggers, pointer, range, Bool.and_assoc, ready, Bool.and_false]
              rw [refused]
              split at taken
              · next loaded => exact absurd (loaded.symm.trans ready) (by simp)
              · cases taken
                exact ⟨rfl, rfl⟩
          | true =>
              have pulled : l.triggers sighting turret = true := by
                simp only [triggers, pointer, range, Bool.and_assoc, ready, Option.isSome_some, Bool.and_true]
              rw [pulled]
              split at taken
              · split at taken
                · cases taken
                · next w report fired =>
                  cases taken
                  exact fired
              · next unloaded => exact absurd ready unloaded

theorem step_reaches {l l' : Level} {event : Event} {sight : Sight} (taken : l.step event = some (l', sight)) :
    l.Reaches event l' sight := by
  unfold step at taken
  split at taken
  · cases taken
  cases event with
  | world event =>
      simp only [] at taken
      split at taken
      · cases taken
      · obtain ⟨next, stepped, same⟩ := Option.map_eq_some_iff.mp taken
        cases same
        exact stepped
  | possess inPawn =>
      simp only [] at taken
      split at taken <;> cases taken
      exact ⟨rfl, rfl⟩
  | beginPlay i main alternate =>
      simp only [beginPlay] at taken
      split at taken
      · cases taken
      next turret found =>
      split at taken
      · cases taken
      next w report stepped =>
      cases taken
      simp only [Reaches, asks, found, Option.map_some]
      exact stepped
  | targeting i sighting reply =>
      simp only [] at taken
      split at taken
      · cases taken
      next turret found =>
      split at taken
      · exact targeting_reaches found taken
      · cases taken
  | collectGarbage =>
      cases taken
      exact ⟨rfl, rfl⟩

theorem step_covers {t : Step Level Event Sight} (taken : t.before.step t.event = some (t.after, t.output)) :
    t.Covers World.step (·.world) worldStep := by
  have reaches := step_reaches taken
  unfold Reaches at reaches
  unfold Step.Covers worldStep
  cases asked : t.before.asks t.event with
  | none =>
      rw [asked] at reaches
      exact reaches.1
  | some event =>
      rw [asked] at reaches
      exact ⟨rfl, rfl, reaches⟩

theorem run_world {l l' : Level} {trace : List (Step Level Event Sight)} (run : Run step l trace l') :
    Run World.step l.world (trace.filterMap worldStep) l'.world :=
  run.projected (·.world) worldStep fun _ member => step_covers (run.taken member)

end TankoGeddon.Level
