import TankoGeddon.Game.Transitions
import TankoGeddon.Level.Projection

/-! The level and the world inside a game.

What the player, the tanks and the boxes do reaches the level as one of its own events, and
a game asks for at most one of them in a step. So whatever holds of every run of a level, or
of a world, holds in a game.
-/

set_option autoImplicit false

namespace TankoGeddon

open Foundation (Run Step)

namespace Arena

/-- What a box asks of the world, once a tank has begun to overlap it. -/
def asks (a : Arena) : Event → Option World.Event
  | .world event => some event
  | .ammoBoxOverlap b otherActor =>
      match a.ammoBoxes[b]?, a.castTankPawn otherActor with
      | some box, some _ =>
          (box.cannon.filter fun c => a.world.cannons[c]?.any fun y => y.currentAmmo != y.maxAmmo).map fun c =>
            .increaseAmmoValue c box.ammoBoxVolume
      | _, _ => none
  | .newCannonBoxOverlap b otherActor main alternate =>
      match a.newCannonBoxes[b]?, a.castTankPawn otherActor with
      | some box, some p => some (.setupCannon p box.cannonClass main alternate)
      | _, _ => none
  | .spawnAmmoBox _ | .spawnNewCannonBox _ => none

/-- A box is no more than the call it makes. -/
def Reaches (a : Arena) (event : Event) (a' : Arena) : Prop :=
  match a.asks event with
  | some event => a.world.step event = some (a'.world, {})
  | none => a'.world = a.world

theorem ammoBoxOverlap_reaches {a a' : Arena} {b : Nat} {otherActor : Actor}
    (taken : a.ammoBoxOverlap b otherActor = some a') : a.Reaches (.ammoBoxOverlap b otherActor) a' := by
  unfold ammoBoxOverlap at taken
  cases found : a.ammoBoxes[b]? with
  | none =>
      rw [found] at taken
      cases taken
  | some box =>
  simp only [found] at taken
  split at taken
  · next p c cast holds =>
    cases here : a.world.cannons[c]? with
    | none =>
        rw [here] at taken
        cases taken
    | some cannon =>
        simp only [here] at taken
        split at taken
        · next full =>
          cases taken
          have asked : a.asks (.ammoBoxOverlap b otherActor) = none := by
            simp [asks, found, cast, holds, here, full]
          unfold Reaches
          rw [asked]
        · next space =>
          split at taken
          · next fits =>
            cases taken
            have acted : cannon.step (.increaseAmmoValue box.ammoBoxVolume) =
                some (cannon.increaseAmmoValue box.ammoBoxVolume, .resupplied) := by
              simp only [Cannon.step, if_pos fits]
            have same : (a.world.updateCannon c fun _ => cannon.increaseAmmoValue box.ammoBoxVolume) =
                a.world.updateCannon c (·.increaseAmmoValue box.ammoBoxVolume) := by
              unfold World.updateCannon
              congr 1
              apply Foundation.modify_congr
              intro y there
              obtain rfl := Option.some.inj (here.symm.trans there)
              rfl
            have asked : a.asks (.ammoBoxOverlap b otherActor) = some (.increaseAmmoValue c box.ammoBoxVolume) := by
              simp [asks, found, cast, holds, here, space]
            unfold Reaches
            rw [asked]
            simp only [World.step, World.cannonEvent, here, acted, World.perform, same]
          · cases taken
  · next missed =>
    cases taken
    unfold Reaches
    have asked : a.asks (.ammoBoxOverlap b otherActor) = none := by
      simp only [asks, found]
      cases cast : a.castTankPawn otherActor with
      | none => rfl
      | some p =>
          cases holds : box.cannon with
          | none => simp [holds]
          | some c => exact absurd holds (missed p c cast)
    rw [asked]

theorem step_reaches {a a' : Arena} {event : Event} {out : Unit} (taken : a.step event = some (a', out))
    (box : ∀ own, event ≠ .world own) : a.Reaches event a' := by
  cases event with
  | world event => exact absurd rfl (box event)
  | ammoBoxOverlap b otherActor =>
      simp only [step] at taken
      split at taken
      · obtain ⟨next, done, same⟩ := Option.map_eq_some_iff.mp taken
        cases same
        exact ammoBoxOverlap_reaches done
      · cases taken
  | newCannonBoxOverlap b otherActor main alternate =>
      simp only [step] at taken
      split at taken
      · next able =>
        obtain ⟨next, done, same⟩ := Option.map_eq_some_iff.mp taken
        cases same
        unfold newCannonBoxOverlap at done
        cases found : a.newCannonBoxes[b]? with
        | none =>
            rw [found] at done
            cases done
        | some box =>
            cases cast : a.castTankPawn otherActor with
            | none =>
                simp only [found, cast] at done
                cases done
                simp [Reaches, asks, found, cast]
            | some p =>
                simp only [found, cast] at done
                obtain ⟨w, equipped, rfl⟩ := Option.map_eq_some_iff.mp done
                have alive : a.world.pawnAlive p = true := by
                  simpa [touches, cast] using (Bool.and_eq_true_iff.mp able).1
                simp only [Reaches, asks, found, cast]
                simp [World.step, alive, equipped]
      · cases taken
  | spawnAmmoBox | spawnNewCannonBox =>
      cases taken
      exact rfl

end Arena

namespace Game

variable {K : Type}

/-- What an event of the game asks of the level. -/
def asks (g : Game K) : Event K → Option Level.Event
  | .level event => some event
  | .setPawn inPawn => some (.possess inPawn)
  | .fire reply => g.driven.map fun p => .world (.fire p reply)
  | .alternateFire reply => g.driven.map fun p => .world (.alternateFire p reply)
  | .beginPlay i main alternate => g.tanks[i]?.map fun t => .world (.beginPlay t.pawn main alternate)
  | .ammoBoxOverlap b otherActor => (g.arena.asks (.ammoBoxOverlap b otherActor)).map .world
  | .newCannonBoxOverlap b otherActor main alternate =>
      (g.arena.asks (.newCannonBoxOverlap b otherActor main alternate)).map .world
  | .moveForward _ | .moveRight _ | .rotateRight _ | .controllerTick _ | .tick _ _ _ _
  | .spawnAmmoBox _ | .spawnNewCannonBox _ => none

def levelStep (t : Step (Game K) (Event K) Sight) : Option (Step Level Level.Event Sight) :=
  (t.before.asks t.event).map fun event => ⟨t.before.level, event, t.output, t.after.level⟩

def worldStep (t : Step (Game K) (Event K) Sight) : Option (Step World World.Event Report) :=
  (levelStep t).bind Level.worldStep

theorem asks_axis {g : Game K} {event : Event K} {axis : Axis} {value : K}
    (input : event.axis = some (axis, value)) : g.asks event = none := by
  cases event <;> first | rfl | cases input

theorem asks_trigger {g : Game K} {event : Event K} {press : PawnId → World.Event}
    (trigger : event.trigger = some press) : g.asks event = g.driven.map fun p => .world (press p) := by
  cases event with
  | fire reply =>
      obtain rfl := Option.some.inj trigger
      rfl
  | alternateFire reply =>
      obtain rfl := Option.some.inj trigger
      rfl
  | _ => cases trigger

theorem asks_box {g : Game K} {event : Event K} {boxEvent : Arena.Event} (named : event.box = some boxEvent) :
    g.asks event = (g.arena.asks boxEvent).map .world ∧ ∀ own, boxEvent ≠ .world own := by
  cases event with
  | ammoBoxOverlap | newCannonBoxOverlap | spawnAmmoBox | spawnNewCannonBox =>
      obtain rfl := Option.some.inj named
      constructor
      · simp only [asks, Arena.asks, Option.map_none]
      · intro own same
        cases same
  | _ => cases named

/-- A box arms a tank or refills a cannon. -/
theorem box_asks {a : Arena} {event : Arena.Event} {ask : World.Event} (box : ∀ own, event ≠ .world own)
    (asked : a.asks event = some ask) :
    (∃ p newCannonClass main alternate, ask = .setupCannon p newCannonClass main alternate) ∨
      ∃ c ammoValue, ask = .increaseAmmoValue c ammoValue := by
  unfold Arena.asks at asked
  split at asked
  · next own => exact absurd rfl (box own)
  · split at asked
    · obtain ⟨c, _, rfl⟩ := Option.map_eq_some_iff.mp asked
      exact .inr ⟨c, _, rfl⟩
    · cases asked
  · split at asked
    · obtain rfl := Option.some.inj asked
      exact .inl ⟨_, _, _, _, rfl⟩
    · cases asked
  · cases asked
  · cases asked

/-- That is nothing the level refuses. -/
theorem box_free {a : Arena} {event : Arena.Event} {ask : World.Event} (box : ∀ own, event ≠ .world own)
    (asked : a.asks event = some ask) (l : Level) : l.bypasses ask = false := by
  rcases box_asks box asked with ⟨_, _, _, _, rfl⟩ | ⟨_, _, rfl⟩ <;> rfl

section

variable [Field K] [LinearOrder K] [FloorRing K] {e : GameEngine K} {g g' : Game K}

theorem step_covers {t : Step (Game K) (Event K) Sight}
    (taken : t.before.step e t.event = some (t.after, t.output)) : t.Covers Level.step (·.level) levelStep := by
  have running : t.before.level.crashed = false := by
    unfold step at taken
    split at taken
    · cases taken
    · next up => simpa using up
  have move : Transition e t.before t.event t.after t.output := step_transition taken
  obtain ⟨g, event, sight, g'⟩ := t
  unfold Step.Covers levelStep
  simp only at move running ⊢
  cases move with
  | level free stepped => simpa [asks] using stepped
  | setPawn stepped => simpa [asks, setPawn] using stepped
  | axis input =>
      rw [asks_axis input]
      exact onAxis_level _ _ _
  | unheard trigger idle =>
      rw [asks_trigger trigger, idle]
      rfl
  | trigger trigger drives stepped =>
      rw [asks_trigger trigger, drives]
      simpa using stepped
  | controllerTick => exact rfl
  | beginPlay found stepped => simpa [asks, found] using stepped
  | tick => exact rfl
  | @box _ boxEvent a named stepped =>
      obtain ⟨asked, box⟩ := asks_box (g := g) named
      have reaches := Arena.step_reaches stepped box
      unfold Arena.Reaches at reaches
      rw [asked]
      cases own : g.arena.asks boxEvent with
      | none =>
          rw [own] at reaches
          simp only [Option.map_none, withArena_level]
          rw [show a.world = g.level.world from reaches]
      | some ask =>
          rw [own] at reaches
          have world : g.level.world.step ask = some (a.world, {}) := reaches
          simp [Level.step, running, box_free box own, world]

/-- Every run of the game is a run of its level. -/
theorem run_level {trace : List (Step (Game K) (Event K) Sight)} (run : Run (step e) g trace g') :
    Run Level.step g.level (trace.filterMap levelStep) g'.level :=
  run.projected (·.level) levelStep fun _ member => step_covers (run.taken member)

/-- A step of the game is a step of its world, or leaves it. -/
theorem step_world {t : Step (Game K) (Event K) Sight}
    (taken : t.before.step e t.event = some (t.after, t.output)) : t.Covers World.step (·.level.world) worldStep :=
  (step_covers taken).trans fun _ _ below => Level.step_covers below

/-- And of its world. -/
theorem run_world {trace : List (Step (Game K) (Event K) Sight)} (run : Run (step e) g trace g') :
    Run World.step g.level.world (trace.filterMap worldStep) g'.level.world :=
  run.projected (·.level.world) worldStep fun _ member => step_world (run.taken member)

end

end Game

end TankoGeddon
