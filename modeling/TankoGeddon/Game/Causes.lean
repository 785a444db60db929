import TankoGeddon.Game.Driving
import TankoGeddon.World.FireRate

/-! Why a cannon fires.

No cannon goes off by itself. A cannon discharges because its trigger is pulled in that
very step, by the player on the tank that is the live pawn of the controller or by a turret
that sees its target in range and in its sights, or because the timer of its burst expires;
and then such a pull opened that burst, which has not stopped since.
-/

set_option autoImplicit false

namespace TankoGeddon

open Foundation (Run Step perform_run)

namespace World

variable {w w' : World} {c : CannonId}

/-- The step is a trigger of the cannon. -/
def Pressed (c : CannonId) (t : Step World Event Report) : Prop :=
  ∃ which, t.before.calls t.event = some (c, Cannon.press which)

/-- Only a press of a pawn's trigger is a trigger of a cannon. -/
theorem calls_press {event : Event} {which : Reload} (made : w.calls event = some (c, Cannon.press which)) :
    (∃ p reply, event = .fire p reply ∧ w.pawns[p]?.bind (·.cannon) = some c) ∨
      ∃ p reply, event = .alternateFire p reply ∧ w.pawns[p]?.bind (·.alternateCannon) = some c := by
  cases event with
  | fire p reply =>
      obtain ⟨c', holds, same⟩ := Option.map_eq_some_iff.mp made
      obtain ⟨rfl, _⟩ := Prod.mk.inj same
      exact .inl ⟨p, reply, rfl, holds⟩
  | alternateFire p reply =>
      obtain ⟨c', holds, same⟩ := Option.map_eq_some_iff.mp made
      obtain ⟨rfl, _⟩ := Prod.mk.inj same
      exact .inr ⟨p, reply, rfl, holds⟩
  | reloadTimer | burstFireTimer | increaseAmmoValue =>
      cases which <;> cases (Prod.mk.inj (Option.some.inj made)).2
  | _ => cases made

/-- A shot of the cannon's burst is pending. -/
def BurstPending (c : CannonId) (w : World) : Prop := ∃ y, w.cannons[c]? = some y ∧ y.burstFireTimer.isSome = true

/-- A burst begins with a trigger, and with a shot. -/
theorem burst_opens {y y' : Cannon} {call : Cannon.Event} {outcome : Outcome}
    (acted : y.step call = some (y', outcome)) (idle : y.burstFireTimer = none)
    (running : y'.burstFireTimer.isSome = true) :
    (∃ which, call = Cannon.press which) ∧ outcome.discharges = true := by
  cases Cannon.step_transition acted with
  | pressShot which => exact ⟨⟨which, rfl⟩, rfl⟩
  | refused | resupply =>
      have kept : y.burstFireTimer.isSome = true := running
      simp [idle] at kept
  | shot which =>
      have kept : ((y.pay.closeGate which).armReload which).burstFireTimer = y.burstFireTimer := by
        cases which with
        | main => rfl
        | alternate =>
            simp only [Cannon.closeGate]
            split <;> rfl
      simp [kept, idle] at running
  | pressDone => simp [Cannon.armReload, Cannon.endBurst] at running
  | timerShot pending | timerDone pending => cases pending.symm.trans idle
  | reload which => cases which <;> simp [Cannon.reloadBy, Cannon.mainReload, Cannon.alternateReload, idle] at running

/-- Without a trigger only the timer of a burst discharges. -/
theorem discharge_cases {y y' : Cannon} {call : Cannon.Event} {outcome : Outcome}
    (acted : y.step call = some (y', outcome)) (shot : outcome.discharges = true) :
    (∃ which, call = Cannon.press which) ∨ call = .burstFireTimer ∧ y.burstFireTimer.isSome = true := by
  cases Cannon.step_transition acted with
  | refused which | shot which | pressShot which | pressDone which => exact .inl ⟨which, rfl⟩
  | timerShot pending | timerDone pending => exact .inr ⟨rfl, by rw [pending]; rfl⟩
  | reload | resupply => cases shot

/-- The step that begins a burst is a trigger of the cannon, and discharges it. -/
theorem rise_pressed {t : Step World Event Report} (wired : t.before.links.Wired)
    (taken : t.before.step t.event = some (t.after, t.output)) (idle : ¬ BurstPending c t.before)
    (running : BurstPending c t.after) : Pressed c t ∧ fires c t = true := by
  obtain ⟨y', after, pending⟩ := running
  cases before : t.before.cannons[c]? with
  -- a cannon that has just been spawned has no burst
  | none => simp [(step_births wired taken c y' before after).1.burst] at pending
  | some y =>
      have none : y.burstFireTimer = none := by
        cases timer : y.burstFireTimer with
        | none => rfl
        | some => exact absurd ⟨y, before, by simp [timer]⟩ idle
      rcases step_cannon wired taken before with ⟨call, ⟨y₁, outcome⟩, made, acted, there⟩ | ⟨_, y₁, there, spared⟩
      · obtain rfl := Option.some.inj (there.symm.trans after)
        obtain ⟨⟨which, rfl⟩, shot⟩ := burst_opens acted none pending
        exact ⟨⟨which, made⟩, by simp [fires, made, before, acted, shot]⟩
      · obtain rfl := Option.some.inj (there.symm.trans after)
        rcases spared with rfl | ⟨_, rfl⟩
        · simp [none] at pending
        · simp [Cannon.destroy] at pending

theorem calls_burst {event : Event} (made : w.calls event = some (c, .burstFireTimer)) :
    ∃ reply, event = .burstFireTimer c reply := by
  cases event with
  | burstFireTimer c' reply =>
      obtain ⟨rfl, _⟩ := Prod.mk.inj (Option.some.inj made)
      exact ⟨reply, rfl⟩
  | fire | alternateFire =>
      obtain ⟨_, _, same⟩ := Option.map_eq_some_iff.mp made
      cases same
  | _ => cases made

/-- A discharge is a trigger, or the expiry of the timer of a burst. -/
theorem fires_cases {t : Step World Event Report} (shot : fires c t = true) :
    Pressed c t ∨ (∃ reply, t.event = .burstFireTimer c reply) ∧ BurstPending c t.before := by
  unfold fires at shot
  split at shot
  · next called call y made here =>
    obtain ⟨same, acts⟩ := Bool.and_eq_true_iff.mp shot
    obtain rfl : called = c := by simpa using same
    obtain ⟨⟨y', outcome⟩, acted, discharges⟩ := (Option.any_eq_true _ _).mp acts
    rcases discharge_cases acted discharges with ⟨which, rfl⟩ | ⟨rfl, pending⟩
    · exact .inl ⟨which, made⟩
    · refine .inr ⟨calls_burst made, y, here, pending⟩
  · cases shot

end World

namespace Game

variable {K : Type}

/-- A trigger of the cannon is pulled. -/
inductive Pulls (c : CannonId) (t : Step (Game K) (Event K) Sight) : Prop where
  | fire {p : PawnId} {reply : Reply} (named : t.event = .fire reply) (pawn : t.before.level.getPawn = some p)
      (tank : p ∈ t.before.crew) (holds : t.before.level.world.pawns[p]?.bind (·.cannon) = some c)
  | alternateFire {p : PawnId} {reply : Reply} (named : t.event = .alternateFire reply)
      (pawn : t.before.level.getPawn = some p) (tank : p ∈ t.before.crew)
      (holds : t.before.level.world.pawns[p]?.bind (·.alternateCannon) = some c)
  | targeting {i : Nat} {turret : Turret} {sighting : Sighting} {reply : Reply}
      (named : t.event = .level (.targeting i sighting reply)) (found : t.before.level.turrets[i]? = some turret)
      (sees : t.before.level.triggers sighting turret = true)
      (holds : t.before.level.world.pawns[turret.pawn]?.bind (·.cannon) = some c)

/-- The player's tank is the pawn of the controller. -/
theorem Steered.driven {g : Game K} (steered : g.Steered) {p : PawnId} (drives : g.driven = some p) :
    g.level.getPawn = some p ∧ p ∈ g.crew := by
  unfold Game.driven at drives
  obtain ⟨t, found, rfl⟩ := Option.map_eq_some_iff.mp drives
  obtain ⟨i, pointer, found⟩ := Option.bind_eq_some_iff.mp found
  rw [steered] at pointer
  obtain ⟨p, pawn, named⟩ := Option.bind_eq_some_iff.mp pointer
  obtain ⟨inside, same, _⟩ := List.findIdx?_eq_some_iff_getElem.mp named
  obtain rfl : t.pawn = p := by
    have listed : g.crew[i] = t.pawn := by
      rw [List.getElem_eq_iff]
      simp [crew, found]
    simpa [listed] using same
  exact ⟨pawn, List.mem_map_of_mem (List.mem_of_getElem? found)⟩

/-- What the world sees is what the level was asked, which is what the game asked. -/
theorem asks_of_shown {t : Step (Game K) (Event K) Sight} {u : Step World World.Event Report}
    (shown : worldStep t = some u) : ∃ ask event, t.before.asks t.event = some ask ∧
      t.before.level.asks ask = some event ∧ u = ⟨t.before.level.world, event, t.output.report, t.after.level.world⟩ := by
  obtain ⟨v, below, inside⟩ := Option.bind_eq_some_iff.mp shown
  obtain ⟨ask, asked, rfl⟩ := Option.map_eq_some_iff.mp below
  obtain ⟨event, asks, rfl⟩ := Option.map_eq_some_iff.mp inside
  exact ⟨ask, event, asked, asks, rfl⟩

/-- The timers of the bursts are the engine's business. -/
theorem expiry_of_shown {t : Step (Game K) (Event K) Sight} {u : Step World World.Event Report}
    (shown : worldStep t = some u) {c : CannonId} {reply : Reply} (expiry : u.event = .burstFireTimer c reply) :
    t.event = .level (.world (.burstFireTimer c reply)) := by
  obtain ⟨ask, event, asked, asks, rfl⟩ := asks_of_shown shown
  obtain rfl : event = .burstFireTimer c reply := expiry
  obtain ⟨g, named, sight, g'⟩ := t
  simp only at asked asks ⊢
  cases named with
  | level own =>
      obtain rfl := Option.some.inj asked
      cases own with
      | world deed =>
          obtain rfl := Option.some.inj asks
          rfl
      | targeting | beginPlay =>
          obtain ⟨_, _, same⟩ := Option.map_eq_some_iff.mp asks
          cases same
      | possess | collectGarbage => cases asks
  | setPawn =>
      obtain rfl := Option.some.inj asked
      cases asks
  | fire | alternateFire | beginPlay =>
      obtain ⟨_, _, rfl⟩ := Option.map_eq_some_iff.mp asked
      cases asks
  | ammoBoxOverlap | newCannonBoxOverlap =>
      obtain ⟨own, wanted, rfl⟩ := Option.map_eq_some_iff.mp asked
      obtain rfl := Option.some.inj asks
      rcases box_asks (fun _ same => by cases same) wanted with ⟨_, _, _, _, same⟩ | ⟨_, _, same⟩ <;> cases same
  | _ => cases asked

section

variable [Field K] [LinearOrder K] [FloorRing K] {e : GameEngine K} {g g' : Game K}

/-- A trigger the world sees was pulled in the game. -/
theorem pulls_of_pressed {t : Step (Game K) (Event K) Sight} (steered : t.before.Steered)
    (taken : t.before.step e t.event = some (t.after, t.output)) {u : Step World World.Event Report}
    (shown : worldStep t = some u) {c : CannonId} (pressed : World.Pressed c u) : Pulls c t := by
  have move : Transition e t.before t.event t.after t.output := step_transition taken
  obtain ⟨ask, event, asked, asks, rfl⟩ := asks_of_shown shown
  obtain ⟨which, made⟩ := pressed
  have press := World.calls_press made
  obtain ⟨g, named, sight, g'⟩ := t
  simp only at move asked asks press steered
  cases move with
  | @level own _ _ free =>
      obtain rfl : own = ask := Option.some.inj asked
      cases own with
      | world deed =>
          obtain rfl : deed = event := Option.some.inj asks
          rcases press with ⟨_, _, rfl, _⟩ | ⟨_, _, rfl, _⟩ <;> cases free
      | targeting i sighting reply =>
          obtain ⟨turret, seen, rfl⟩ := Option.map_eq_some_iff.mp asks
          obtain ⟨found, sees⟩ := Option.filter_eq_some_iff.mp seen
          rcases press with ⟨_, _, same, holds⟩ | ⟨_, _, same, _⟩ <;> cases same
          exact .targeting rfl found sees holds
      | beginPlay i main alternate =>
          obtain ⟨turret, _, rfl⟩ := Option.map_eq_some_iff.mp asks
          rcases press with ⟨_, _, same, _⟩ | ⟨_, _, same, _⟩ <;> cases same
      | possess | collectGarbage => cases asks
  | setPawn =>
      obtain rfl := Option.some.inj asked
      cases asks
  | axis input => cases (asks_axis input).symm.trans asked
  | unheard trigger idle => simp [asks_trigger trigger, idle] at asked
  | @trigger _ pull p _ _ trigger drives =>
      obtain ⟨pawn, tank⟩ := steered.driven drives
      rw [asks_trigger trigger, drives] at asked
      obtain rfl := Option.some.inj asked
      obtain rfl := Option.some.inj asks
      cases named with
      | fire reply =>
          obtain rfl := Option.some.inj trigger
          rcases press with ⟨_, _, same, holds⟩ | ⟨_, _, same, _⟩ <;> cases same
          exact .fire rfl pawn tank holds
      | alternateFire reply =>
          obtain rfl := Option.some.inj trigger
          rcases press with ⟨_, _, same, _⟩ | ⟨_, _, same, holds⟩ <;> cases same
          exact .alternateFire rfl pawn tank holds
      | _ => cases trigger
  | controllerTick | tick => cases asked
  | beginPlay found =>
      simp only [Game.asks, found, Option.map_some] at asked
      obtain rfl := Option.some.inj asked
      obtain rfl := Option.some.inj asks
      rcases press with ⟨_, _, same, _⟩ | ⟨_, _, same, _⟩ <;> cases same
  | @box _ boxEvent a named =>
      obtain ⟨equal, box⟩ := asks_box (g := g) named
      rw [equal] at asked
      obtain ⟨own, wanted, rfl⟩ := Option.map_eq_some_iff.mp asked
      obtain rfl := Option.some.inj asks
      rcases box_asks box wanted with ⟨_, _, _, _, rfl⟩ | ⟨_, _, rfl⟩ <;>
        rcases press with ⟨_, _, same, _⟩ | ⟨_, _, same, _⟩ <;> cases same

/-- The step opens a burst of the cannon: its trigger is pulled, and it discharges. -/
structure Opens (c : CannonId) (t : Step (Game K) (Event K) Sight) : Prop where
  pulls : Pulls c t
  fires : (worldStep t).any (World.fires c) = true
  idle : ¬ World.BurstPending c t.before.level.world

/-- Only a pull takes a cannon into a burst. -/
theorem opens_of_rise {t : Step (Game K) (Event K) Sight} (steered : t.before.Steered)
    (wired : t.before.level.world.links.Wired) (taken : t.before.step e t.event = some (t.after, t.output))
    {c : CannonId} (idle : ¬ World.BurstPending c t.before.level.world)
    (running : World.BurstPending c t.after.level.world) : Opens c t := by
  have covers := step_world taken
  unfold Step.Covers at covers
  cases shown : worldStep t with
  | none =>
      rw [shown] at covers
      rw [show t.after.level.world = t.before.level.world from covers] at running
      exact absurd running idle
  | some u =>
      rw [shown] at covers
      have before : u.before = t.before.level.world := covers.1
      have after : u.after = t.after.level.world := covers.2.1
      obtain ⟨pressed, fires⟩ := World.rise_pressed (before ▸ wired) covers.2.2 (before ▸ idle) (after ▸ running)
      exact ⟨pulls_of_pressed steered taken shown pressed, by rw [shown]; exact fires, idle⟩

/-- A cannon discharges when its trigger is pulled, or in a burst that a pull opened and
that has been under way ever since. -/
theorem shot_caused {early late : List (Step (Game K) (Event K) Sight)} {t : Step (Game K) (Event K) Sight}
    (initial : g.Initial) (run : Run (step e) g (early ++ t :: late) g') {c : CannonId}
    (shot : (worldStep t).any (World.fires c) = true) :
    Pulls c t ∨ (∃ reply, t.event = .level (.world (.burstFireTimer c reply))) ∧
      ∃ prior opening during, early = prior ++ opening :: during ∧ Opens c opening ∧
        ∀ u ∈ opening :: during, World.BurstPending c u.after.level.world := by
  obtain ⟨own, shown, fires⟩ := (Option.any_eq_true _ _).mp shot
  have steered := fun u member => ((run_steered initial run).2 u member).1.1
  rcases World.fires_cases fires with pressed | ⟨⟨reply, expiry⟩, running⟩
  · exact .inl (pulls_of_pressed (steered t (by simp)) (run.taken (by simp)) shown pressed)
  refine .inr ⟨⟨reply, expiry_of_shown shown expiry⟩, ?_⟩
  have covers := step_world (run.taken (t := t) (by simp))
  unfold Step.Covers at covers
  rw [shown] at covers
  rw [show own.before = t.before.level.world from covers.1] at running
  obtain ⟨before, _⟩ := run.cut
  -- none is pending at first, so there is a step that began it
  have start : ¬ World.BurstPending c g.level.world := by
    rintro ⟨y, here, _⟩
    simp [initial.level.world.cannons] at here
  obtain ⟨prior, opening, during, rfl, idle, raised, since⟩ :=
    before.rise (fun s => World.BurstPending c s.level.world) start running
  have wired := (World.run_wired initial.level.world (run_world before.cut.1)).1
  have opens := opens_of_rise (steered opening (by simp)) wired (before.taken (by simp)) idle raised
  refine ⟨prior, opening, during, rfl, opens, ?_⟩
  intro u member
  rcases List.mem_cons.mp member with rfl | later
  · exact raised
  · exact since u later

end

/-- The convoy, with cannons that fire in bursts. -/
def battery : Game ℚ :=
  { convoy with
    level.world.pawns := List.replicate 2
      { cannonClass := some
          { cannonType := .fireMultiProjectile
            projectileClass := some {}
            projectilePoolClass := none }
        alternateCannonClass := none } }

theorem battery_initial : battery.Initial where
  level := ⟨⟨rfl, rfl, rfl, by simp [battery]⟩, by simp [battery, convoy], rfl⟩
  unpossessed := ⟨rfl, rfl⟩
  apart := by decide
  tanks := by simp [battery, convoy, nimble, TankPawn.spawn]
  ammoBoxes := by simp [battery, convoy]

/-- The player opens a burst, drives on, and the timer fires its second shot. -/
def barrage : List (Event ℚ) :=
  [.setPawn (some 0), .beginPlay 0 {} {}, .fire {}, .moveForward 1, .level (.world (.burstFireTimer 0 {}))]

def barrageRun : List (Step (Game ℚ) (Event ℚ) Sight) × Game ℚ := Foundation.perform (step compass) battery barrage

theorem barrage_shot : 4 < barrageRun.1.length := by decide +kernel

/-- The second shot belongs to the burst of the trigger. -/
theorem shot_caused_barrage : ∃ prior opening during, barrageRun.1.take 4 = prior ++ opening :: during ∧
    Opens 0 opening ∧ ∀ u ∈ opening :: during, World.BurstPending 0 u.after.level.world := by
  have cut : barrageRun.1.take 4 ++ barrageRun.1.get ⟨4, barrage_shot⟩ :: barrageRun.1.drop 5 = barrageRun.1 := by
    rw [List.get_eq_getElem, ← List.drop_eq_getElem_cons, List.take_append_drop]
  have run : Run (step compass) battery
      (barrageRun.1.take 4 ++ barrageRun.1.get ⟨4, barrage_shot⟩ :: barrageRun.1.drop 5) barrageRun.2 := by
    rw [cut]
    exact perform_run _ _ _
  have shot : (worldStep (barrageRun.1.get ⟨4, barrage_shot⟩)).any (World.fires 0) = true := by decide +kernel
  have expiry : (barrageRun.1.get ⟨4, barrage_shot⟩).event = .level (.world (.burstFireTimer 0 {})) := by
    have named := Foundation.perform_event (step compass) battery barrage _ 4 (List.getElem?_eq_getElem barrage_shot)
    exact (Option.some.inj named).symm
  rcases shot_caused battery_initial run shot with pulls | ⟨_, found⟩
  · cases pulls with
    | fire named | alternateFire named | targeting named => cases named.symm.trans expiry
  · exact found

end Game

end TankoGeddon
