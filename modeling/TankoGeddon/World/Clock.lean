import TankoGeddon.Foundation.Clock
import TankoGeddon.World.Charge
import TankoGeddon.World.Flights

/-! A level in time.

Every `SetTimer` and every expiry of the cannons and the projectiles is put on the clock:
the reload and the burst timer of each cannon, the move and the deactivation timer of each
projectile. Of these only the move timer loops. The clock agrees with the handles of the
level. The one other timer of the source, the `TargetingTimer` of a turret, is not on it:
what a turret does to its cannon is a press, and a press may come at any time.
-/

set_option autoImplicit false

namespace TankoGeddon

open Foundation (Run Step Timing Setting Clocked Beat Timer)

namespace Cannon

/-- What a call does to `ReloadTimer`. -/
def setsReload (y : Cannon) (event : Event) : Setting Scalar :=
  match event with
  | .fire | .alternateFire =>
      if (y.step event).any (·.2 != .refused) then .after y.reloadTime else .kept
  | .reloadTimer => .cleared
  | .burstFireTimer | .increaseAmmoValue _ => .kept

/-- `BurstFire` sets `BurstFireTimer` for its next shot and clears it at the end. -/
def burstSetting (y : Cannon) : Outcome → Setting Scalar
  | .burstShot => .after y.burstFireInterval
  | .burstCompleted => .cleared
  | _ => .kept

/-- What a call does to `BurstFireTimer`. -/
def setsBurst (y : Cannon) (event : Event) : Setting Scalar :=
  ((y.step event).map fun next => y.burstSetting next.2).getD .kept

/-- Neither timer of a cannon loops. -/
theorem setsReload_single (y : Cannon) (event : Event) (period : Scalar) : y.setsReload event ≠ .again period := by
  cases event <;> simp only [setsReload]
  · split <;> simp
  · split <;> simp
  · simp
  · simp
  · simp

theorem setsBurst_single (y : Cannon) (event : Event) (period : Scalar) : y.setsBurst event ≠ .again period := by
  unfold setsBurst
  cases y.step event with
  | none => simp
  | some next =>
      simp only [Option.map_some, Option.getD_some]
      cases next.2 <;> simp [burstSetting]

/-- A shot of a single type is no burst. -/
theorem single_outcome {outcome : Outcome} (how : outcome = .spawned ∨ outcome = .pooled ∨ outcome = .traced) :
    outcome ≠ .refused ∧ outcome ≠ .burstShot ∧ outcome ≠ .burstCompleted := by
  rcases how with rfl | rfl | rfl <;> simp

theorem setsReload_press {y y' : Cannon} {which : Reload} {outcome : Outcome}
    (acted : y.step (press which) = some (y', outcome)) :
    y.setsReload (press which) = if outcome = .refused then .kept else .after y.reloadTime := by
  cases which with
  | main =>
      simp only [press] at acted
      by_cases refused : outcome = .refused <;> simp [press, setsReload, acted, refused]
  | alternate =>
      simp only [press] at acted
      by_cases refused : outcome = .refused <;> simp [press, setsReload, acted, refused]

theorem setsReload_agrees {y y' : Cannon} {event : Event} {outcome : Outcome}
    (acted : y.step event = some (y', outcome)) :
    y'.reloadTimer.isSome = (y.setsReload event).leaves y.reloadTimer.isSome := by
  have armed : ∀ (z : Cannon) (which : Reload), z.reloadTime = y.reloadTime →
      (z.armReload which).reloadTimer.isSome = decide (0 < y.reloadTime) := by
    intro z which same
    rw [← same, Bool.eq_iff_iff, decide_eq_true_iff]
    exact Timer.set_isSome_iff _ _
  cases step_transition acted with
  | refused which =>
      rw [setsReload_press acted, if_pos rfl]
      rfl
  | shot which _ _ _ _ how =>
      rw [setsReload_press acted, if_neg (single_outcome how).1]
      apply armed
      cases which with
      | main => rfl
      | alternate => simp only [closeGate]; split <;> rfl
  | pressShot which =>
      rw [setsReload_press acted, if_neg (by simp)]
      exact armed _ which rfl
  | pressDone which =>
      rw [setsReload_press acted, if_neg (by simp)]
      exact armed _ which rfl
  | timerShot | timerDone | resupply => rfl
  | reload which => cases which <;> rfl

theorem setsBurst_eq {y y' : Cannon} {event : Event} {outcome : Outcome}
    (acted : y.step event = some (y', outcome)) : y.setsBurst event = y.burstSetting outcome := by
  rw [setsBurst, acted]
  rfl

theorem setsBurst_agrees {y y' : Cannon} {event : Event} {outcome : Outcome}
    (acted : y.step event = some (y', outcome)) :
    y'.burstFireTimer.isSome = (y.setsBurst event).leaves y.burstFireTimer.isSome := by
  have armed : y.nextShot.burstFireTimer.isSome = decide (0 < y.burstFireInterval) := by
    rw [Bool.eq_iff_iff, decide_eq_true_iff]
    exact Timer.set_isSome_iff _ _
  rw [setsBurst_eq acted]
  cases step_transition acted with
  | refused | resupply => rfl
  | shot which _ _ _ _ how =>
      have kept : (y.pay.closeGate which).burstFireTimer = y.burstFireTimer := by
        cases which with
        | main => rfl
        | alternate => simp only [closeGate]; split <;> rfl
      rcases how with rfl | rfl | rfl <;> exact congrArg Option.isSome kept
  | pressShot | timerShot => exact armed
  | pressDone | timerDone => rfl
  | reload which => cases which <;> rfl

end Cannon

/-- As `Start` leaves the timers. -/
structure Projectile.JustStarted (q : Projectile) : Prop where
  move : q.moveTimer = Timer.set q.moveRate q.flight
  deactivate : q.deactivateTimer = Timer.set q.deactivateTime q.flight

namespace World

variable {j : ProjectileId}

inductive Handle where
  | reloadTimer (c : CannonId)
  | burstFireTimer (c : CannonId)
  | moveTimer (j : ProjectileId)
  | deactivateTimer (j : ProjectileId)
  deriving DecidableEq, Repr

/-- The handle whose expiry an event is. -/
def Event.expires : Event → Option Handle
  | .reloadTimer c => some (.reloadTimer c)
  | .burstFireTimer c _ => some (.burstFireTimer c)
  | .move j _ => some (.moveTimer j)
  | .deactivateTimer j => some (.deactivateTimer j)
  | _ => none

/-- A call sets the timers of its cannon; the engine clears those of a destroyed one. -/
def cannonSetting (sets : Cannon → Cannon.Event → Setting Scalar) (c : CannonId) (t : Step World Event Report) :
    Setting Scalar :=
  match t.before.cannons[c]?, deed c t with
  | some y, some (.call event) => sets y event
  | some _, some .destroy => .cleared
  | _, _ => .kept

/-- `Start` has run in the step: the counter of flights went up. -/
def started (j : ProjectileId) (t : Step World Event Report) : Bool :=
  (t.before.projectiles[j]?.map (·.flight)).getD 0 < (t.after.projectiles[j]?.map (·.flight)).getD 0

/-- `Start` sets both timers, `Deactivate` clears both, and a move is the expiry of a
timer that loops. -/
def flightSetting (rate : Projectile → Scalar) (moved : Projectile → Setting Scalar) (j : ProjectileId)
    (t : Step World Event Report) : Setting Scalar :=
  match t.after.projectiles[j]? with
  | none => .kept
  | some q =>
      if started j t then .after (rate q)
      else match t.event with
      | .move i _ => if i = j then moved q else .kept
      | event => if event.retires = some j then .cleared else .kept

/-- The timers of the cannons and of the projectiles, and of no turret. -/
def timing : Timing World Event Report Handle Scalar where
  expires := Event.expires
  sets t := fun
    | .reloadTimer c => cannonSetting Cannon.setsReload c t
    | .burstFireTimer c => cannonSetting Cannon.setsBurst c t
    | .moveTimer j => flightSetting (·.moveRate) (fun q => .again q.moveRate) j t
    | .deactivateTimer j => flightSetting (·.deactivateTime) (fun _ => .kept) j t
  pending w := fun
    | .reloadTimer c => w.cannons[c]?.any (·.reloadTimer.isSome)
    | .burstFireTimer c => w.cannons[c]?.any (·.burstFireTimer.isSome)
    | .moveTimer j => w.projectiles[j]?.any (·.moveTimer.isSome)
    | .deactivateTimer j => w.projectiles[j]?.any (·.deactivateTimer.isSome)
  handles w :=
    (List.range w.cannons.length).flatMap (fun c => [.reloadTimer c, .burstFireTimer c]) ++
      (List.range w.projectiles.length).flatMap fun j => [.moveTimer j, .deactivateTimer j]

/-! The clock agrees with the level. -/

theorem timing_listed (w : World) (h : Handle) (pending : timing.pending w h = true) : h ∈ timing.handles w := by
  have inside : ∀ {A : Type} {table : List A} {i : Nat} {p : A → Bool}, table[i]?.any p = true → i < table.length := by
    intro A table i p holds
    obtain ⟨x, found, _⟩ := (Option.any_eq_true _ _).mp holds
    exact (List.getElem?_eq_some_iff.mp found).1
  simp only [timing, List.mem_append, List.mem_flatMap, List.mem_range]
  cases h with
  | reloadTimer c => exact .inl ⟨c, inside pending, by simp⟩
  | burstFireTimer c => exact .inl ⟨c, inside pending, by simp⟩
  | moveTimer j => exact .inr ⟨j, inside pending, by simp⟩
  | deactivateTimer j => exact .inr ⟨j, inside pending, by simp⟩

/-- One handle of each cannon: what a call does to it is what the clock is told, a new
cannon has nothing pending, and neither has a destroyed one. -/
theorem cannon_agrees {t : Step World Event Report} (wired : t.before.links.Wired)
    (taken : t.before.step t.event = some (t.after, t.output)) (c : CannonId) {timer : Cannon → Bool}
    {sets : Cannon → Cannon.Event → Setting Scalar} (fresh : ∀ y : Cannon, y.Fresh → timer y = false)
    (destroyed : ∀ y : Cannon, timer y.destroy = false)
    (called : ∀ {y y' : Cannon} {event outcome}, y.step event = some (y', outcome) →
      timer y' = (sets y event).leaves (timer y)) :
    t.after.cannons[c]?.any timer = (cannonSetting sets c t).leaves (t.before.cannons[c]?.any timer) := by
  have shows := shows_cannon wired taken c
  cases before : t.before.cannons[c]? with
  | none =>
      have silent := shows.unborn before
      simp only [cannonSetting, before, silent, Setting.leaves, Option.any_none]
      cases after : t.after.cannons[c]? with
      | none => rfl
      | some y' => exact fresh y' (shows.born y' before after)
  | some y =>
      cases acts : deed c t with
      | none =>
          simp only [cannonSetting, before, acts, Setting.leaves]
          rw [show t.after.cannons[c]? = some y from shows.left y before acts]
      | some act =>
          obtain ⟨y', shown, undergone, after⟩ := shows.taken y act before acts
          rw [show t.after.cannons[c]? = some y' from after]
          cases act with
          | call event =>
              obtain ⟨next, acted, same⟩ := Option.map_eq_some_iff.mp undergone
              obtain ⟨rfl, _⟩ := Prod.mk.inj same
              simp only [cannonSetting, before, acts, Option.any_some]
              exact called acted
          | destroy =>
              simp only [Cannon.undergo] at undergone
              split at undergone <;> cases undergone
              simp only [cannonSetting, before, acts, Option.any_some, Setting.leaves]
              exact destroyed y

/-! What the clock is told of a projectile. -/

section Flight

variable {t : Step World Event Report} {rate : Projectile → Scalar} {moved : Projectile → Setting Scalar}
  {q q' : Projectile}

theorem flightSetting_started (after : t.after.projectiles[j]? = some q') (up : started j t = true) :
    flightSetting rate moved j t = .after (rate q') := by
  simp only [flightSetting, after, up, if_true]

theorem flightSetting_moved (after : t.after.projectiles[j]? = some q') (level : started j t = false)
    {forward : FVector} (named : t.event = .move j forward) : flightSetting rate moved j t = moved q' := by
  simp [flightSetting, after, level, named]

theorem flightSetting_stopped (after : t.after.projectiles[j]? = some q') (level : started j t = false)
    (retires : t.event.retires = some j) : flightSetting rate moved j t = .cleared := by
  simp only [flightSetting, after, level, Bool.false_eq_true, if_false]
  split
  · next named =>
    rw [named] at retires
    cases retires
  · rw [if_pos retires]

theorem flightSetting_left (level : started j t = false) (stays : t.event.retires ≠ some j)
    (still : ∀ forward, t.event ≠ .move j forward) : flightSetting rate moved j t = .kept := by
  unfold flightSetting
  split
  · rfl
  · simp only [level, Bool.false_eq_true, if_false]
    split
    · next i forward named =>
      rw [if_neg]
      rintro rfl
      exact still forward named
    · rw [if_neg stays]

/-- What the step of a projectile is to its timers. -/
inductive Timed (t : Step World Event Report) (j : ProjectileId) : Prop where
  | absent (before : t.before.projectiles[j]? = none) (after : t.after.projectiles[j]? = none)
      (level : started j t = false)
  | stored (cls : ProjectileClass) (before : t.before.projectiles[j]? = none)
      (after : t.after.projectiles[j]? = some (PoolState.stored cls)) (level : started j t = false)
      (stays : t.event.retires = none) (still : ∀ i forward, t.event ≠ .move i forward)
  | started {q' : Projectile} {reply : Reply} (after : t.after.projectiles[j]? = some q') (fresh : q'.JustStarted)
      (up : World.started j t = true) (brings : t.event.reply = some reply)
      (pose : q'.location = reply.location ∧ q'.rotation = reply.rotation)
  | left {q : Projectile} (before : t.before.projectiles[j]? = some q)
      (after : t.after.projectiles[j]? = some q) (level : World.started j t = false)
      (stays : t.event.retires ≠ some j) (still : ∀ forward, t.event ≠ .move j forward)
  | moved {q : Projectile} {forward : FVector} (before : t.before.projectiles[j]? = some q)
      (after : t.after.projectiles[j]? = some (q.move forward)) (level : World.started j t = false)
      (named : t.event = .move j forward) (pending : q.moveTimer.isSome = true)
  | stopped {q : Projectile} (before : t.before.projectiles[j]? = some q)
      (after : t.after.projectiles[j]? = some q.deactivate) (level : World.started j t = false)
      (retires : t.event.retires = some j)
      (due : t.event = .deactivateTimer j → q.deactivateTimer.isSome = true)

theorem step_timed (wired : t.before.links.Wired)
    (taken : t.before.step t.event = some (t.after, t.output)) (j : ProjectileId) : Timed t j := by
  have carries := (step_traffic wired taken).projectile j
  generalize before : t.before.projectiles[j]? = first at carries
  generalize after : t.after.projectiles[j]? = last at carries
  cases carries with
  | absent => exact .absent before after (by simp [started, before, after])
  | stored cls _ stays still =>
      exact .stored cls before after (by simp [started, before, after, PoolState.stored, Projectile.spawn]) stays still
  | spawned launches =>
      exact .started after ⟨rfl, rfl⟩ (by simp [started, before, after, Projectile.launched, Projectile.start])
        launches.brings ⟨rfl, rfl⟩
  | grown launches =>
      exact .started after ⟨rfl, rfl⟩
        (by simp [started, before, after, Projectile.relaunch, PoolState.reuse, Projectile.start])
        launches.brings ⟨rfl, rfl⟩
  | left q stays still => exact .left before after (by simp [started, before, after]) stays still
  | moved q named pending =>
      exact .moved before after (by simp [started, before, after, Projectile.move]) named pending
  | stopped q retires due =>
      exact .stopped before after (by simp [started, before, after, Projectile.deactivate]) retires due
  | reused q launches =>
      exact .started after ⟨rfl, rfl⟩
        (by simp [started, before, after, Projectile.relaunch, PoolState.reuse, Projectile.start])
        launches.brings ⟨rfl, rfl⟩

/-- One handle of each projectile. -/
theorem projectile_agrees (timed : Timed t j) {timer : Projectile → Bool}
    (armed : ∀ q : Projectile, q.JustStarted → timer q = decide (0 < rate q))
    (stored : ∀ cls, timer (PoolState.stored cls) = false) (stopped : ∀ q : Projectile, timer q.deactivate = false)
    (moves : ∀ (q : Projectile) (forward : FVector), timer (q.move forward) = timer q)
    (loops : ∀ (q : Projectile) (pending : Bool), (moved q).leaves pending = pending) :
    t.after.projectiles[j]?.any timer =
      (flightSetting rate moved j t).leaves (t.before.projectiles[j]?.any timer) := by
  cases timed with
  | absent before after level => simp [flightSetting, before, after, Setting.leaves]
  | stored cls before after level stays still =>
      rw [flightSetting_left level (by simp [stays]) (still j), before, after]
      exact stored cls
  | started after fresh up =>
      rw [flightSetting_started after up, after]
      exact armed _ fresh
  | left before after level stays still =>
      rw [flightSetting_left level stays still, before, after]
      rfl
  | moved before after level named =>
      rw [flightSetting_moved after level named, before, after, loops]
      exact moves _ _
  | stopped before after level retires =>
      rw [flightSetting_stopped after level retires, after]
      exact stopped _

end Flight

theorem setting_called {c : CannonId} {y : Cannon} {t : Step World Event Report} {sets : Cannon → Cannon.Event → Setting Scalar}
    {call : Cannon.Event} (made : t.before.calls t.event = some (c, call))
    (here : t.before.cannons[c]? = some y) : cannonSetting sets c t = sets y call := by
  simp only [cannonSetting, here, deed_called made]

theorem setting_quiet {c : CannonId} {y y' : Cannon} {t : Step World Event Report}
    {sets : Cannon → Cannon.Event → Setting Scalar}
    (quiet : ∀ call, t.before.calls t.event ≠ some (c, call)) (here : t.before.cannons[c]? = some y)
    (after : t.after.cannons[c]? = some y') (same : y' = y) : cannonSetting sets c t = .kept := by
  subst same
  have silent : deed c t = none := by
    rw [deed_quiet quiet]
    simp [cannonAlive, here, after]
  simp only [cannonSetting, here, silent]

theorem cannonSetting_single {sets : Cannon → Cannon.Event → Setting Scalar}
    (single : ∀ y event period, sets y event ≠ .again period) {c : CannonId} {t : Step World Event Report}
    {period : Scalar} : cannonSetting sets c t ≠ .again period := by
  unfold cannonSetting
  split
  · exact single _ _ _
  · simp
  · simp

/-! The clock of a level that can come about. -/

theorem Reachable.wired {w : World} (reachable : w.Reachable) : w.links.Wired := by
  obtain ⟨_, _, initial, run⟩ := reachable
  exact (run_wired initial run).1

theorem Reachable.step {t : Step World Event Report} (reachable : t.before.Reachable)
    (taken : t.before.step t.event = some (t.after, t.output)) : t.after.Reachable := by
  obtain ⟨start, trace, initial, run⟩ := reachable
  exact ⟨start, trace ++ [t], initial, run.snoc taken⟩

theorem Reachable.armed {w : World} (reachable : w.Reachable) {q : Projectile}
    (found : w.projectiles[j]? = some q) : q.Armed := by
  obtain ⟨_, _, initial, run⟩ := reachable
  exact run_armed initial run found

theorem timing_lawful : timing.Lawful World.step Reachable where
  keeps := fun _ taken reachable => reachable.step taken
  listed := timing_listed
  agrees := by
    intro t taken reachable h
    have wired := reachable.wired
    cases h with
    | reloadTimer c =>
        refine cannon_agrees wired taken c ?_ ?_ Cannon.setsReload_agrees
        · intro y fresh
          simp [fresh.1.reload]
        · intro y
          rfl
    | burstFireTimer c =>
        refine cannon_agrees wired taken c ?_ ?_ Cannon.setsBurst_agrees
        · intro y fresh
          simp [fresh.1.burst]
        · intro y
          rfl
    | moveTimer j =>
        refine projectile_agrees (step_timed wired taken j) ?_ (fun _ => rfl) (fun _ => rfl) (fun _ _ => rfl)
          fun _ _ => rfl
        intro q fresh
        rw [fresh.move, Bool.eq_iff_iff, decide_eq_true_iff]
        exact Timer.set_isSome_iff _ _
    | deactivateTimer j =>
        refine projectile_agrees (step_timed wired taken j) ?_ (fun _ => rfl) (fun _ => rfl) (fun _ _ => rfl)
          fun _ _ => rfl
        intro q fresh
        rw [fresh.deactivate, Bool.eq_iff_iff, decide_eq_true_iff]
        exact Timer.set_isSome_iff _ _
  forth := by
    intro t taken reachable h period loops
    cases h with
    | reloadTimer c => exact absurd loops (cannonSetting_single Cannon.setsReload_single)
    | burstFireTimer c => exact absurd loops (cannonSetting_single Cannon.setsBurst_single)
    | moveTimer j =>
        have told : flightSetting (·.moveRate) (fun q => .again q.moveRate) j t = .again period := loops
        cases step_timed reachable.wired taken j with
        | absent _ after level => simp [flightSetting, after] at told
        | stored _ _ _ level stays still =>
            rw [flightSetting_left level (by simp [stays]) (still j)] at told
            cases told
        | started after _ up =>
            rw [flightSetting_started after up] at told
            cases told
        | left _ _ level stays still =>
            rw [flightSetting_left level stays still] at told
            cases told
        | moved before after level named pending =>
            rw [flightSetting_moved after level named] at told
            obtain ⟨armed, known⟩ := Option.isSome_iff_exists.mp pending
            obtain rfl := Setting.again.inj told
            exact ((reachable.armed before).move armed known).2.le
        | stopped _ after level retires =>
            rw [flightSetting_stopped after level retires] at told
            cases told
    | deactivateTimer j =>
        have told : flightSetting (·.deactivateTime) (fun _ => .kept) j t = .again period := loops
        cases step_timed reachable.wired taken j with
        | absent _ after level => simp [flightSetting, after] at told
        | stored _ _ _ level stays still =>
            rw [flightSetting_left level (by simp [stays]) (still j)] at told
            cases told
        | started after _ up =>
            rw [flightSetting_started after up] at told
            cases told
        | left _ _ level stays still =>
            rw [flightSetting_left level stays still] at told
            cases told
        | moved _ after level named =>
            rw [flightSetting_moved after level named] at told
            cases told
        | stopped _ after level retires =>
            rw [flightSetting_stopped after level retires] at told
            cases told

/-! Runs. -/

abbrev Timeline := List (Step (Clocked World Handle Scalar) (Beat Event Scalar) (Option (Step World Event Report)))

/-- A level before any pawn has begun play, at some time, with nothing on the clock. -/
structure Begins (c : Clocked World Handle Scalar) : Prop where
  initial : c.state.Initial
  idle : ∀ h, c.due h = none

theorem Begins.reachable {c : Clocked World Handle Scalar} (begins : Begins c) : c.state.Reachable :=
  ⟨c.state, [], begins.initial, .nil _⟩

theorem Begins.agrees {c : Clocked World Handle Scalar} (begins : Begins c) : timing.Agrees c := by
  intro h
  rw [begins.idle]
  cases h <;> simp [timing, begins.initial.cannons, begins.initial.projectiles]

/-- What is known of every state a clocked level goes through. -/
structure Known (late : Scalar) (c : Clocked World Handle Scalar) : Prop where
  reachable : c.state.Reachable
  agrees : timing.Agrees c
  punctual : Timing.Punctual late c

theorem run_known {c c' : Clocked World Handle Scalar} {trace : Timeline} {late : Scalar} (begins : Begins c)
    (nonneg : 0 ≤ late) (frames : Timing.Frames late trace) (run : Run (timing.clock World.step) c trace c') :
    Known late c' ∧ ∀ t ∈ trace, Known late t.before ∧ Known late t.after := by
  have agrees := timing_lawful.run_agrees begins.reachable begins.agrees run
  have idle : Timing.Punctual late c := by
    intro h d pending
    rw [begins.idle] at pending
    cases pending
  have punctual := timing_lawful.run_punctual nonneg begins.reachable begins.agrees idle frames run
  refine ⟨⟨agrees.1.1, agrees.1.2, punctual.1⟩, ?_⟩
  intro t member
  obtain ⟨before, after⟩ := agrees.2 t member
  obtain ⟨early, later⟩ := punctual.2 t member
  exact ⟨⟨before.1, before.2, early⟩, ⟨after.1, after.2, later⟩⟩

end World

end TankoGeddon
