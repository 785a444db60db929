import Mathlib.Algebra.Order.Floor.Semiring
import Mathlib.Data.Rat.Floor
import Mathlib.Tactic.Linarith
import TankoGeddon.Cannon.Cooldown
import TankoGeddon.Foundation.Spacing

/-! The rate of fire of a weapon, in time.

Behind a trigger that closes its own gate, two discharges are at least `ReloadTime`
apart, whatever else happens in the level and however often the trigger is pressed.
The gate never stays closed for longer than `ReloadTime` and one frame.
-/

set_option autoImplicit false

namespace TankoGeddon

open Foundation (Run Step Setting Timing Clocked Beat Spaced perform_run)

/-- The trigger of the slot a cannon was made for: only the main one reports a score. -/
def Cannon.trigger (y : Cannon) : Reload := if y.scoreChanged = [] then .alternate else .main

namespace World

/-- The step launches a projectile or performs a trace with the cannon. -/
def fires (c : CannonId) (t : Step World Event Report) : Bool :=
  match t.before.calls t.event, t.before.cannons[c]? with
  | some (called, call), some y => called == c && (y.step call).any (·.2.discharges)
  | _, _ => false

/-- The times at which the cannon discharged. -/
def fireTimes (c : CannonId) (trace : Timeline) : List Scalar :=
  trace.filterMap fun u => if u.output.any (fires c) then some u.before.now else none

variable {w : World} {c : CannonId} {y : Cannon}

/-- A trigger acts on a live cannon, and on one that was made for it. -/
theorem press_held (wired : w.links.Wired) {event : Event} {result : World × Report} {which : Reload}
    (taken : w.step event = some result) (made : w.calls event = some (c, Cannon.press which))
    (here : w.cannons[c]? = some y) : y.bActorIsBeingDestroyed = false ∧ which = y.trigger := by
  have slot : ∀ (p : PawnId) (x : MachinePawn) (s : Slot), w.pawns[p]? = some x →
      x.bActorIsBeingDestroyed = false → x.link.slot s = some c →
      y.bActorIsBeingDestroyed = false ∧ y.scoreChanged = s.bindings p := by
    intro p x s found alive holds
    obtain ⟨link, cannon, _, bound, _⟩ := wired.slot p x.link s c (pawn_link found) holds
    obtain rfl := Option.some.inj ((cannon_link here).symm.trans cannon)
    exact ⟨held_alive wired found alive holds here, bound⟩
  cases event with
  | fire p reply =>
      simp only [step] at taken
      split at taken
      · next able =>
        obtain ⟨x, found, alive⟩ := pawnAlive_iff.mp able
        simp only [calls, found, Option.bind_some] at made
        obtain ⟨c', holds, same⟩ := Option.map_eq_some_iff.mp made
        obtain ⟨rfl, pressed⟩ := Prod.mk.inj same
        obtain ⟨living, bound⟩ := slot p x .main found alive holds
        refine ⟨living, ?_⟩
        cases which with
        | main => simp [Cannon.trigger, bound, Slot.bindings]
        | alternate => cases pressed
      · cases taken
  | alternateFire p reply =>
      simp only [step] at taken
      split at taken
      · next able =>
        obtain ⟨x, found, alive⟩ := pawnAlive_iff.mp able
        simp only [calls, found, Option.bind_some] at made
        obtain ⟨c', holds, same⟩ := Option.map_eq_some_iff.mp made
        obtain ⟨rfl, pressed⟩ := Prod.mk.inj same
        obtain ⟨living, bound⟩ := slot p x .alternate found alive holds
        refine ⟨living, ?_⟩
        cases which with
        | main => cases pressed
        | alternate => simp [Cannon.trigger, bound, Slot.bindings]
      · cases taken
  | reloadTimer | burstFireTimer | increaseAmmoValue => cases which <;> cases made
  | _ => cases made

/-- A step keeps what a cannon was made as. -/
theorem spared_config {y y' : Cannon} (spared : Cannon.Spared y y') :
    y'.toCannonClass = y.toCannonClass ∧ y'.trigger = y.trigger := by
  rcases spared with rfl | ⟨_, rfl⟩ <;> exact ⟨rfl, rfl⟩

theorem stepped_config {y : Cannon} {event : Cannon.Event} {next : Cannon × Outcome}
    (acted : y.step event = some next) :
    next.1.toCannonClass = y.toCannonClass ∧ next.1.trigger = y.trigger := by
  have move := Cannon.step_transition acted
  have same := congrArg Cannon.trigger move.frame
  exact ⟨move.config, same⟩

theorem Reachable.burstOnlyMulti (reachable : w.Reachable) (here : w.cannons[c]? = some y) : y.BurstOnlyMulti := by
  obtain ⟨_, _, initial, run⟩ := reachable
  obtain ⟨y₀, own, fresh, past, _⟩ := cannon_history initial run here
  exact (past.invariant Cannon.BurstOnlyMulti fresh.1.burstOnlyMulti
    fun _ _ taken only => Cannon.undergo_burstOnlyMulti only taken).1

/-! What is known of a weapon at any time. -/

/-- The gate has been open since the reload after the last discharge, or it is closed
and the reload is due `ReloadTime` after it. -/
inductive Awaits (c : CannonId) (fired : List Scalar) (s : Clocked World Handle Scalar) (y : Cannon) : Prop where
  | ready (gate : y.gate y.trigger = true) (timer : y.reloadTimer = none)
      (passed : ∀ time ∈ fired, time + y.reloadTime ≤ s.now)
  | waiting (last : Scalar) (gate : y.gate y.trigger = false) (timer : y.reloadTimer = some y.trigger)
      (member : last ∈ fired) (due : s.due (.reloadTimer c) = some (last + y.reloadTime))
      (latest : ∀ time ∈ fired, time ≤ last)

structure Cooling (c : CannonId) (fired : List Scalar) (s : Clocked World Handle Scalar) (y : Cannon) : Prop where
  spaced : fired.Pairwise fun a b => a + y.reloadTime ≤ b
  past : ∀ time ∈ fired, time ≤ s.now
  awaits : y.bActorIsBeingDestroyed = false → Awaits c fired s y

theorem Awaits.cool {fired : List Scalar} {s : Clocked World Handle Scalar} (awaits : Awaits c fired s y) :
    y.Cool y.trigger := by
  cases awaits with
  | ready gate timer => exact .ready gate timer
  | waiting _ gate timer => exact .waiting gate timer

/-- Nothing of the weapon changes but the time. -/
theorem Cooling.later {fired : List Scalar} {s s' : Clocked World Handle Scalar} (cooling : Cooling c fired s y)
    (forward : s.now ≤ s'.now) (same : s'.due (.reloadTimer c) = s.due (.reloadTimer c)) :
    Cooling c fired s' y where
  spaced := cooling.spaced
  past := fun time member => (cooling.past time member).trans forward
  awaits := by
    intro alive
    cases cooling.awaits alive with
    | ready gate timer passed => exact .ready gate timer fun time member => (passed time member).trans forward
    | waiting last gate timer member due latest => exact .waiting last gate timer member (same.trans due) latest

theorem fires_called {t : Step World Event Report} {call : Cannon.Event} {next : Cannon × Outcome}
    (made : t.before.calls t.event = some (c, call)) (here : t.before.cannons[c]? = some y)
    (acted : y.step call = some next) : fires c t = next.2.discharges := by
  simp [fires, made, here, acted]

theorem fires_quiet {t : Step World Event Report} (quiet : ∀ call, t.before.calls t.event ≠ some (c, call)) :
    fires c t = false := by
  unfold fires
  split
  · next called call y made here =>
    have other : called ≠ c := by
      rintro rfl
      exact quiet call made
    simp [other]
  · rfl

theorem fires_absent {t : Step World Event Report} (missing : t.before.cannons[c]? = none) : fires c t = false := by
  unfold fires
  split
  · next here =>
    cases missing.symm.trans here
  · rfl

theorem fireTimes_snoc (trace : Timeline) (u : Step (Clocked World Handle Scalar) (Beat Event Scalar)
    (Option (Step World Event Report))) :
    fireTimes c (trace ++ [u]) = fireTimes c trace ++ if u.output.any (fires c) then [u.before.now] else [] := by
  rw [fireTimes, List.filterMap_append, List.filterMap_cons, List.filterMap_nil, ← fireTimes]
  cases u.output.any (fires c) <;> rfl

/-- A weapon that is not called discharges nothing. -/
theorem dead_silent {t : Step World Event Report} (reachable : t.before.Reachable)
    (taken : t.before.step t.event = some (t.after, t.output)) (guarded : y.Guarded y.trigger)
    (here : t.before.cannons[c]? = some y) {call : Cannon.Event} {next : Cannon × Outcome}
    (made : t.before.calls t.event = some (c, call)) (acted : y.step call = some next)
    (dead : y.bActorIsBeingDestroyed = true) : next.2.discharges = false := by
  have only := reachable.burstOnlyMulti here
  have unpressed : ∀ which, call ≠ Cannon.press which := by
    rintro which rfl
    cases (press_held reachable.wired taken made here).1.symm.trans dead
  obtain ⟨y', outcome⟩ := next
  cases Cannon.step_transition acted with
  | shot which => exact absurd rfl (unpressed which)
  | pressShot _ multi => exact absurd multi guarded.single
  | timerShot pending => exact absurd (only.multi_of_pending pending) guarded.single
  | refused | pressDone | timerDone | reload | resupply => rfl

/-- A called weapon. -/
theorem Cooling.called {fired : List Scalar} {s s' : Clocked World Handle Scalar} {t : Step World Event Report}
    (cooling : Cooling c fired s y) (reachable : t.before.Reachable)
    (taken : t.before.step t.event = some (t.after, t.output)) (guarded : y.Guarded y.trigger)
    (here : t.before.cannons[c]? = some y) {call : Cannon.Event} {next : Cannon × Outcome}
    (made : t.before.calls t.event = some (c, call)) (acted : y.step call = some next) (now : s'.now = s.now)
    (due : s'.due (.reloadTimer c) = (y.setsReload call).apply s.now (s.due (.reloadTimer c)))
    (expired : call = .reloadTimer → ∃ d ∈ s.due (.reloadTimer c), d ≤ s.now) :
    Cooling c (fired ++ if next.2.discharges then [s.now] else []) s' next.1 := by
  obtain ⟨config, trigger⟩ := stepped_config acted
  have rate : next.1.reloadTime = y.reloadTime := congrArg CannonClass.reloadTime config
  have living : next.1.bActorIsBeingDestroyed = y.bActorIsBeingDestroyed := by
    have same := congrArg Cannon.bActorIsBeingDestroyed (Cannon.step_transition acted).frame
    exact same
  by_cases dead : y.bActorIsBeingDestroyed = true
  · rw [dead_silent reachable taken guarded here made acted dead]
    simp only [Bool.false_eq_true, if_false, List.append_nil]
    refine ⟨by rw [rate]; exact cooling.spaced, by rw [now]; exact cooling.past, ?_⟩
    intro alive
    cases (living.trans dead).symm.trans alive
  have alive : y.bActorIsBeingDestroyed = false := by simpa using dead
  have awaits := cooling.awaits alive
  have mine : ∀ other, call = Cannon.press other → other = y.trigger := by
    rintro other rfl
    exact (press_held reachable.wired taken made here).2
  cases Cannon.step_cools guarded (reachable.burstOnlyMulti here) awaits.cool mine acted with
  | fired _ shot before gate timer sets =>
      rw [shot, if_pos rfl]
      rw [sets, Setting.apply, if_pos guarded.reload] at due
      cases awaits with
      | waiting _ shut => cases before.symm.trans shut
      | ready _ _ passed =>
          refine ⟨?_, ?_, ?_⟩
          · rw [rate, List.pairwise_append]
            refine ⟨cooling.spaced, List.pairwise_singleton _ _, ?_⟩
            intro a first b last
            rw [List.mem_singleton.mp last]
            exact passed a first
          · intro time member
            rw [now]
            rcases List.mem_append.mp member with old | last
            · exact cooling.past time old
            · exact (List.mem_singleton.mp last).le
          · intro _
            refine .waiting s.now (by rw [trigger]; exact gate) (by rw [trigger]; exact timer) (by simp)
              (by rw [rate]; exact due) ?_
            intro time member
            rcases List.mem_append.mp member with old | last
            · exact cooling.past time old
            · exact (List.mem_singleton.mp last).le
  | reloaded expiry silent before gate timer =>
      rw [silent]
      simp only [Bool.false_eq_true, if_false, List.append_nil]
      refine ⟨by rw [rate]; exact cooling.spaced, by rw [now]; exact cooling.past, ?_⟩
      intro _
      cases awaits with
      | ready raised => cases before.symm.trans raised
      | waiting last _ _ _ pending latest =>
          obtain ⟨d, known, passed⟩ := expired expiry
          obtain rfl := Option.some.inj (pending.symm.trans known)
          refine .ready (by rw [trigger]; exact gate) timer ?_
          intro time member
          rw [rate, now]
          have bound := latest time member
          linarith
  | kept silent gate timer sets =>
      rw [silent]
      simp only [Bool.false_eq_true, if_false, List.append_nil]
      rw [sets, Setting.apply] at due
      refine ⟨by rw [rate]; exact cooling.spaced, by rw [now]; exact cooling.past, ?_⟩
      intro _
      cases awaits with
      | ready raised idle passed =>
          refine .ready (by rw [trigger]; exact gate.trans raised) (timer.trans idle) ?_
          rw [rate, now]
          exact passed
      | waiting last shut pending member known latest =>
          refine .waiting last (by rw [trigger]; exact gate.trans shut) (by rw [trigger]; exact timer.trans pending)
            member ?_ latest
          rw [due, rate]
          exact known

/-- Only an expiry is the call of a timer. -/
theorem calls_reloadTimer {event : Event} (made : w.calls event = some (c, .reloadTimer)) :
    event = .reloadTimer c := by
  cases event with
  | fire p | alternateFire p =>
      obtain ⟨_, _, same⟩ := Option.map_eq_some_iff.mp made
      cases same
  | reloadTimer c' =>
      obtain ⟨rfl, _⟩ := Prod.mk.inj (Option.some.inj made)
      rfl
  | burstFireTimer | increaseAmmoValue => cases made
  | _ => cases made

/-- A weapon the step does not call. -/
theorem Cooling.quiet {fired : List Scalar} {s s' : Clocked World Handle Scalar} {y' : Cannon} (cooling : Cooling c fired s y) (spared : Cannon.Spared y y') (now : s'.now = s.now)
    (kept : y' = y → s'.due (.reloadTimer c) = s.due (.reloadTimer c)) : Cooling c fired s' y' := by
  rcases spared with rfl | ⟨_, rfl⟩
  · exact cooling.later now.ge (kept rfl)
  · refine ⟨cooling.spaced, by rw [now]; exact cooling.past, ?_⟩
    intro alive
    cases alive

theorem run_cooling {s s' : Clocked World Handle Scalar} {trace : Timeline} (begins : Begins s)
    (run : Run (timing.clock World.step) s trace s') :
    (s'.state.cannons[c]? = none → fireTimes c trace = []) ∧
      ∀ y, s'.state.cannons[c]? = some y → y.Guarded y.trigger → Cooling c (fireTimes c trace) s' y := by
  refine run.growing (motive := fun trace (s : Clocked World Handle Scalar) =>
    (s.state.cannons[c]? = none → fireTimes c trace = []) ∧
      ∀ y, s.state.cannons[c]? = some y → y.Guarded y.trigger → Cooling c (fireTimes c trace) s y) ?nil ?snoc
  case nil =>
    refine ⟨fun _ => rfl, ?_⟩
    intro y here
    simp [begins.initial.cannons] at here
  case snoc =>
    intro trace u prior taken ih
    obtain ⟨silent, known⟩ := ih
    have reachable := (timing_lawful.run_agrees begins.reachable begins.agrees prior).1.1
    rw [fireTimes_snoc]
    rcases Timing.clock_cases taken with
      ⟨elapsed, _, forward, _, after, shown⟩ | ⟨t, shown, _, before, next, offered, expired, now, due⟩
    · rw [shown, after, Option.any_none, if_neg (by simp), List.append_nil]
      refine ⟨silent, ?_⟩
      intro y here guarded
      exact (known y here guarded).later (le_add_of_nonneg_right forward) rfl
    rw [← before] at silent known reachable
    rw [shown, Option.any_some, ← next]
    have reload := due (.reloadTimer c)
    cases here : t.before.cannons[c]? with
    | none =>
        rw [fires_absent here, silent here]
        refine ⟨fun _ => rfl, ?_⟩
        intro y there _
        have fresh := step_births reachable.wired offered c y here there
        refine ⟨by simp, by simp, fun _ => ?_⟩
        cases fresh.cool y.trigger with
        | ready gate timer => exact .ready gate timer (by simp)
        | waiting gate timer => cases timer.symm.trans fresh.1.reload
    | some y₀ =>
        rcases step_cannon reachable.wired offered here with ⟨call, result, made, acted, there⟩ | ⟨quiet, y', there, spared⟩
        · rw [fires_called made here acted]
          refine ⟨fun missing => (by cases missing.symm.trans there), ?_⟩
          intro y same guarded
          obtain rfl := Option.some.inj (there.symm.trans same)
          obtain ⟨config, trigger⟩ := stepped_config acted
          have guarded₀ : y₀.Guarded y₀.trigger := by
            rw [← trigger]
            exact guarded.of_config config.symm
          have told : timing.sets t (.reloadTimer c) = y₀.setsReload call := setting_called made here
          rw [told] at reload
          apply (known y₀ here guarded₀).called reachable offered guarded₀ here made acted now reload
          rintro rfl
          apply expired
          rw [calls_reloadTimer made]
          rfl
        · rw [fires_quiet quiet]
          simp only [Bool.false_eq_true, if_false, List.append_nil]
          refine ⟨fun missing => (by cases missing.symm.trans there), ?_⟩
          intro y same guarded
          obtain rfl := Option.some.inj (there.symm.trans same)
          obtain ⟨config, trigger⟩ := spared_config spared
          have guarded₀ : y₀.Guarded y₀.trigger := by
            rw [← trigger]
            exact guarded.of_config config.symm
          apply (known y₀ here guarded₀).quiet spared now
          intro left
          have told : timing.sets t (.reloadTimer c) = .kept := setting_quiet quiet here there left
          rw [reload, told]
          rfl

/-- What the time promises of a weapon: discharges a reload apart, so no more of them
than there is time for, and a gate that never stays closed beyond its reload. -/
structure Paced (late : Scalar) (start final : Clocked World Handle Scalar) (c : CannonId) (y : Cannon)
    (times : List Scalar) : Prop where
  apart : times.Pairwise fun a b => a + y.reloadTime ≤ b
  count : times.length ≤ ⌊(final.now - start.now) / y.reloadTime⌋₊ + 1
  ready : y.bActorIsBeingDestroyed = false → y.gate y.trigger = false →
    ∃ last ∈ times, (∀ time ∈ times, time ≤ last) ∧ final.now ≤ last + y.reloadTime + late

theorem fireTimes_within {s s' : Clocked World Handle Scalar} {trace : Timeline}
    (run : Run (timing.clock World.step) s trace s') {time : Scalar} (member : time ∈ fireTimes c trace) :
    s.now ≤ time := by
  obtain ⟨u, inside, same⟩ := List.mem_filterMap.mp member
  split at same
  · obtain rfl := Option.some.inj same
    exact ((Timing.run_forward run).2 u inside).1
  · cases same

/-- In a level played in time, whatever is pressed, hit, picked up or replaced, a
single-shot weapon whose trigger closes its own gate keeps its pace. -/
theorem weapon_paced {s s' : Clocked World Handle Scalar} {trace : Timeline} {late : Scalar} (begins : Begins s)
    (nonneg : 0 ≤ late) (frames : Timing.Frames late trace) (run : Run (timing.clock World.step) s trace s')
    (here : s'.state.cannons[c]? = some y) (guarded : y.Guarded y.trigger) :
    Paced late s s' c y (fireTimes c trace) := by
  have cooling := (run_cooling begins run).2 y here guarded
  have known := (run_known begins nonneg frames run).1
  refine ⟨cooling.spaced, ?_, ?_⟩
  · apply (Spaced.of_forward cooling.spaced).length_le guarded.reload
    intro time member
    exact ⟨fireTimes_within run member, cooling.past time member⟩
  · intro alive shut
    cases cooling.awaits alive with
    | ready raised => cases shut.symm.trans raised
    | waiting last _ _ member due latest =>
        exact ⟨last, member, latest, known.punctual (.reloadTimer c) _ due⟩

/-- A pawn with a trace weapon, at time zero. -/
def range : Clocked World Handle Scalar where
  state :=
    { pawns :=
        [{ cannonClass := some
            { cannonType := .fireTrace
              projectileClass := none
              projectilePoolClass := none }
           alternateCannonClass := none }] }
  now := 0
  due := fun _ => none

theorem range_begins : Begins range := ⟨⟨rfl, rfl, rfl, by simp [range]⟩, fun _ => rfl⟩

-- Half a second a frame: the press after the first is refused, the one after the reload is not.
def drumfire : List (Beat Event Scalar) :=
  [.act (.beginPlay 0 {} {}), .act (.fire 0 {}), .tick (1 / 2), .act (.fire 0 {}), .tick (1 / 2),
    .act (.reloadTimer 0), .act (.fire 0 {})]

def drumfireRun : Timeline × Clocked World Handle Scalar :=
  Foundation.perform (timing.clock World.step) range drumfire

theorem drumfire_frames : Timing.Frames (1 / 2) drumfireRun.1 := by
  apply Timing.frames_of_beats
  intro elapsed member
  simp only [drumfire, List.mem_cons, Beat.tick.injEq, List.not_mem_nil, or_false, reduceCtorEq, false_or] at member
  rcases member with rfl | rfl <;> exact le_rfl

/-- The weapon discharges twice in the second it is pressed three times. -/
theorem weapon_paced_drumfire :
    ∃ y, drumfireRun.2.state.cannons[0]? = some y ∧ fireTimes 0 drumfireRun.1 = [0, 1] ∧
      Paced (1 / 2) range drumfireRun.2 0 y (fireTimes 0 drumfireRun.1) := by
  have times : fireTimes 0 drumfireRun.1 = [0, 1] := by decide +kernel
  cases here : drumfireRun.2.state.cannons[0]? with
  | none => exact absurd here (by decide +kernel)
  | some y =>
      have made : drumfireRun.2.state.cannons[0]?.map (fun y => (y.cannonType, y.trigger, y.reloadTime)) =
          some (.fireTrace, .main, 1) := by decide +kernel
      rw [here, Option.map_some, Option.some.injEq, Prod.mk.injEq, Prod.mk.injEq] at made
      have guarded : y.Guarded y.trigger :=
        ⟨by rw [made.1]; decide, .inl made.2.1, by rw [made.2.2]; norm_num⟩
      exact ⟨y, rfl, times, weapon_paced range_begins (by norm_num) drumfire_frames
        (perform_run _ _ _) here guarded⟩

end World

end TankoGeddon
