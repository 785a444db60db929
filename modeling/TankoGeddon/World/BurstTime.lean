import TankoGeddon.Cannon.Burst
import TankoGeddon.World.FireRate

/-! How long a burst takes.

A press during a burst is one more call of `BurstFire`, and sets `BurstFireTimer` anew.
It may delay the next shot, never the end of the burst beyond an interval and a frame for
each shot.
-/

set_option autoImplicit false

namespace TankoGeddon

open Foundation (Run Step Setting Timing Clocked Beat perform_run)

/-- The counter of a cannon that has not been destroyed agrees with its timer. -/
def Cannon.Counts (y : Cannon) : Prop := 0 ≤ y.burstFireRate → 0 < y.burstFireInterval →
  y.bActorIsBeingDestroyed = false → y.BurstCount

theorem Cannon.Fresh.counts {y : Cannon} (fresh : y.Fresh) : y.Counts := fun rate _ _ => fresh.1.burstCount rate

theorem Cannon.step_alive {y : Cannon} {event : Cannon.Event} {next : Cannon × Outcome}
    (acted : y.step event = some next) : next.1.bActorIsBeingDestroyed = y.bActorIsBeingDestroyed := by
  have same := congrArg Cannon.bActorIsBeingDestroyed (Cannon.step_transition acted).frame
  exact same

theorem Cannon.undergo_counts {y y' : Cannon} {act : Cannon.Deed} {shown : Option Outcome} (counts : y.Counts)
    (taken : y.undergo act = some (y', shown)) : y'.Counts := by
  intro rate interval alive
  cases act with
  | call event =>
      obtain ⟨next, acted, same⟩ := Option.map_eq_some_iff.mp taken
      obtain ⟨rfl, _⟩ := Prod.mk.inj same
      have move := Cannon.step_transition acted
      have living := Cannon.step_alive acted
      have rate' : next.1.burstFireRate = y.burstFireRate := congrArg CannonClass.burstFireRate move.config
      have interval' : next.1.burstFireInterval = y.burstFireInterval :=
        congrArg CannonClass.burstFireInterval move.config
      rw [rate'] at rate
      rw [interval'] at interval
      exact move.burstCount interval (counts rate interval (living.symm.trans alive))
  | destroy =>
      simp only [Cannon.undergo] at taken
      split at taken <;> cases taken
      cases alive

/-- What a step is to a burst. -/
inductive Cannon.Bursts (y : Cannon) (event : Cannon.Event) (y' : Cannon) : Prop where
  | kept (shot : y'.currentShot = y.currentShot) (timer : y'.burstFireTimer = y.burstFireTimer)
      (sets : y.setsBurst event = .kept)
  | fired (shot : y'.currentShot = y.currentShot + 1) (sets : y.setsBurst event = .after y.burstFireInterval)
  | ended (timer : y'.burstFireTimer = none)

theorem Cannon.step_bursts {y y' : Cannon} {event : Cannon.Event} {outcome : Outcome}
    (acted : y.step event = some (y', outcome)) : y.Bursts event y' := by
  have sets := Cannon.setsBurst_eq acted
  cases Cannon.step_transition acted with
  | refused | resupply => exact .kept rfl rfl sets
  | shot which _ _ _ _ how =>
      have kept : y.setsBurst (Cannon.press which) = .kept := by
        rw [sets]
        rcases how with rfl | rfl | rfl <;> rfl
      cases which with
      | main => exact .kept rfl rfl kept
      | alternate => apply Cannon.Bursts.kept _ _ kept <;> simp only [Cannon.closeGate] <;> split <;> rfl
  | pressShot | timerShot => exact .fired rfl sets
  | pressDone | timerDone => exact .ended rfl
  | reload which => cases which <;> exact .kept rfl rfl sets

namespace World

variable {w : World} {c : CannonId} {y : Cannon}

theorem Reachable.counts (reachable : w.Reachable) (here : w.cannons[c]? = some y) : y.Counts := by
  obtain ⟨_, _, initial, run⟩ := reachable
  obtain ⟨y₀, own, fresh, past, _⟩ := cannon_history initial run here
  exact (past.invariant Cannon.Counts fresh.counts fun _ _ taken counts => Cannon.undergo_counts counts taken).1

/-- The step fires the first shot of a burst. -/
def opens (c : CannonId) (t : Step World Event Report) : Bool :=
  match t.before.cannons[c]?, t.after.cannons[c]? with
  | some y, some y' => y.currentShot == 0 && y'.currentShot == 1
  | _, _ => false

/-- When the last burst of a cannon began. -/
def burstSince (c : CannonId) (trace : Timeline) : Option Scalar :=
  trace.foldl (fun since u => if u.output.any (opens c) then some u.before.now else since) none

theorem burstSince_snoc (trace : Timeline)
    (u : Step (Clocked World Handle Scalar) (Beat Event Scalar) (Option (Step World Event Report))) :
    burstSince c (trace ++ [u]) = if u.output.any (opens c) then some u.before.now else burstSince c trace := by
  simp [burstSince]

/-- The next call of `BurstFire` is due an interval and a frame for each shot after the
first, and one interval more, after the burst began. -/
def Bursting (late : Scalar) (c : CannonId) (since : Option Scalar) (s : Clocked World Handle Scalar) (y : Cannon) :
    Prop :=
  ∃ began, since = some began ∧ ∀ d ∈ s.due (.burstFireTimer c),
    d ≤ began + y.burstFireInterval + (y.currentShot - 1) * (y.burstFireInterval + late)

/-- A step in which the counter and the timer stay. -/
theorem Bursting.stays {late : Scalar} {since : Option Scalar} {s s' : Clocked World Handle Scalar} {y' : Cannon}
    (bursting : Bursting late c since s y) (interval : y'.burstFireInterval = y.burstFireInterval)
    (shot : y'.currentShot = y.currentShot) (due : s'.due (.burstFireTimer c) = s.due (.burstFireTimer c)) :
    Bursting late c since s' y' := by
  obtain ⟨began, told, bound⟩ := bursting
  refine ⟨began, told, ?_⟩
  rw [due, interval, shot]
  exact bound

/-- A call of `BurstFire` that fires. -/
theorem Bursting.shot {late : Scalar} {since since' : Option Scalar} {s s' : Clocked World Handle Scalar} {y' : Cannon}
    (count : y.BurstCount) (same : y'.burstFireInterval = y.burstFireInterval) (shot : y'.currentShot = y.currentShot + 1)
    (opened : since' = if y.currentShot = 0 then some s.now else since)
    (bursting : y.burstFireTimer.isSome = true → Bursting late c since s y)
    (agrees : y.burstFireTimer.isSome = true → (s.due (.burstFireTimer c)).isSome = true)
    (punctual : ∀ d ∈ s.due (.burstFireTimer c), s.now ≤ d + late)
    (due : s'.due (.burstFireTimer c) = some (s.now + y.burstFireInterval)) : Bursting late c since' s' y' := by
  by_cases first : y.currentShot = 0
  · refine ⟨s.now, by rw [opened, if_pos first], ?_⟩
    intro d pending
    obtain rfl := Option.some.inj (due.symm.trans pending)
    rw [same, shot, first]
    simp
  · have positive : 0 < y.currentShot := lt_of_le_of_ne count.nonneg (Ne.symm first)
    have armed := count.pending.mpr positive
    obtain ⟨began, told, bound⟩ := bursting armed
    obtain ⟨d₀, pending₀⟩ := Option.isSome_iff_exists.mp (agrees armed)
    refine ⟨began, by rw [opened, if_neg first, told], ?_⟩
    intro d pending
    obtain rfl := Option.some.inj (due.symm.trans pending)
    have early := bound d₀ pending₀
    have onTime := punctual d₀ pending₀
    rw [same, shot]
    push_cast
    linarith

theorem opens_eq {t : Step World Event Report} {y' : Cannon} (before : t.before.cannons[c]? = some y)
    (after : t.after.cannons[c]? = some y') : opens c t = (y.currentShot == 0 && y'.currentShot == 1) := by
  simp only [opens, before, after]

theorem opens_kept {t : Step World Event Report} {y' : Cannon} (before : t.before.cannons[c]? = some y)
    (after : t.after.cannons[c]? = some y') (same : y'.currentShot = y.currentShot) : opens c t = false := by
  rw [opens_eq before after, same, Bool.and_eq_false_iff, beq_eq_false_iff_ne, beq_eq_false_iff_ne]
  omega

theorem run_bursting {s s' : Clocked World Handle Scalar} {trace : Timeline} {late : Scalar} (begins : Begins s)
    (nonneg : 0 ≤ late) (frames : Timing.Frames late trace) (run : Run (timing.clock World.step) s trace s') :
    ∀ y, s'.state.cannons[c]? = some y → 0 ≤ y.burstFireRate → 0 < y.burstFireInterval →
      y.burstFireTimer.isSome = true → Bursting late c (burstSince c trace) s' y := by
  have each := (run_known begins nonneg frames run).2
  have law : (∀ u ∈ trace, Known late u.before ∧ Known late u.after) →
      ∀ y, s'.state.cannons[c]? = some y → 0 ≤ y.burstFireRate → 0 < y.burstFireInterval →
        y.burstFireTimer.isSome = true → Bursting late c (burstSince c trace) s' y := by
    refine run.growing (motive := fun trace (s : Clocked World Handle Scalar) =>
      (∀ u ∈ trace, Known late u.before ∧ Known late u.after) →
        ∀ y, s.state.cannons[c]? = some y → 0 ≤ y.burstFireRate → 0 < y.burstFireInterval →
          y.burstFireTimer.isSome = true → Bursting late c (burstSince c trace) s y) ?nil ?snoc
    case nil =>
      intro _ y here
      simp [begins.initial.cannons] at here
    case snoc =>
      intro trace u _ taken ih each y here rate interval armed
      have prior := ih fun v member => each v (List.mem_append_left _ member)
      obtain ⟨known, _⟩ := each u (by simp)
      rw [burstSince_snoc]
      rcases Timing.clock_cases taken with
        ⟨elapsed, _, _, _, after, shown⟩ | ⟨t, shown, _, before, next, offered, _, now, due⟩
      · rw [after] at here ⊢
        rw [shown, Option.any_none, if_neg (by simp)]
        exact (prior y here rate interval armed).stays rfl rfl rfl
      rw [shown, Option.any_some]
      have reachable : t.before.Reachable := before ▸ known.reachable
      rw [← next] at here
      have set := due (.burstFireTimer c)
      cases there : t.before.cannons[c]? with
      | none =>
          have fresh := step_births reachable.wired offered c y there here
          rw [fresh.1.burst] at armed
          cases armed
      | some y₀ =>
          have old := prior y₀ (by rw [← before]; exact there)
          rcases step_cannon reachable.wired offered there with ⟨call, result, made, acted, after⟩ | ⟨quiet, y', after, spared⟩
          · obtain rfl := Option.some.inj (after.symm.trans here)
            have config := (stepped_config acted).1
            have rate₀ : result.1.burstFireRate = y₀.burstFireRate := congrArg CannonClass.burstFireRate config
            have interval₀ : result.1.burstFireInterval = y₀.burstFireInterval :=
              congrArg CannonClass.burstFireInterval config
            have told : timing.sets t (.burstFireTimer c) = y₀.setsBurst call := setting_called made there
            rw [rate₀] at rate
            rw [interval₀] at interval
            rw [told] at set
            cases Cannon.step_bursts acted with
            | kept shot timer sets =>
                rw [opens_kept there after shot, if_neg (by simp)]
                rw [timer] at armed
                rw [sets] at set
                exact (old rate interval armed).stays interval₀ shot set
            | fired shot sets =>
                have pending : result.1.link.pending = true := by simp [Cannon.link, armed]
                have alive := pending_alive (reachable.step offered).wired here pending
                have count := reachable.counts there rate interval ((Cannon.step_alive acted).symm.trans alive)
                rw [sets, Setting.apply, if_pos interval] at set
                refine Bursting.shot count interval₀ shot ?_ (old rate interval) ?_ (known.punctual _) set
                · rw [opens_eq there here, shot]
                  by_cases first : y₀.currentShot = 0 <;> simp [first]
                · intro armed₀
                  rw [known.agrees, ← before]
                  simpa [timing, there] using armed₀
            | ended timer =>
                rw [timer] at armed
                cases armed
          · obtain rfl := Option.some.inj (after.symm.trans here)
            rcases spared with rfl | ⟨_, rfl⟩
            · rw [opens_kept there after rfl, if_neg (by simp)]
              have told : timing.sets t (.burstFireTimer c) = .kept := setting_quiet quiet there after rfl
              rw [told] at set
              exact (old rate interval armed).stays rfl rfl set
            · cases armed
  exact law each

/-- In a level played in time, a burst is over within an interval and a frame for each of
its shots, however often the triggers are pressed meanwhile. -/
theorem burst_bounded {s s' : Clocked World Handle Scalar} {trace : Timeline} {late : Scalar} (begins : Begins s)
    (nonneg : 0 ≤ late) (frames : Timing.Frames late trace) (run : Run (timing.clock World.step) s trace s')
    (here : s'.state.cannons[c]? = some y) (rate : 0 ≤ y.burstFireRate) (interval : 0 < y.burstFireInterval)
    (armed : y.burstFireTimer.isSome = true) :
    ∃ began, burstSince c trace = some began ∧ 1 ≤ y.currentShot ∧ y.currentShot ≤ y.burstFireRate ∧
      s'.now ≤ began + y.currentShot * (y.burstFireInterval + late) ∧
      s'.now ≤ began + y.burstFireRate * (y.burstFireInterval + late) := by
  have known := (run_known begins nonneg frames run).1
  have pending : y.link.pending = true := by simp [Cannon.link, armed]
  have alive := pending_alive known.reachable.wired here pending
  have count := known.reachable.counts here rate interval alive
  obtain ⟨began, told, bound⟩ := run_bursting begins nonneg frames run y here rate interval armed
  have first : 1 ≤ y.currentShot := count.pending.mp armed
  have due : (s'.due (.burstFireTimer c)).isSome = true := by
    rw [known.agrees]
    simpa [timing, here] using armed
  obtain ⟨d, next⟩ := Option.isSome_iff_exists.mp due
  have early := bound d next
  have onTime := known.punctual _ d next
  have now : s'.now ≤ began + y.currentShot * (y.burstFireInterval + late) := by linarith
  have longer : (y.currentShot : Scalar) * (y.burstFireInterval + late) ≤
      y.burstFireRate * (y.burstFireInterval + late) :=
    mul_le_mul_of_nonneg_right (Int.cast_le.mpr count.le_rate) (by linarith)
  exact ⟨began, told, first, count.le_rate, now, by linarith⟩

/-- A pawn with a burst weapon, at time zero. -/
def broadside : Clocked World Handle Scalar where
  state :=
    { pawns :=
        [{ cannonClass := some
            { cannonType := .fireMultiProjectile
              projectileClass := none
              projectilePoolClass := none }
           alternateCannonClass := none }] }
  now := 0
  due := fun _ => none

-- The second press falls into the burst the first began.
def doublePress : List (Beat Event Scalar) :=
  [.act (.beginPlay 0 {} {}), .act (.fire 0 {}), .tick (1 / 10), .act (.fire 0 {}), .tick (1 / 10)]

def doublePressRun : Timeline × Clocked World Handle Scalar :=
  Foundation.perform (timing.clock World.step) broadside doublePress

theorem burst_bounded_doublePress :
    ∃ y, doublePressRun.2.state.cannons[0]? = some y ∧ y.currentShot = 2 ∧ burstSince 0 doublePressRun.1 = some 0 ∧
      doublePressRun.2.now ≤ 0 + y.burstFireRate * (y.burstFireInterval + 1 / 10) := by
  have frames : Timing.Frames (1 / 10) doublePressRun.1 := by
    apply Timing.frames_of_beats
    intro elapsed member
    simp only [doublePress, List.mem_cons, Beat.tick.injEq, List.not_mem_nil, or_false, reduceCtorEq, false_or] at member
    rcases member with rfl | rfl <;> exact le_rfl
  have made : doublePressRun.2.state.cannons[0]?.map
      (fun y => (y.burstFireRate, y.burstFireInterval, y.burstFireTimer, y.currentShot)) =
        some (3, 1 / 5, some (), 2) := by decide +kernel
  have since : burstSince 0 doublePressRun.1 = some 0 := by decide +kernel
  obtain ⟨y, here, same⟩ := Option.map_eq_some_iff.mp made
  simp only [Prod.mk.injEq] at same
  obtain ⟨rate, interval, armed, shot⟩ := same
  obtain ⟨began, told, _, _, _, bound⟩ := burst_bounded ⟨⟨rfl, rfl, rfl, by simp [broadside]⟩, fun _ => rfl⟩
    (by norm_num) frames (perform_run _ _ _) here (by rw [rate]; decide) (by rw [interval]; norm_num) (by simp [armed])
  obtain rfl := Option.some.inj (since.symm.trans told)
  exact ⟨y, here, shot, since, bound⟩

end World

end TankoGeddon
