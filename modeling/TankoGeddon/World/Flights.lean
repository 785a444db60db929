import TankoGeddon.World.Pools

/-! The history of one projectile.

A projectile is stored in a pool, or launched at once; after that it is started again
only by the pool it is an element of, and only when it is idle. Moves, hits and the
end of its time do the rest, one projectile at a time.
-/

set_option autoImplicit false

namespace TankoGeddon

open Foundation (Timer Run Step getElem?_concat)

namespace Projectile

/-- As the `SpawnActor` block of a cannon leaves it. -/
def launched (cls : ProjectileClass) (location : FVector) (rotation : FRotator) (launcher : CannonId) : Projectile :=
  { Projectile.spawn cls location rotation with
      onKilled := [launcher]
      owner := some (.cannon launcher)
      launcher := some launcher }.start

/-- What befalls a projectile in its level. -/
inductive Deed where
  | launch (location : FVector) (rotation : FRotator) (launcher : CannonId)
  | move (forward : FVector)
  | deactivate
  deriving DecidableEq

/-- It is launched again when it is idle, and moves while its timer is pending. -/
def undergo (q : Projectile) : Deed → Option (Projectile × Unit)
  | .launch location rotation launcher =>
      if q.bIsActivation then none else some (q.relaunch location rotation launcher, ())
  | .move forward => if q.moveTimer.isSome then some (q.move forward, ()) else none
  | .deactivate => some (q.deactivate, ())

/-- The three ways a projectile comes into a level. -/
inductive Made : Projectile → Prop where
  | stored (cls : ProjectileClass) : Made (PoolState.stored cls)
  | launched (cls : ProjectileClass) (location : FVector) (rotation : FRotator) (launcher : CannonId) :
      Made (launched cls location rotation launcher)
  | grown (cls : ProjectileClass) (location : FVector) (rotation : FRotator) (launcher : CannonId) :
      Made ((Projectile.spawn cls location rotation).relaunch location rotation launcher)

/-- What is pending was armed in the present flight, at a rate that arms something. -/
structure Armed (q : Projectile) : Prop where
  move : ∀ armed, q.moveTimer = some armed → armed = q.flight ∧ 0 < q.moveRate
  deactivate : ∀ armed, q.deactivateTimer = some armed → armed = q.flight ∧ 0 < q.deactivateTime

theorem start_armed (q : Projectile) : q.start.Armed := by
  constructor
  · intro armed pending
    simp only [start, Timer.set] at pending
    split at pending
    · next positive => exact ⟨(Option.some.inj pending).symm, positive⟩
    · cases pending
  · intro armed pending
    simp only [start, Timer.set] at pending
    split at pending
    · next positive => exact ⟨(Option.some.inj pending).symm, positive⟩
    · cases pending

theorem relaunch_armed (location : FVector) (rotation : FRotator) (launcher : CannonId) (q : Projectile) :
    (q.relaunch location rotation launcher).Armed := by
  have armed := start_armed
    { q with location, rotation, bIsActivation := true, bActorEnableCollision := true }
  exact ⟨armed.move, armed.deactivate⟩

theorem Made.armed {q : Projectile} (made : q.Made) : q.Armed := by
  cases made with
  | stored cls => exact ⟨nofun, nofun⟩
  | launched => exact start_armed _
  | grown => exact relaunch_armed _ _ _ _

theorem undergo_armed {q q' : Projectile} {deed : Deed} {shown : Unit} (armed : q.Armed)
    (taken : q.undergo deed = some (q', shown)) : q'.Armed := by
  cases deed with
  | launch location rotation launcher =>
      simp only [undergo] at taken
      split at taken <;> cases taken
      exact relaunch_armed _ _ _ _
  | move forward =>
      simp only [undergo] at taken
      split at taken <;> cases taken
      exact ⟨armed.move, armed.deactivate⟩
  | deactivate =>
      cases taken
      exact ⟨nofun, nofun⟩

end Projectile

namespace World

variable {w w' : World} {event : Event} {report : Report} {j : ProjectileId}

/-- What a step does to one projectile. -/
inductive Carries (w : World) (event : Event) (report : Report) (j : ProjectileId) :
    Option Projectile → Option Projectile → Prop where
  | absent : Carries w event report j none none
  | stored (cls : ProjectileClass) (quiet : w.calls event = none) (stays : event.retires = none)
      (still : ∀ i forward, event ≠ .move i forward) :
      Carries w event report j none (some (PoolState.stored cls))
  | spawned {c : CannonId} {y : Cannon} {outcome : Outcome} {reply : Reply} {cls : ProjectileClass}
      (launches : Launches w event report c y outcome reply) (unpooled : outcome ≠ .pooled) :
      Carries w event report j none (some (Projectile.launched cls reply.location reply.rotation c))
  | grown {c : CannonId} {y : Cannon} {reply : Reply} {k : PoolId} {pool : ProjectilePool} {cls : ProjectileClass}
      (launches : Launches w event report c y .pooled reply) (holds : y.projectilePool = some k)
      (there : w.pools[k]? = some pool) (source : pool.projectileClass = some cls) :
      Carries w event report j none
        (some ((Projectile.spawn cls reply.location reply.rotation).relaunch reply.location reply.rotation c))
  | left (q : Projectile) (stays : event.retires ≠ some j) (still : ∀ forward, event ≠ .move j forward) :
      Carries w event report j (some q) (some q)
  | moved {forward : FVector} (q : Projectile) (named : event = .move j forward)
      (pending : q.moveTimer.isSome = true) : Carries w event report j (some q) (some (q.move forward))
  | stopped (q : Projectile) (retires : event.retires = some j)
      (due : event = .deactivateTimer j → q.deactivateTimer.isSome = true) :
      Carries w event report j (some q) (some q.deactivate)
  | reused {c : CannonId} {y : Cannon} {reply : Reply} {k : PoolId} {pool : ProjectilePool} (q : Projectile)
      (launches : Launches w event report c y .pooled reply) (holds : y.projectilePool = some k)
      (there : w.pools[k]? = some pool) (member : j ∈ pool.projectilePool) (idle : q.bIsActivation = false) :
      Carries w event report j (some q) (some (q.relaunch reply.location reply.rotation c))

theorem Launches.plain {c : CannonId} {y : Cannon} {outcome : Outcome} {reply : Reply}
    (launches : Launches w event report c y outcome reply) :
    event.retires = none ∧ ∀ j forward, event ≠ .move j forward := reply_plain launches.brings

theorem Restocks.projectile (restocks : Restocks w w') (j : ProjectileId) :
    w'.projectiles[j]? = w.projectiles[j]? ∨
      w.projectiles[j]? = none ∧ ∃ cls, w'.projectiles[j]? = some (PoolState.stored cls) := by
  induction restocks with
  | refl => exact .inl rfl
  | @tail w₁ w₂ _ last ih =>
      have grows : w₂.projectiles[j]? = w₁.projectiles[j]? ∨
          w₁.projectiles[j]? = none ∧ ∃ cls, w₂.projectiles[j]? = some (PoolState.stored cls) := by
        rcases last with ⟨_, projectiles, empty⟩ | ⟨_, projectiles⟩
        · rename_i pc n _
          cases source : pc.projectileClass with
          | none => exact .inl (by rw [(empty source).2])
          | some cls =>
              rw [projectiles cls source, List.getElem?_append]
              split
              · exact .inl rfl
              · next outside =>
                have missing := List.getElem?_eq_none_iff.mpr (Nat.le_of_not_lt outside)
                rw [List.getElem?_replicate]
                split
                · exact .inr ⟨missing, cls, rfl⟩
                · exact .inl missing.symm
        · exact .inl (by rw [projectiles])
      rcases grows with same | ⟨missing, made⟩
      · rw [same]
        exact ih
      · rcases ih with same | ⟨first, cls, there⟩
        · exact .inr ⟨same ▸ missing, made⟩
        · cases missing.symm.trans there

theorem Carries.of_same (same : w'.projectiles[j]? = w.projectiles[j]?) (stays : event.retires ≠ some j)
    (still : ∀ forward, event ≠ .move j forward) :
    Carries w event report j w.projectiles[j]? w'.projectiles[j]? := by
  rw [same]
  cases w.projectiles[j]? with
  | none => exact .absent
  | some q => exact .left q stays still

/-- An update of one projectile, as seen by each. -/
theorem Carries.of_modify {i : ProjectileId} {f : Projectile → Projectile}
    (projectiles : w'.projectiles = w.projectiles.modify i f)
    (own : ∀ q, w.projectiles[i]? = some q → Carries w event report i (some q) (some (f q)))
    (stays : i ≠ j → event.retires ≠ some j) (still : i ≠ j → ∀ forward, event ≠ .move j forward) :
    Carries w event report j w.projectiles[j]? w'.projectiles[j]? := by
  by_cases here : i = j
  · subst here
    rw [projectiles, List.getElem?_modify_eq]
    cases found : w.projectiles[i]? with
    | none => exact .absent
    | some q => exact own q found
  · apply of_same _ (stays here) (still here)
    rw [projectiles, List.getElem?_modify_ne _ _ here]

theorem Carries.of_append {added : Projectile} (projectiles : w'.projectiles = w.projectiles ++ [added])
    (own : Carries w event report j none (some added)) (stays : event.retires = none)
    (still : ∀ i forward, event ≠ .move i forward) :
    Carries w event report j w.projectiles[j]? w'.projectiles[j]? := by
  by_cases inside : j < w.projectiles.length
  · apply of_same _ (by simp [stays]) (still j)
    rw [projectiles, List.getElem?_append_left inside]
  · have missing := List.getElem?_eq_none_iff.mpr (Nat.le_of_not_lt inside)
    rw [missing]
    cases after : w'.projectiles[j]? with
    | none => exact .absent
    | some q =>
        rw [projectiles] at after
        rcases getElem?_concat after with old | ⟨_, rfl⟩
        · cases missing.symm.trans old
        · exact own

theorem Traffic.projectile (traffic : Traffic w event report w') (j : ProjectileId) :
    Carries w event report j w.projectiles[j]? w'.projectiles[j]? := by
  cases traffic with
  | quiet _ projectiles stays still => exact .of_same (by rw [projectiles]) (by simp [stays]) (still j)
  | restock quiet stays still restocks =>
      rcases restocks.projectile j with same | ⟨missing, cls, made⟩
      · exact .of_same same (by simp [stays]) (still j)
      · rw [missing, made]
        exact .stored cls quiet stays still
  | @moved i forward _ named _ pending _ projectiles =>
      apply Carries.of_modify projectiles
      · intro q found
        exact .moved q named (by simp_all)
      · intro _
        simp [named, Event.retires]
      · intro other _ same
        rw [named] at same
        cases same
        exact other rfl
  | @stopped i _ retires _ due _ projectiles =>
      apply Carries.of_modify projectiles
      · intro q found
        exact .stopped q retires (by simp_all)
      · intro other
        rw [retires]
        exact fun same => other (Option.some.inj same)
      · rintro _ _ rfl
        cases retires
  | spawned launches unpooled _ _ projectiles =>
      exact .of_append projectiles (.spawned launches unpooled) launches.plain.1 launches.plain.2
  | @reused _ _ _ _ _ i q launches holds there member found idle _ projectiles =>
      apply Carries.of_modify projectiles
      · intro q' found'
        obtain rfl := Option.some.inj (found.symm.trans found')
        exact .reused q launches holds there member idle
      · intro _
        simp [launches.plain.1]
      · intro _ forward
        exact launches.plain.2 j forward
  | grown launches holds there _ source _ projectiles =>
      exact .of_append projectiles (.grown launches holds there source) launches.plain.1 launches.plain.2
  | missed launches _ _ _ projectiles =>
      exact .of_same (by rw [projectiles]) (by simp [launches.plain.1]) (launches.plain.2 j)

/-! The history. -/

/-- What a step is to one projectile. A launch is told by the counter of flights. -/
def flightDeed (j : ProjectileId) (t : Step World Event Report) : Option Projectile.Deed :=
  match t.before.projectiles[j]?, t.after.projectiles[j]? with
  | some q, some q' =>
      if q.flight < q'.flight then some (.launch q'.location q'.rotation (q'.launcher.getD 0))
      else match t.event with
      | .move i forward => if i = j then some (.move forward) else none
      | event => if event.retires = some j then some .deactivate else none
  | _, _ => none

/-- A launch of a projectile takes the pose of the muzzle, which the cannon passed on. -/
theorem flightDeed_launch {t : Step World Event Report} (wired : t.before.links.Wired)
    (taken : t.before.step t.event = some (t.after, t.output)) {location : FVector} {rotation : FRotator}
    {launcher : CannonId} (shows : flightDeed j t = some (.launch location rotation launcher)) :
    ∃ reply, t.event.reply = some reply ∧ location = reply.location ∧ rotation = reply.rotation ∧
      t.output.launch = some launcher := by
  have carries := (step_traffic wired taken).projectile j
  generalize before : t.before.projectiles[j]? = first at carries
  generalize after : t.after.projectiles[j]? = last at carries
  have silent : ∀ q q' : Projectile, first = some q → last = some q' → q'.flight = q.flight →
      flightDeed j t ≠ some (.launch location rotation launcher) := by
    intro q q' old new same
    simp only [flightDeed, before, after, old, new, same, Nat.lt_irrefl, if_false]
    split <;> split <;> simp
  cases carries with
  | absent | stored | spawned | grown => simp [flightDeed, before] at shows
  | left q | moved q | stopped q => exact absurd shows (silent q _ rfl rfl rfl)
  | @reused c y reply k pool q launches =>
      simp only [flightDeed, before, after, Projectile.relaunch, PoolState.reuse, Projectile.start,
        Nat.lt_succ_self, if_true, Option.getD_some, Option.some.injEq, Projectile.Deed.launch.injEq] at shows
      obtain ⟨rfl, rfl, rfl⟩ := shows
      exact ⟨reply, launches.brings, rfl, rfl, launches.shows⟩

/-- A projectile there was is left, or takes the step its deed says. -/
theorem flightDeed_cases {t : Step World Event Report} {q : Projectile} {last : Option Projectile}
    (carries : Carries t.before t.event t.output j (some q) last) (before : t.before.projectiles[j]? = some q)
    (after : t.after.projectiles[j]? = last) :
    flightDeed j t = none ∧ last = some q ∨
      ∃ deed q', flightDeed j t = some deed ∧ q.undergo deed = some (q', ()) ∧ last = some q' := by
  cases carries with
  | left q stays still =>
      refine .inl ⟨?_, rfl⟩
      simp only [flightDeed, before, after, Nat.lt_irrefl, if_false]
      split
      · next i forward named =>
        rw [if_neg]
        rintro rfl
        exact still forward named
      · rw [if_neg stays]
  | @moved forward q named pending =>
      refine .inr ⟨.move forward, q.move forward, ?_, by simp [Projectile.undergo, pending], rfl⟩
      simp [flightDeed, before, after, named, Projectile.move]
  | stopped q retires due =>
      refine .inr ⟨.deactivate, _, ?_, rfl, rfl⟩
      simp only [flightDeed, before, after, Projectile.deactivate, Nat.lt_irrefl, if_false]
      split
      · next i forward named =>
        rw [named] at retires
        cases retires
      · rw [if_pos retires]
  | @reused c y reply k pool q launches holds there member idle =>
      refine .inr ⟨.launch reply.location reply.rotation c, _, ?_, by simp [Projectile.undergo, idle], rfl⟩
      simp only [flightDeed, before, after]
      exact if_pos (Nat.lt_succ_self _)

theorem shows_projectile {t : Step World Event Report} (wired : t.before.links.Wired)
    (taken : t.before.step t.event = some (t.after, t.output)) (j : ProjectileId) :
    t.Shows Projectile.undergo Projectile.Made (fun w => w.projectiles[j]?) (flightDeed j) where
  taken := by
    intro q deed here own
    have carries := (step_traffic wired taken).projectile j
    rw [show t.before.projectiles[j]? = some q from here] at carries
    rcases flightDeed_cases carries here rfl with ⟨silent, _⟩ | ⟨_, q', shown, acted, after⟩
    · cases silent.symm.trans own
    · obtain rfl := Option.some.inj (shown.symm.trans own)
      exact ⟨q', (), acted, after⟩
  left := by
    intro q here own
    have carries := (step_traffic wired taken).projectile j
    rw [show t.before.projectiles[j]? = some q from here] at carries
    rcases flightDeed_cases carries here rfl with ⟨_, after⟩ | ⟨_, _, shown, _, _⟩
    · exact after
    · cases shown.symm.trans own
  unborn := by
    intro missing
    simp only [flightDeed, show t.before.projectiles[j]? = none from missing]
  born := by
    intro q missing here
    have carries := (step_traffic wired taken).projectile j
    rw [show t.before.projectiles[j]? = none from missing, show t.after.projectiles[j]? = some q from here] at carries
    cases carries with
    | stored => exact .stored _
    | spawned => exact .launched _ _ _ _
    | grown => exact .grown _ _ _ _

/-- A level is its projectiles side by side: each has gone through a run of its own, from
one of the three ways it can be made. -/
theorem projectile_history {trace : List (Step World Event Report)} (initial : w.Initial)
    (run : Run World.step w trace w') {q : Projectile} (here : w'.projectiles[j]? = some q) :
    ∃ q₀ own, q₀.Made ∧ Run Projectile.undergo q₀ own q ∧ own.map (·.event) = trace.filterMap (flightDeed j) := by
  have wired := run_wired initial run
  apply run.component Projectile.Made (fun w => w.projectiles[j]?) (flightDeed j)
  · simp [initial.projectiles]
  · intro t member
    exact shows_projectile (wired.2 t member).1 (run.taken member) j
  · exact here

/-- A level comes apart into its cannons and its projectiles: what the interleaving of all
events has done to each of them is a run it takes alone, through the events that were its own. -/
theorem level_histories {trace : List (Step World Event Report)} (initial : w.Initial)
    (run : Run World.step w trace w') :
    (∀ c y, w'.cannons[c]? = some y →
      ∃ y₀ own, y₀.Fresh ∧ Run Cannon.undergo y₀ own y ∧ own.map (·.event) = history trace c) ∧
    ∀ j q, w'.projectiles[j]? = some q →
      ∃ q₀ own, q₀.Made ∧ Run Projectile.undergo q₀ own q ∧ own.map (·.event) = trace.filterMap (flightDeed j) :=
  ⟨fun _ _ here => cannon_history initial run here, fun _ _ here => projectile_history initial run here⟩

theorem level_histories_exchange :
    (∀ c y, (Foundation.perform World.step skirmish exchange).2.cannons[c]? = some y →
      ∃ y₀ own, y₀.Fresh ∧ Run Cannon.undergo y₀ own y ∧
        own.map (·.event) = history (Foundation.perform World.step skirmish exchange).1 c) ∧
    ∀ j q, (Foundation.perform World.step skirmish exchange).2.projectiles[j]? = some q →
      ∃ q₀ own, q₀.Made ∧ Run Projectile.undergo q₀ own q ∧
        own.map (·.event) = (Foundation.perform World.step skirmish exchange).1.filterMap (flightDeed j) :=
  level_histories skirmish_initial (Foundation.perform_run _ _ _)

/-- A shot of a burst starts one projectile of the cannon's class at its muzzle where the
spawn succeeds, and none where it fails. -/
theorem burstShot_starts {result : World × Report} {c : CannonId} {y y' : Cannon} {call : Cannon.Event}
    {reply : Reply} (taken : w.step event = some result) (made : w.calls event = some (c, call))
    (wired : w.links.Wired) (here : w.cannons[c]? = some y) (acted : y.step call = some (y', .burstShot))
    (brings : event.reply = some reply) : result.1.projectiles = match y.projectileClass, reply.spawned with
      | some cls, true => w.projectiles ++ [Projectile.launched cls reply.location reply.rotation c]
      | _, _ => w.projectiles := by
  obtain ⟨y₀, next, reply', here', acted', _, reads, rfl⟩ := calls_acts wired taken made
  obtain rfl := Option.some.inj (here.symm.trans here')
  obtain rfl := Option.some.inj (acted.symm.trans acted')
  obtain rfl := Option.some.inj (brings.symm.trans (reads rfl))
  have source : (w.updateCannon c fun _ => y').cannons[c]?.bind (·.projectileClass) = y.projectileClass := by
    simp [updateCannon, here, congrArg CannonClass.projectileClass (Cannon.step_transition acted).config]
  simp only [perform, launchSpawned, source]
  cases y.projectileClass with
  | none => rfl
  | some cls => cases reply.spawned <;> rfl

/-- What is pending belongs to the flight that armed it, whatever the level has done. -/
theorem run_armed {trace : List (Step World Event Report)} (initial : w.Initial)
    (run : Run World.step w trace w') {q : Projectile} (here : w'.projectiles[j]? = some q) : q.Armed := by
  obtain ⟨q₀, own, made, past, _⟩ := projectile_history initial run here
  exact (past.invariant Projectile.Armed made.armed fun _ _ taken armed => Projectile.undergo_armed armed taken).1

end World

end TankoGeddon
