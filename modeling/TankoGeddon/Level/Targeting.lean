import TankoGeddon.Level.Transitions

/-! What `Targeting` dereferences.

`PlayerPawn` is read once, when the turret begins play, and never refreshed. It is
good exactly while the pawn the controller had at that moment is alive.
-/

set_option autoImplicit false

namespace TankoGeddon.Level

open Foundation (Run Step perform_run perform_event)

/-- The step is the `BeginPlay` of the turret. -/
def Begins (t : Step Level Event Sight) (i : Nat) : Prop :=
  ∃ main alternate, t.event = .beginPlay i main alternate

/-- What the pointer and the timer of each turret know of the run so far. -/
structure Remembers (trace : List (Step Level Event Sight)) (l : Level) : Prop where
  wired : l.world.links.Wired
  begun : ∀ i turret, l.turrets[i]? = some turret → ∀ u ∈ trace, Begins u i → l.begun turret.pawn = true
  armed : ∀ i turret, l.turrets[i]? = some turret → turret.targetingTimer.isSome = true →
    ∃ u ∈ trace, Begins u i
  cached : ∀ i turret, l.turrets[i]? = some turret → ∀ u ∈ trace, Begins u i →
    turret.playerPawn = u.after.getPawn ∨
      turret.playerPawn = none ∧ ∀ p, u.after.getPawn = some p → l.world.pawnAlive p = false

/-- A step other than `BeginPlay`: a pointer stays or is cleared after its pawn died. -/
theorem Remembers.later {trace : List (Step Level Event Sight)} {t : Step Level Event Sight}
    (known : Remembers trace t.before) (move : Transition t.before t.event t.after t.output)
    (other : ∀ i, ¬ Begins t i)
    (origin : ∀ (i : Nat) (turret' : Turret), t.after.turrets[i]? = some turret' →
      ∃ turret : Turret, t.before.turrets[i]? = some turret ∧ turret'.pawn = turret.pawn ∧
        turret'.targetingTimer = turret.targetingTimer ∧
        (turret'.playerPawn = turret.playerPawn ∨
          turret'.playerPawn = none ∧ ∀ p, turret.playerPawn = some p → t.after.world.pawnAlive p = false)) :
    Remembers (trace ++ [t]) t.after := by
  have earlier : ∀ u ∈ trace ++ [t], ∀ i, Begins u i → u ∈ trace := by
    intro u member i begins
    rcases List.mem_append.mp member with early | last
    · exact early
    · obtain rfl := List.mem_singleton.mp last
      exact absurd begins (other i)
  constructor
  case wired => exact move.wired known.wired
  case begun =>
    intro i turret' found' u member begins
    obtain ⟨turret, found, pawn, _⟩ := origin i turret' found'
    rw [pawn]
    exact move.stays_begun known.wired (known.begun i turret found u (earlier u member i begins) begins)
  case armed =>
    intro i turret' found' armed
    obtain ⟨turret, found, _, timer, _⟩ := origin i turret' found'
    rw [timer] at armed
    obtain ⟨u, member, begins⟩ := known.armed i turret found armed
    exact ⟨u, List.mem_append_left _ member, begins⟩
  case cached =>
    intro i turret' found' u member begins
    obtain ⟨turret, found, _, _, pointer⟩ := origin i turret' found'
    rcases known.cached i turret found u (earlier u member i begins) begins with same | ⟨none, dead⟩
    · rcases pointer with kept | ⟨cleared, gone⟩
      · exact .inl (kept.trans same)
      · exact .inr ⟨cleared, fun p held => gone p (same.trans held)⟩
    · refine .inr ⟨?_, fun p held => move.stays_dead known.wired (dead p held)⟩
      rcases pointer with kept | ⟨cleared, _⟩
      · exact kept.trans none
      · exact cleared

/-- `BeginPlay` of a turret: its pointer is judged by this step alone. -/
theorem Remembers.began {trace : List (Step Level Event Sight)} {l : Level} {i : Nat}
    {main alternate : CannonReply} {turret : Turret} {w : World} {report : Report}
    (known : Remembers trace l) (found : l.turrets[i]? = some turret)
    (taken : l.world.step (.beginPlay turret.pawn main alternate) = some (w, report)) :
    let l' : Level := { l with
      world := w
      turrets := l.turrets.modify i (Turret.beginPlay ({ l with world := w } : Level).getPawn) }
    Remembers (trace ++ [⟨l, .beginPlay i main alternate, { report }, l'⟩]) l' := by
  have move : Transition l (.beginPlay i main alternate) _ _ := .beginPlay found taken
  obtain ⟨fresh, begins⟩ := World.beginPlay_begins taken
  -- no earlier step began this turret
  have first : ∀ u ∈ trace, ¬ Begins u i := by
    intro u member again
    have before : l.begun turret.pawn = true := known.begun i turret found u member again
    cases before.symm.trans fresh
  have lookup : ∀ (k : Nat) (turret' : Turret),
      (l.turrets.modify i (Turret.beginPlay ({ l with world := w } : Level).getPawn))[k]? = some turret' →
      i ≠ k ∧ l.turrets[k]? = some turret' ∨
      i = k ∧ turret' = turret.beginPlay ({ l with world := w } : Level).getPawn := by
    intro k turret' found'
    by_cases same : i = k
    · subst same
      rw [List.getElem?_modify_eq, found] at found'
      exact .inr ⟨rfl, (Option.some.inj found').symm⟩
    · rw [List.getElem?_modify_ne _ _ same] at found'
      exact .inl ⟨same, found'⟩
  constructor
  case wired => exact move.wired known.wired
  case begun =>
    intro k turret' found' u member again
    rcases lookup k turret' found' with ⟨ne, before⟩ | ⟨rfl, rfl⟩
    · rcases List.mem_append.mp member with early | last
      · exact move.stays_begun known.wired (known.begun k turret' before u early again)
      · obtain rfl := List.mem_singleton.mp last
        obtain ⟨_, _, event⟩ := again
        cases event
        exact absurd rfl ne
    · exact begins
  case armed =>
    intro k turret' found' armed
    rcases lookup k turret' found' with ⟨_, before⟩ | ⟨rfl, _⟩
    · obtain ⟨u, member, again⟩ := known.armed k turret' before armed
      exact ⟨u, List.mem_append_left _ member, again⟩
    · exact ⟨_, List.mem_append_right _ (List.mem_singleton_self _), main, alternate, rfl⟩
  case cached =>
    intro k turret' found' u member again
    rcases lookup k turret' found' with ⟨ne, before⟩ | ⟨rfl, rfl⟩
    · rcases List.mem_append.mp member with early | last
      · rcases known.cached k turret' before u early again with same | ⟨none, dead⟩
        · exact .inl same
        · exact .inr ⟨none, fun p held => move.stays_dead known.wired (dead p held)⟩
      · obtain rfl := List.mem_singleton.mp last
        obtain ⟨_, _, event⟩ := again
        cases event
        exact absurd rfl ne
    · rcases List.mem_append.mp member with early | last
      · exact absurd again (first u early)
      · obtain rfl := List.mem_singleton.mp last
        exact .inl rfl

theorem Remembers.step {trace : List (Step Level Event Sight)} {t : Step Level Event Sight}
    (known : Remembers trace t.before) (move : Transition t.before t.event t.after t.output) :
    Remembers (trace ++ [t]) t.after := by
  obtain ⟨l, event, sight, l'⟩ := t
  change Remembers trace l at known
  change Transition l event l' sight at move
  cases move with
  | world taken =>
      refine known.later (.world taken) (fun i ⟨_, _, h⟩ => nomatch h) ?_
      exact fun i turret found => ⟨turret, found, rfl, rfl, .inl rfl⟩
  | possess inPawn =>
      refine known.later (.possess inPawn) (fun i ⟨_, _, h⟩ => nomatch h) ?_
      exact fun i turret found => ⟨turret, found, rfl, rfl, .inl rfl⟩
  | crash found armed null =>
      refine known.later (.crash found armed null) (fun i ⟨_, _, h⟩ => nomatch h) ?_
      exact fun i turret found => ⟨turret, found, rfl, rfl, .inl rfl⟩
  | @targeting i _ _ _ _ _ turn _ found armed pointer first same turns shot =>
      refine known.later (.targeting found armed pointer first same turns shot)
        (fun i ⟨_, _, h⟩ => nomatch h) ?_
      intro k turret' found'
      simp only [List.getElem?_modify] at found'
      obtain ⟨turret, before, rfl⟩ := Option.map_eq_some_iff.mp found'
      refine ⟨turret, before, ?_⟩
      rcases turns with rfl | rfl <;> split <;> exact ⟨rfl, rfl, .inl rfl⟩
  | collectGarbage =>
      refine known.later .collectGarbage (fun i ⟨_, _, h⟩ => nomatch h) ?_
      intro k turret' found'
      simp only [Level.collectGarbage, List.getElem?_map] at found'
      obtain ⟨turret, before, rfl⟩ := Option.map_eq_some_iff.mp found'
      refine ⟨turret, before, rfl, rfl, ?_⟩
      cases pointer : turret.playerPawn with
      | none => exact .inl rfl
      | some p =>
          cases alive : l.world.pawnAlive p with
          | true => exact .inl (by simp [Option.filter, alive])
          | false =>
              refine .inr ⟨by simp [Option.filter, alive], ?_⟩
              intro q held
              obtain rfl := Option.some.inj held
              exact alive
  | beginPlay found taken => exact known.began found taken

theorem Initial.remembers {l : Level} (initial : l.Initial) : Remembers [] l where
  wired := initial.world.wired
  begun _ _ _ u member := nomatch member
  armed i turret found armed := by
    rw [(initial.turrets turret (List.mem_of_getElem? found)).2] at armed
    cases armed
  cached _ _ _ u member := nomatch member

theorem run_remembers {start final : Level} {trace : List (Step Level Event Sight)}
    (initial : start.Initial) (run : Run Level.step start trace final) : Remembers trace final := by
  refine run.growing initial.remembers ?_
  intro trace t _ taken known
  exact known.step (step_transition taken)

/-- Whom the player controller has does not depend on a turret beginning play. -/
theorem Begins.getPawn {t : Step Level Event Sight} {i : Nat} (begins : Begins t i)
    (taken : t.before.step t.event = some (t.after, t.output)) : t.after.getPawn = t.before.getPawn := by
  obtain ⟨l, event, sight, l'⟩ := t
  obtain ⟨main, alternate, rfl⟩ := begins
  have move : Transition l (.beginPlay i main alternate) l' sight := step_transition taken
  cases move with
  | beginPlay _ stepped =>
      have alive : ∀ p, World.pawnAlive _ p = l.world.pawnAlive p := World.beginPlay_alive stepped
      simp only [Level.getPawn]
      congr 1
      funext p
      exact alive p

/-- Every `PlayerPawn` the step dereferences is a pawn that has not been destroyed. -/
def Safe (t : Step Level Event Sight) : Prop :=
  ∀ d ∈ t.output.dereferences, d.playerPawn.any t.before.world.pawnAlive = true

instance (t : Step Level Event Sight) : Decidable (Safe t) :=
  inferInstanceAs (Decidable (∀ d ∈ t.output.dereferences, d.playerPawn.any t.before.world.pawnAlive = true))

/-- The turret has begun play with a pawn that is alive now. -/
def Watches (early : List (Step Level Event Sight)) (i : Nat) (l : Level) : Prop :=
  ∃ u ∈ early, ∃ p, Begins u i ∧ u.before.getPawn = some p ∧ l.world.pawnAlive p = true

/-- One call of `Targeting` is safe exactly when its turret watches a live pawn. -/
theorem Remembers.safe_iff {early : List (Step Level Event Sight)} {t : Step Level Event Sight}
    (known : Remembers early t.before)
    (early_taken : ∀ u ∈ early, u.before.step u.event = some (u.after, u.output))
    (move : Transition t.before t.event t.after t.output) {i : Nat} {sighting : Sighting} {reply : Reply}
    (event : t.event = .targeting i sighting reply) : Safe t ↔ Watches early i t.before := by
  obtain ⟨l, _, sight, l'⟩ := t
  obtain rfl : _ = _ := event
  change Remembers early l at known
  change Transition l (.targeting i sighting reply) l' sight at move
  cases move with
  | @crash _ _ _ turret found armed null =>
      constructor
      · intro safe
        have bad := safe ⟨.isPlayerInRange, none⟩ (List.mem_singleton_self _)
        cases bad
      · rintro ⟨u, member, p, begins, held, alive⟩
        rw [← begins.getPawn (early_taken u member)] at held
        rcases known.cached i turret found u member begins with same | ⟨_, dead⟩
        · rw [null, held] at same
          cases same
        · cases alive.symm.trans (dead p held)
  | @targeting _ _ _ turret p _ _ _ found armed pointer first same _ _ =>
      constructor
      · intro safe
        have alive := safe _ first
        obtain ⟨u, member, begins⟩ := known.armed i turret found armed
        refine ⟨u, member, p, begins, ?_, alive⟩
        rw [← begins.getPawn (early_taken u member)]
        rcases known.cached i turret found u member begins with cached | ⟨none, _⟩
        · rw [← cached, pointer]
        · cases none.symm.trans pointer
      · rintro ⟨u, member, q, begins, held, alive⟩ d evaluated
        rw [← begins.getPawn (early_taken u member)] at held
        rcases known.cached i turret found u member begins with cached | ⟨none, _⟩
        · have target : p = q := by
            rw [pointer, held] at cached
            exact Option.some.inj cached
          rw [same d evaluated, target]
          exact alive
        · cases none.symm.trans pointer

/-- Other steps dereference no `PlayerPawn`. -/
theorem Transition.silent {l l' : Level} {event : Event} {sight : Sight} (move : Transition l event l' sight)
    (other : ∀ i sighting reply, event ≠ .targeting i sighting reply) : sight.dereferences = [] := by
  cases move with
  | world | possess | beginPlay | collectGarbage => rfl
  | crash | targeting => exact absurd rfl (other _ _ _)

/-- No evaluation of `Targeting` uses a null or destroyed pawn exactly when each call
comes after its turret began play with a pawn that is still alive at the call. -/
theorem targeting_safe_iff {start final : Level} {trace : List (Step Level Event Sight)}
    (initial : start.Initial) (run : Run Level.step start trace final) :
    (∀ t ∈ trace, Safe t) ↔
      ∀ early t late, trace = early ++ t :: late → ∀ i sighting reply,
        t.event = .targeting i sighting reply → Watches early i t.before := by
  have each : ∀ early t late, trace = early ++ t :: late → ∀ i sighting reply,
      t.event = .targeting i sighting reply → (Safe t ↔ Watches early i t.before) := by
    rintro early t late rfl i sighting reply event
    have before := run.cut.1
    exact (run_remembers initial before).safe_iff (fun u member => before.taken member)
      (step_transition (run.taken (by simp))) event
  constructor
  · intro safe early t late split i sighting reply event
    exact (each early t late split i sighting reply event).mp (safe t (by simp [split]))
  · intro watches t member
    obtain ⟨early, late, split⟩ := List.append_of_mem member
    by_cases targets : ∃ i sighting reply, t.event = .targeting i sighting reply
    · obtain ⟨i, sighting, reply, event⟩ := targets
      exact (each early t late split i sighting reply event).mpr
        (watches early t late split i sighting reply event)
    · have quiet := (step_transition (run.taken member)).silent fun i sighting reply event =>
        targets ⟨i, sighting, reply, event⟩
      intro d evaluated
      rw [quiet] at evaluated
      cases evaluated

/-- A turret and, as pawn 1, the player's tank. -/
def outpost : Level :=
  { world := { pawns := [
      { cannonClass := none, alternateCannonClass := none },
      { cannonClass := none, alternateCannonClass := none }] }
    turrets := [{ pawn := 0 }] }

theorem outpost_initial : outpost.Initial :=
  ⟨⟨rfl, rfl, rfl, by simp [outpost]⟩, by simp [outpost], rfl⟩

def sighting : Sighting := { distance := 500, lookAtRotation := ⟨0, 90, 0⟩, aimAngle := 60 }

def watch : List Event :=
  [.world (.beginPlay 1 {} {}), .possess (some 1), .beginPlay 0 {} {}, .targeting 0 sighting {}]

def outpostTrace (events : List Event) : List (Step Level Event Sight) :=
  (Foundation.perform Level.step outpost events).1

theorem watch_targets : 3 < (outpostTrace watch).length := by decide +kernel

theorem watch_event : ((outpostTrace watch).get ⟨3, watch_targets⟩).event = .targeting 0 sighting {} := by
  have given := perform_event Level.step outpost watch _ 3 (List.getElem?_eq_getElem watch_targets)
  exact (Option.some.inj given).symm

theorem targeting_safe_iff_watch :
    Watches ((outpostTrace watch).take 3) 0 ((outpostTrace watch).get ⟨3, watch_targets⟩).before :=
  (targeting_safe_iff outpost_initial (perform_run _ _ watch)).mp (by decide +kernel) _ _
    ((outpostTrace watch).drop 4) (by simp [outpostTrace]) 0 sighting {} watch_event

/-- The player dies between two ticks. -/
def ambush : List Event :=
  [.world (.beginPlay 1 {} {}), .possess (some 1), .beginPlay 0 {} {}, .targeting 0 sighting {},
    .world (.takeDamage 1 10), .targeting 0 sighting {}, .collectGarbage, .targeting 0 sighting {}]

-- The turret goes on with a pointer to a destroyed pawn, and then with null.
theorem dead_player_dereferenced :
    ¬ ∀ (start final : Level) (trace : List (Step Level Event Sight)), start.Initial →
      Run Level.step start trace final → ∀ t ∈ trace, Safe t := by
  intro claim
  have safe := claim outpost _ _ outpost_initial (perform_run _ _ ambush)
  exact absurd safe (by decide +kernel)

end TankoGeddon.Level
