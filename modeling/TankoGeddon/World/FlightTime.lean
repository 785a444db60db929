import Mathlib.Tactic.Linarith
import Mathlib.Tactic.Ring
import TankoGeddon.World.Clock

/-! A flight, in time.

What the clock does of a flight is settled when it starts: a move after each `MoveRate`
and the end after `DeactivateTime`. Where the projectile is then follows from the
headings it has taken, and no frame brings it ahead of its speed.
-/

set_option autoImplicit false

namespace TankoGeddon

open Foundation (Run Step Setting Timing Clocked Beat perform_run)

namespace FVector

def lengthSq (a : FVector) : Scalar := a.x ^ 2 + a.y ^ 2 + a.z ^ 2

def sub (a b : FVector) : FVector := ⟨a.x - b.x, a.y - b.y, a.z - b.z⟩

theorem lengthSq_scale (a : FVector) (factor : Scalar) : (a.scale factor).lengthSq = factor ^ 2 * a.lengthSq := by
  simp only [lengthSq, scale]
  ring

/-- The triangle inequality, in squares. -/
theorem lengthSq_add_le {a b : FVector} {m n : Scalar} (hm : 0 ≤ m) (hn : 0 ≤ n) (first : a.lengthSq ≤ m ^ 2)
    (second : b.lengthSq ≤ n ^ 2) : (a.add b).lengthSq ≤ (m + n) ^ 2 := by
  have lagrange : (a.x * b.x + a.y * b.y + a.z * b.z) ^ 2 ≤ a.lengthSq * b.lengthSq := by
    have gap : a.lengthSq * b.lengthSq - (a.x * b.x + a.y * b.y + a.z * b.z) ^ 2 =
        (a.x * b.y - a.y * b.x) ^ 2 + (a.x * b.z - a.z * b.x) ^ 2 + (a.y * b.z - a.z * b.y) ^ 2 := by
      simp only [lengthSq]
      ring
    have nonneg : 0 ≤ (a.x * b.y - a.y * b.x) ^ 2 + (a.x * b.z - a.z * b.x) ^ 2 + (a.y * b.z - a.z * b.y) ^ 2 := by
      positivity
    linarith
  have bound : a.lengthSq * b.lengthSq ≤ (m * n) ^ 2 := by
    rw [mul_pow]
    exact mul_le_mul first second (by simp only [lengthSq]; positivity) (sq_nonneg m)
  have inner : a.x * b.x + a.y * b.y + a.z * b.z ≤ m * n :=
    le_of_abs_le (abs_le_of_sq_le_sq (lagrange.trans bound) (mul_nonneg hm hn))
  have expand : (a.add b).lengthSq = a.lengthSq + 2 * (a.x * b.x + a.y * b.y + a.z * b.z) + b.lengthSq := by
    simp only [lengthSq, add]
    ring
  rw [expand]
  linarith [add_sq m n]

end FVector

/-- The flight has a timer to go by. -/
def Projectile.Pending (q : Projectile) : Prop := q.moveTimer.isSome = true ∨ q.deactivateTimer.isSome = true

namespace World

variable {w : World} {j : ProjectileId}

/-- The present flight of a projectile: when it began and at which pose of the muzzle, and
the forward vector of each move since. -/
structure Flight where
  since : Scalar
  origin : FVector
  facing : FRotator
  headings : List FVector

namespace Flight

def ahead (forward : FVector) (f : Flight) : Flight := { f with headings := f.headings ++ [forward] }

/-- Where the moves lead. -/
def place (f : Flight) (cls : ProjectileClass) : FVector :=
  f.headings.foldl (fun location forward => location.add ((forward.scale cls.moveSpeed).scale cls.moveRate)) f.origin

theorem place_ahead (f : Flight) (cls : ProjectileClass) (forward : FVector) :
    (f.ahead forward).place cls = (f.place cls).add ((forward.scale cls.moveSpeed).scale cls.moveRate) := by
  simp [place, ahead]

/-- No further than the moves at full speed. -/
theorem place_near (f : Flight) {cls : ProjectileClass} (rate : 0 ≤ cls.moveRate) (speed : 0 ≤ cls.moveSpeed)
    (unit : ∀ forward ∈ f.headings, forward.lengthSq ≤ 1) :
    ((f.place cls).sub f.origin).lengthSq ≤ (f.headings.length * cls.moveRate * cls.moveSpeed) ^ 2 := by
  obtain ⟨since, origin, facing, headings⟩ := f
  induction headings using List.reverseRecOn with
  | nil => simp [place, FVector.sub, FVector.lengthSq]
  | append_singleton headings forward ih =>
      have before := ih fun h member => unit h (by simp [member])
      have last : forward.lengthSq ≤ 1 := unit forward (by simp)
      have stride : ((forward.scale cls.moveSpeed).scale cls.moveRate).lengthSq ≤ (cls.moveRate * cls.moveSpeed) ^ 2 := by
        rw [FVector.lengthSq_scale, FVector.lengthSq_scale, ← mul_assoc, ← mul_pow]
        exact mul_le_of_le_one_right (sq_nonneg _) last
      have split : ((Flight.mk since origin facing (headings ++ [forward])).place cls).sub origin =
          (((Flight.mk since origin facing headings).place cls).sub origin).add
            ((forward.scale cls.moveSpeed).scale cls.moveRate) := by
        simp only [place, List.foldl_append, List.foldl_cons, List.foldl_nil, FVector.sub, FVector.add]
        congr 1 <;> ring
      have total := FVector.lengthSq_add_le (by positivity) (by positivity) before stride
      rw [split, List.length_append, List.length_singleton, Nat.cast_add, Nat.cast_one]
      calc _ ≤ (headings.length * cls.moveRate * cls.moveSpeed + cls.moveRate * cls.moveSpeed) ^ 2 := total
        _ = ((headings.length + 1) * cls.moveRate * cls.moveSpeed) ^ 2 := by ring

/-- What a step of the clock is to the flight of a projectile. A flight begins where the
engine has told the cannon that its muzzle is, whatever the projectile does with that. -/
def next (j : ProjectileId) (flight : Option Flight)
    (u : Step (Clocked World Handle Scalar) (Beat Event Scalar) (Option (Step World Event Report))) : Option Flight :=
  match u.output with
  | none => flight
  | some t =>
      match t.after.projectiles[j]? with
      | none => flight
      | some _ =>
          if started j t then t.event.reply.map fun reply => ⟨u.before.now, reply.location, reply.rotation, []⟩
          else match t.event with
          | .move i forward => if i = j then flight.map (ahead forward) else flight
          | _ => flight

end Flight

/-- The last flight of a projectile that a trace tells of. -/
def flightOf (j : ProjectileId) (trace : Timeline) : Option Flight := trace.foldl (Flight.next j) none

/-- A flight on the clock: the next move and the end are due as the start has set them. -/
structure Aloft (j : ProjectileId) (s : Clocked World Handle Scalar) (q : Projectile) (f : Flight) : Prop where
  place : q.location = f.place q.toProjectileClass
  facing : q.rotation = f.facing
  past : f.since + f.headings.length * q.moveRate ≤ s.now
  move : ∀ due ∈ s.due (.moveTimer j), due = f.since + (f.headings.length + 1) * q.moveRate
  deactivate : ∀ due ∈ s.due (.deactivateTimer j), due = f.since + q.deactivateTime

theorem flightOf_snoc (trace : Timeline)
    (u : Step (Clocked World Handle Scalar) (Beat Event Scalar) (Option (Step World Event Report))) :
    flightOf j (trace ++ [u]) = Flight.next j (flightOf j trace) u := by
  simp [flightOf]

theorem Aloft.later {s s' : Clocked World Handle Scalar} {q : Projectile} {f : Flight} (aloft : Aloft j s q f)
    (forward : s.now ≤ s'.now) (due : s'.due = s.due) : Aloft j s' q f where
  place := aloft.place
  facing := aloft.facing
  past := aloft.past.trans forward
  move := by
    rw [due]
    exact aloft.move
  deactivate := by
    rw [due]
    exact aloft.deactivate

/-- The step that starts a flight. -/
theorem Aloft.start {t : Step World Event Report} {s s' : Clocked World Handle Scalar} {q : Projectile} {reply : Reply}
    (after : t.after.projectiles[j]? = some q) (up : started j t = true)
    (pose : q.location = reply.location ∧ q.rotation = reply.rotation) (now : s'.now = s.now)
    (due : ∀ h, s'.due h = (timing.sets t h).apply s.now (s.due h)) :
    Aloft j s' q ⟨s.now, reply.location, reply.rotation, []⟩ where
  place := pose.1
  facing := pose.2
  past := by simp [now]
  move := by
    intro d pending
    rw [due, show timing.sets t (.moveTimer j) = .after q.moveRate from flightSetting_started after up,
      Setting.apply] at pending
    split at pending
    · obtain rfl := Option.some.inj pending
      simp
    · cases pending
  deactivate := by
    intro d pending
    rw [due, show timing.sets t (.deactivateTimer j) = .after q.deactivateTime from flightSetting_started after up,
      Setting.apply] at pending
    split at pending
    · obtain rfl := Option.some.inj pending
      rfl
    · cases pending

/-- A step that is not the projectile's own. -/
theorem Aloft.left {t : Step World Event Report} {s s' : Clocked World Handle Scalar} {q : Projectile} {f : Flight}
    (aloft : Aloft j s q f) (level : started j t = false) (stays : t.event.retires ≠ some j)
    (still : ∀ forward, t.event ≠ .move j forward) (now : s'.now = s.now)
    (due : ∀ h, s'.due h = (timing.sets t h).apply s.now (s.due h)) : Aloft j s' q f where
  place := aloft.place
  facing := aloft.facing
  past := aloft.past.trans now.ge
  move := by
    intro d pending
    rw [due, show timing.sets t (.moveTimer j) = .kept from flightSetting_left level stays still] at pending
    exact aloft.move d pending
  deactivate := by
    intro d pending
    rw [due, show timing.sets t (.deactivateTimer j) = .kept from flightSetting_left level stays still] at pending
    exact aloft.deactivate d pending

/-- A move, which runs when it is due and sets the next one. -/
theorem Aloft.ahead {t : Step World Event Report} {s s' : Clocked World Handle Scalar} {q : Projectile} {f : Flight}
    {forward : FVector} (aloft : Aloft j s q f) (after : t.after.projectiles[j]? = some (q.move forward))
    (level : started j t = false) (named : t.event = .move j forward) (now : s'.now = s.now)
    (expired : ∃ d ∈ s.due (.moveTimer j), d ≤ s.now)
    (due : ∀ h, s'.due h = (timing.sets t h).apply s.now (s.due h)) : Aloft j s' (q.move forward) (f.ahead forward) where
  place := by
    rw [Flight.place_ahead]
    simp only [Projectile.move, aloft.place]
  facing := aloft.facing
  past := by
    obtain ⟨d, pending, ran⟩ := expired
    rw [aloft.move d pending] at ran
    simpa [Flight.ahead, Projectile.move, now] using ran
  move := by
    intro d pending
    have again : timing.sets t (.moveTimer j) = .again (q.move forward).moveRate := flightSetting_moved after level named
    rw [due, again] at pending
    obtain ⟨first, known, rfl⟩ := Option.map_eq_some_iff.mp pending
    rw [aloft.move first known]
    simp only [Flight.ahead, Projectile.move, List.length_append, List.length_singleton, Nat.cast_add, Nat.cast_one]
    ring
  deactivate := by
    intro d pending
    rw [due, show timing.sets t (.deactivateTimer j) = .kept from flightSetting_moved after level named] at pending
    exact aloft.deactivate d pending

/-! Every flight of a run. -/

theorem Flight.next_left {flight : Option Flight}
    {u : Step (Clocked World Handle Scalar) (Beat Event Scalar) (Option (Step World Event Report))}
    {t : Step World Event Report} (shown : u.output = some t) (level : started j t = false)
    (still : ∀ forward, t.event ≠ .move j forward) : Flight.next j flight u = flight := by
  simp only [Flight.next, shown, level, Bool.false_eq_true, if_false]
  split
  · rfl
  · split
    · next i forward named =>
      rw [if_neg]
      rintro rfl
      exact still forward named
    · rfl

theorem run_aloft {s s' : Clocked World Handle Scalar} {trace : Timeline} (begins : Begins s)
    (run : Run (timing.clock World.step) s trace s') {q : Projectile} (here : s'.state.projectiles[j]? = some q)
    (pending : q.Pending) : ∃ f, flightOf j trace = some f ∧ Aloft j s' q f := by
  have law : ∀ q, s'.state.projectiles[j]? = some q → q.Pending → ∃ f, flightOf j trace = some f ∧ Aloft j s' q f := by
    refine run.growing (motive := fun trace (s : Clocked World Handle Scalar) =>
      ∀ q, s.state.projectiles[j]? = some q → q.Pending → ∃ f, flightOf j trace = some f ∧ Aloft j s q f) ?nil ?snoc
    case nil =>
      intro q here
      simp [begins.initial.projectiles] at here
    case snoc =>
      intro trace u prior taken known
      have reachable := (timing_lawful.run_agrees begins.reachable begins.agrees prior).1.1
      rw [flightOf_snoc]
      rcases Timing.clock_cases taken with
        ⟨elapsed, _, forward, _, after, shown⟩ | ⟨t, shown, _, before, next, offered, expired, now, due⟩
      · rw [after]
        intro q here pending
        obtain ⟨f, told, aloft⟩ := known q here pending
        refine ⟨f, ?_, aloft.later (le_add_of_nonneg_right forward) rfl⟩
        simp only [Flight.next, shown, told]
      rw [← before] at known reachable
      rw [← next]
      cases step_timed reachable.wired offered j with
      | absent _ after =>
          intro q here
          cases after.symm.trans here
      | stored cls _ after =>
          intro q here pending
          obtain rfl := Option.some.inj (after.symm.trans here)
          rcases pending with armed | armed <;> cases armed
      | @started q' reply after fresh up brings pose =>
          intro q here pending
          obtain rfl := Option.some.inj (after.symm.trans here)
          refine ⟨⟨u.before.now, reply.location, reply.rotation, []⟩, ?_, .start after up pose now due⟩
          simp only [Flight.next, shown, after, up, if_true, brings, Option.map_some]
      | @left q₀ there after level stays still =>
          intro q here pending
          obtain rfl := Option.some.inj (after.symm.trans here)
          obtain ⟨f, told, aloft⟩ := known q₀ there pending
          exact ⟨f, (Flight.next_left shown level still).trans told, aloft.left level stays still now due⟩
      | @moved q₀ forward there after level named armed =>
          intro q here pending
          obtain rfl := Option.some.inj (after.symm.trans here)
          obtain ⟨f, told, aloft⟩ := known q₀ there (.inl armed)
          refine ⟨f.ahead forward, ?_, aloft.ahead after level named now ?_ due⟩
          · simp [Flight.next, shown, after, level, named, told]
          · apply expired
            simp [timing, Event.expires, named]
      | @stopped q₀ there after =>
          intro q here pending
          obtain rfl := Option.some.inj (after.symm.trans here)
          rcases pending with armed | armed <;> cases armed
  exact law q here pending

/-- What the time promises of a projectile in flight: it is where its headings lead from
the muzzle, a move for each `MoveRate` that has passed, no further than its speed allows
where the headings are of unit length, and its end is not overdue by more than a frame. -/
structure OnTime (late : Scalar) (now : Scalar) (q : Projectile) (f : Flight) : Prop where
  place : q.location = f.place q.toProjectileClass
  facing : q.rotation = f.facing
  paced : f.headings.length * q.moveRate ≤ now - f.since
  moving : q.moveTimer.isSome = true → now - f.since ≤ (f.headings.length + 1) * q.moveRate + late
  lasting : q.deactivateTimer.isSome = true → now - f.since ≤ q.deactivateTime + late
  near : 0 ≤ q.moveRate → 0 ≤ q.moveSpeed → (∀ forward ∈ f.headings, forward.lengthSq ≤ 1) →
    (q.location.sub f.origin).lengthSq ≤ ((now - f.since) * q.moveSpeed) ^ 2

theorem Aloft.onTime {s : Clocked World Handle Scalar} {late : Scalar} {q : Projectile} {f : Flight}
    (aloft : Aloft j s q f) (known : Known late s) (here : s.state.projectiles[j]? = some q) :
    OnTime late s.now q f := by
  have paced : f.headings.length * q.moveRate ≤ s.now - f.since := by linarith [aloft.past]
  have due : ∀ h, timing.pending s.state h = true → ∃ d, s.due h = some d ∧ s.now ≤ d + late := by
    intro h armed
    obtain ⟨d, pending⟩ := Option.isSome_iff_exists.mp ((known.agrees h).trans armed)
    exact ⟨d, pending, known.punctual h d pending⟩
  refine ⟨aloft.place, aloft.facing, paced, ?_, ?_, ?_⟩
  · intro armed
    obtain ⟨d, pending, bound⟩ := due (.moveTimer j) (by simp [timing, here, armed])
    rw [aloft.move d pending] at bound
    linarith
  · intro armed
    obtain ⟨d, pending, bound⟩ := due (.deactivateTimer j) (by simp [timing, here, armed])
    rw [aloft.deactivate d pending] at bound
    linarith
  · intro rate speed unit
    rw [aloft.place]
    apply (f.place_near rate speed unit).trans
    apply pow_le_pow_left₀ (by positivity)
    exact mul_le_mul_of_nonneg_right paced speed

/-- In a level played in time, every flight is on time, whatever else goes on. A flight
that is ended by its timer has lasted `DeactivateTime`, and at most one frame more. -/
theorem flight_onTime {s s' : Clocked World Handle Scalar} {trace : Timeline} {late : Scalar} (begins : Begins s)
    (nonneg : 0 ≤ late) (frames : Timing.Frames late trace) (run : Run (timing.clock World.step) s trace s')
    {q : Projectile} (here : s'.state.projectiles[j]? = some q) (pending : q.Pending) :
    ∃ f, flightOf j trace = some f ∧ OnTime late s'.now q f ∧
      ∀ next shown, timing.clock World.step s' (.act (.deactivateTimer j)) = some (next, shown) →
        q.deactivateTime ≤ s'.now - f.since ∧ s'.now - f.since ≤ q.deactivateTime + late := by
  obtain ⟨f, told, aloft⟩ := run_aloft begins run here pending
  have known := (run_known begins nonneg frames run).1
  refine ⟨f, told, aloft.onTime known here, ?_⟩
  intro next shown taken
  obtain ⟨t, _, named, _, expired, _⟩ := Timing.clock_act taken
  obtain ⟨d, armed, ran⟩ := expired (.deactivateTimer j) rfl
  have bound := known.punctual _ d armed
  rw [aloft.deactivate d armed] at ran bound
  constructor <;> linarith

-- A shot, and its first move a frame later.
def opening : List (Beat Event Scalar) :=
  [.act (.beginPlay 0 {} {}), .act (.fire 0 {}), .tick (1 / 100), .act (.move 0 ⟨1, 0, 0⟩)]

def openingRun : Timeline × Clocked World Handle Scalar :=
  Foundation.perform (timing.clock World.step) ⟨skirmish, 0, fun _ => none⟩ opening

theorem openingRun_frames : Timing.Frames (1 / 100) openingRun.1 := by
  apply Timing.frames_of_beats
  intro elapsed member
  simp only [opening, List.mem_cons, Beat.tick.injEq, List.not_mem_nil, or_false, reduceCtorEq, false_or] at member
  rw [member]

theorem flight_onTime_opening :
    ∃ q f, openingRun.2.state.projectiles[0]? = some q ∧ flightOf 0 openingRun.1 = some f ∧
      f.headings = [⟨1, 0, 0⟩] ∧ q.location = ⟨1, 0, 0⟩ ∧ OnTime (1 / 100) (1 / 100) q f := by
  have now : openingRun.2.now = 1 / 100 := by decide +kernel
  have flies : openingRun.2.state.projectiles[0]?.map (fun q => (q.moveTimer.isSome, q.location)) =
      some (true, ⟨1, 0, 0⟩) := by decide +kernel
  have headed : (flightOf 0 openingRun.1).map (·.headings) = some [⟨1, 0, 0⟩] := by decide +kernel
  obtain ⟨q, here, same⟩ := Option.map_eq_some_iff.mp flies
  obtain ⟨armed, place⟩ := Prod.mk.inj same
  obtain ⟨f, told, onTime, _⟩ := flight_onTime ⟨skirmish_initial, fun _ => rfl⟩ (by norm_num) openingRun_frames
    (perform_run _ _ _) here (.inl armed)
  rw [told] at headed
  exact ⟨q, f, here, told, Option.some.inj headed, place, now ▸ onTime⟩

end World

end TankoGeddon
