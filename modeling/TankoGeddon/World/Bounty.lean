import TankoGeddon.World.Credit

/-! Credit is sound and given at most once.

The kill is read off after the damage call, from `IsActorBeingDestroyed`. What ties
it to the damage is the tally: of a pawn that has begun play and is not destroyed,
the health lost is the damage received, and that is less than the full health.
-/

set_option autoImplicit false

namespace TankoGeddon

open Foundation (Run Step perform_run)

namespace World

/-- The pawn a begin-overlap, a trace hit or other damage names. -/
def Event.target : Event → Option PawnId
  | .meshOverlapBegin _ (.pawn v) | .takeDamage v _ => some v
  | .fire _ reply | .alternateFire _ reply | .burstFireTimer _ reply =>
      match reply.traceHit with
      | some (.pawn v) => some v
      | _ => none
  | _ => none

/-- The pawn has begun play and is not destroyed. -/
def inPlay (w : World) (v : PawnId) : Bool :=
  w.pawns[v]?.any fun x => x.bActorHasBegunPlay && !x.bActorIsBeingDestroyed

/-- Damage one step deals to a pawn. -/
def dealt (v : PawnId) (t : Step World Event Report) : Scalar :=
  match t.output.damage with
  | some call => if call.victim = v then call.data.damageValue else 0
  | none => 0

def received (trace : List (Step World Event Report)) (v : PawnId) : Scalar := (trace.map (dealt v)).sum

@[simp] theorem received_snoc (trace : List (Step World Event Report)) (t : Step World Event Report)
    (v : PawnId) : received (trace ++ [t]) v = received trace v + dealt v t := by
  simp [received]

theorem Source.target {w : World} {event : Event} {call : DamageCall} (source : w.Source event call) :
    event.target = some call.victim := by
  cases source with
  | projectile => rfl
  | unarmed => rfl
  | trace reads hit =>
      cases event with
      | fire | alternateFire | burstFireTimer =>
          obtain rfl := Option.some.inj reads
          simp only [Event.target, hit]
      | _ => cases reads

/-- The account of one pawn after damage `total` in all. -/
structure Tally (total : Scalar) (x : Vitals) : Prop where
  positive : 0 < x.maxHealth
  fresh : x.begun = false → total = 0
  alive : x.begun = true → x.destroyed = false →
    x.currentHealth = x.maxHealth - total ∧ total < x.maxHealth

theorem Tally.beginPlay {total : Scalar} {x : Vitals} (tally : Tally total x) (fresh : x.begun = false) :
    Tally total x.beginPlay where
  positive := tally.positive
  fresh begun := by cases begun
  alive _ _ := by
    have zero := tally.fresh fresh
    refine ⟨?_, ?_⟩
    · simp [Vitals.beginPlay, zero]
    · rw [zero]
      exact tally.positive

theorem Tally.hurt {total : Scalar} {x : Vitals} (tally : Tally total x) (begun : x.begun = true)
    (damageValue : Scalar) : Tally (total + damageValue) (x.hurt damageValue) where
  positive := tally.positive
  fresh unbegun := by cases begun.symm.trans unbegun
  alive _ spared := by
    obtain ⟨before, left⟩ : x.destroyed = false ∧ 0 < x.currentHealth - damageValue := by
      simpa [Vitals.hurt] using spared
    obtain ⟨health, _⟩ := tally.alive begun before
    rw [health, sub_sub, sub_pos] at left
    refine ⟨?_, left⟩
    simp only [Vitals.hurt, health, sub_sub]

/-- Damage a step deals, read off its report. -/
theorem dealt_of_report {t : Step World Event Report} {call : DamageCall}
    (shows : t.output.damage = some call) (v : PawnId) :
    dealt v t = if call.victim = v then call.data.damageValue else 0 := by
  rw [dealt, shows]

theorem dealt_silent {t : Step World Event Report} (silent : t.output.damage = none) (v : PawnId) :
    dealt v t = 0 := by
  rw [dealt, silent]

theorem inPlay_vitals {w : World} {v : PawnId} {x : Vitals} (found : w.vitals[v]? = some x) :
    w.inPlay v = true ↔ x.begun = true ∧ x.destroyed = false := by
  obtain ⟨x₀, here, rfl⟩ : ∃ x₀, w.pawns[v]? = some x₀ ∧ x₀.vitals = x := by simpa [vitals] using found
  simp [inPlay, here, MachinePawn.vitals]

/-- A hurt pawn, as the table of vitals after the hit shows it. -/
theorem tally_hurt {w : World} {v i : PawnId} {damageValue total : Scalar} {x' : Vitals}
    (tally : ∀ x, w.vitals[i]? = some x → Tally total x)
    (begun : ∀ x, w.vitals[v]? = some x → x.begun = true)
    (found : (w.vitals.modify v (Vitals.hurt damageValue))[i]? = some x') :
    Tally (total + if v = i then damageValue else 0) x' := by
  by_cases same : v = i
  · subst same
    rw [List.getElem?_modify_eq] at found
    obtain ⟨x, before, rfl⟩ := Option.map_eq_some_iff.mp found
    rw [if_pos rfl]
    exact (tally x before).hurt (begun x before) damageValue
  · rw [List.getElem?_modify_ne _ _ same] at found
    rw [if_neg same, add_zero]
    exact tally x' found

theorem Tally.paid {total value : Scalar} {x : Vitals} (tally : Tally total x) :
    Tally total (x.paid value) :=
  ⟨tally.positive, tally.fresh, tally.alive⟩

theorem tally_step {t : Step World Event Report} {i : PawnId} {total : Scalar}
    (wired : t.before.links.Wired) (taken : t.before.step t.event = some (t.after, t.output))
    (present : ∀ v, t.event.target = some v → t.before.inPlay v = true)
    (tally : ∀ x, t.before.vitals[i]? = some x → Tally total x) :
    ∀ x, t.after.vitals[i]? = some x → Tally (total + dealt i t) x := by
  intro x' after
  have effect := step_effect wired taken
  generalize t.after.vitals = vitals at effect after
  obtain ⟨before, event, output, later⟩ := t
  have begun : ∀ call, before.Source event call → ∀ x, before.vitals[call.victim]? = some x → x.begun = true :=
    fun call source x found => ((inPlay_vitals found).mp (present _ source.target)).1
  cases effect with
  | quiet silent =>
      rw [dealt_silent silent, add_zero]
      exact tally x' after
  | @beginPlay p _ _ x found alive fresh =>
      rw [dealt_silent rfl, add_zero]
      by_cases same : p = i
      · subst same
        rw [List.getElem?_modify_eq, found] at after
        obtain rfl := Option.some.inj after
        exact (tally x found).beginPlay fresh
      · rw [List.getElem?_modify_ne _ _ same] at after
        exact tally x' after
  | hurt shows source =>
      rw [dealt_of_report shows]
      exact tally_hurt tally (begun _ source) after
  | @paid _ _ call p _ shows source =>
      rw [dealt_of_report shows]
      by_cases same : p = i
      · subst same
        rw [List.getElem?_modify_eq] at after
        obtain ⟨x, hurt, rfl⟩ := Option.map_eq_some_iff.mp after
        exact (tally_hurt tally (begun _ source) hurt).paid
      · rw [List.getElem?_modify_ne _ _ same] at after
        exact tally_hurt tally (begun _ source) after

/-- The tally of every pawn along a run that names only pawns in play. -/
theorem run_tally {w w' : World} {trace : List (Step World Event Report)} (initial : w.Initial)
    (health : ∀ x ∈ w.pawns, 0 < x.healthComponent.maxHealth) (run : Run World.step w trace w')
    (present : ∀ t ∈ trace, ∀ v, t.event.target = some v → t.before.inPlay v = true) :
    ∀ v x, w'.vitals[v]? = some x → Tally (received trace v) x := by
  have law : (∀ t ∈ trace, ∀ v, t.event.target = some v → t.before.inPlay v = true) →
      ∀ v x, w'.vitals[v]? = some x → Tally (received trace v) x := by
    refine run.growing (motive := fun trace w' =>
      (∀ t ∈ trace, ∀ v, t.event.target = some v → t.before.inPlay v = true) →
        ∀ v x, w'.vitals[v]? = some x → Tally (received trace v) x) ?_ ?_
    · intro _ v x found
      obtain ⟨x₀, here, rfl⟩ : ∃ x₀, w.pawns[v]? = some x₀ ∧ x₀.vitals = x := by
        simpa [vitals] using found
      have member := List.mem_of_getElem? here
      have unbegun := (initial.pawns x₀ member).2.2.2.1
      exact ⟨health x₀ member, fun _ => rfl, fun begun => by cases unbegun.symm.trans begun⟩
    · intro trace t early taken ih present v x found
      have wired := (run_wired initial early).1
      rw [received_snoc]
      refine tally_step wired taken (present t (by simp)) ?_ x found
      exact ih (fun u member => present u (List.mem_append_left _ member)) v
  exact law present

/-- A step that names `v` changes the score of `p`. -/
def Contributes (t : Step World Event Report) (v p : PawnId) : Prop :=
  t.event.target = some v ∧ t.after.scoreOf p ≠ t.before.scoreOf p

/-- Every change of a score is earned, and no pawn is worth points twice. -/
structure CreditSound (trace : List (Step World Event Report)) : Prop where
  earned : ∀ early t late, trace = early ++ t :: late →
    ∀ p, t.after.scoreOf p ≠ t.before.scoreOf p →
      ∃ v x, t.before.MainShot t.event p v ∧ v ≠ p ∧ t.before.pawns[v]? = some x ∧
        received early v < x.healthComponent.maxHealth ∧
        x.healthComponent.maxHealth ≤ received (early ++ [t]) v ∧
        t.after.scoreOf p = t.before.scoreOf p + x.scoreValue
  single : ∀ t ∈ trace, ∀ v p p', Contributes t v p → Contributes t v p' → p = p'
  once : ∀ early t middle u late, trace = early ++ t :: middle ++ u :: late →
    ∀ v p p', Contributes t v p → ¬ Contributes u v p'
  spared : ∀ t ∈ trace, ∀ v, t.event.target = some v → t.after.pawnAlive v = true →
    ∀ p, t.after.scoreOf p = t.before.scoreOf p

theorem Source.pays_other {w : World} {event : Event} {call : DamageCall} {p : PawnId}
    (source : w.Source event call) (wired : w.links.Wired) (pays : w.Pays event call p) :
    call.victim ≠ p := by
  obtain ⟨v, data⟩ := call
  obtain ⟨j, x, rfl, backer, _⟩ := pays
  cases source with
  | projectile found there clear => exact (backer_ne wired found clear backer).symm
  | trace reads => cases reads

/-- All that is known of a step that changes the score of `p`. -/
theorem contributes_cases {t : Step World Event Report} {v p : PawnId} (wired : t.before.links.Wired)
    (taken : t.before.step t.event = some (t.after, t.output)) (contributes : Contributes t v p) :
    ∃ call x, t.output.damage = some call ∧ call.victim = v ∧ v ≠ p ∧ t.before.Pays t.event call p ∧
      t.before.vitals[v]? = some x ∧ (x.hurt call.data.damageValue).destroyed = true ∧
      t.after.scoreOf p = t.before.scoreOf p + x.scoreValue := by
  obtain ⟨names, changed⟩ := contributes
  rcases score_change wired taken p with ⟨call, x, shows, source, pays, found, credit⟩ | ⟨_, same⟩
  · have victim : call.victim = v := Option.some.inj (source.target.symm.trans names)
    have other := source.pays_other wired pays
    have paid := pays
    obtain ⟨_, x', _, _, found', dead, _⟩ := paid
    obtain rfl : x = x' := Option.some.inj (found.symm.trans found')
    subst victim
    exact ⟨call, x, shows, rfl, other, pays, found, dead, credit⟩
  · exact absurd same changed

theorem contributes_dead {t : Step World Event Report} {v p : PawnId} (wired : t.before.links.Wired)
    (taken : t.before.step t.event = some (t.after, t.output)) (contributes : Contributes t v p) :
    t.after.inPlay v = false ∧ t.after.pawnAlive v = false := by
  obtain ⟨call, x, shows, rfl, _, _, found, dead, _⟩ := contributes_cases wired taken contributes
  obtain ⟨x', after, gone⟩ := Option.map_eq_some_iff.mp (victim_after wired taken shows found)
  obtain ⟨x₀, here, rfl⟩ : ∃ x₀, t.after.pawns[call.victim]? = some x₀ ∧ x₀.vitals = x' := by
    simpa [vitals] using after
  have destroyed : x₀.bActorIsBeingDestroyed = true := gone.trans dead
  simp [inPlay, pawnAlive, here, destroyed]

theorem run_stays_dead {w w' : World} {trace : List (Step World Event Report)} (wired : w.links.Wired)
    (run : Run World.step w trace w') {v : PawnId} (dead : w.pawnAlive v = false) :
    w'.pawnAlive v = false :=
  (run.invariant (fun w => w.links.Wired ∧ w.pawnAlive v = false) ⟨wired, dead⟩
    fun _ _ taken ⟨wired, dead⟩ =>
      ⟨wired.moves (step_moves wired taken), stays_dead wired taken dead⟩).1.2

theorem alive_of_inPlay {w : World} {v : PawnId} (present : w.inPlay v = true) : w.pawnAlive v = true := by
  obtain ⟨x, here, known⟩ := (Option.any_eq_true _ _).mp present
  exact pawnAlive_iff.mpr ⟨x, here, by simpa using (Bool.and_eq_true_iff.mp known).2⟩

/-- In every run in which what is hit has begun play and is not destroyed, scores
are changed by kills of the present main cannon alone, by the worth of the victim,
at the moment its total damage reaches its full health, and once for each victim. -/
theorem credit_sound {w w' : World} {trace : List (Step World Event Report)} (initial : w.Initial)
    (health : ∀ x ∈ w.pawns, 0 < x.healthComponent.maxHealth) (run : Run World.step w trace w')
    (present : ∀ t ∈ trace, ∀ v, t.event.target = some v → t.before.inPlay v = true) :
    CreditSound trace := by
  have wired := fun t member => ((run_wired initial run).2 t member).1
  constructor
  case earned =>
    rintro early t late rfl p changed
    have member : t ∈ early ++ t :: late := by simp
    have taken := run.taken member
    obtain ⟨v, names⟩ : ∃ v, t.event.target = some v := by
      rcases score_change (wired t member) taken p with ⟨call, _, _, source, _⟩ | ⟨_, same⟩
      · exact ⟨call.victim, source.target⟩
      · exact absurd same changed
    obtain ⟨call, x, shows, rfl, other, pays, found, dead, credit⟩ :=
      contributes_cases (wired t member) taken ⟨names, changed⟩
    obtain ⟨j, _, event, backer, _⟩ := pays
    obtain ⟨x₀, here, rfl⟩ : ∃ x₀, t.before.pawns[call.victim]? = some x₀ ∧ x₀.vitals = x := by
      simpa [vitals] using found
    have alive : t.before.pawnAlive p = true := by
      obtain ⟨_, link, _, pawn, _, living⟩ := backer
      obtain ⟨y, there, rfl⟩ := lookup_pawn pawn
      exact pawnAlive_iff.mpr ⟨y, there, living⟩
    obtain ⟨free, c, launched, main⟩ := (backer_iff (wired t member) alive).mp backer
    have tally := run_tally initial health run.cut.1
      (fun u inside => present u (List.mem_append_left _ inside)) call.victim x₀.vitals found
    obtain ⟨begun, living⟩ := (inPlay_vitals found).mp (present t member _ names)
    obtain ⟨left, below⟩ := tally.alive begun living
    refine ⟨call.victim, x₀, ⟨j, c, event, free, launched, main⟩, other, here, below, ?_, credit⟩
    have spent : x₀.vitals.currentHealth - call.data.damageValue ≤ 0 := by
      simpa [Vitals.hurt, living] using dead
    rw [left, sub_sub, sub_nonpos] at spent
    rw [received_snoc, dealt_of_report shows, if_pos rfl]
    exact spent
  case single =>
    intro t member v p p' first second
    have taken := run.taken member
    obtain ⟨call, _, shows, _, _, ⟨j, _, event, backer, _⟩, _⟩ :=
      contributes_cases (wired t member) taken first
    obtain ⟨call', _, shows', _, _, ⟨j', _, event', backer', _⟩, _⟩ :=
      contributes_cases (wired t member) taken second
    obtain ⟨rfl, _⟩ : j = j' ∧ _ := World.Event.meshOverlapBegin.inj (event.symm.trans event')
    exact (wired t member).backer_unique backer backer'
  case once =>
    rintro early t middle u late rfl v p p' first second
    have tMember : t ∈ early ++ t :: middle ++ u :: late := by simp
    have uMember : u ∈ early ++ t :: middle ++ u :: late := by simp
    have between : Run World.step t.after middle u.before := by
      rw [List.append_assoc, List.cons_append] at run
      exact run.cut.2.cut.1
    have gone := (contributes_dead (wired t tMember) (run.taken tMember) first).2
    have after := (run_wired initial run).2 t tMember
    have dead := run_stays_dead after.2 between gone
    have alive := alive_of_inPlay (present u uMember v second.1)
    cases dead.symm.trans alive
  case spared =>
    intro t member v names alive p
    by_contra changed
    have dead := (contributes_dead (wired t member) (run.taken member) ⟨names, changed⟩).2
    cases dead.symm.trans alive

-- The duel: both pawns have begun play when the projectile hits.
theorem credit_sound_duel : CreditSound (duelTrace none) := by
  have present : ∀ t ∈ duelTrace none, ∀ v ∈ t.event.target, t.before.inPlay v = true := by decide +kernel
  exact credit_sound (duel_initial none) (by decide +kernel) (perform_run _ _ shootOut) present

end World

end TankoGeddon
