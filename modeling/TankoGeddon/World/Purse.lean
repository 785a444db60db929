import TankoGeddon.World.Bounty

/-! Where the points go.

A destroyed pawn is worth its `ScoreValue` once. What the scores of a level add up to is
at most what the destroyed pawns were worth, and the difference is what the kills that no
present main cannon made were worth.
-/

set_option autoImplicit false

namespace TankoGeddon

open Foundation (Run Step sum_modify perform_run)

/-- What a pawn has been worth so far. -/
def Vitals.bounty (x : Vitals) : Scalar := if x.destroyed then x.scoreValue else 0

namespace World

variable {w w' : World} {v : PawnId}

def scores (w : World) : Scalar := (w.vitals.map (·.score)).sum

def bounties (w : World) : Scalar := (w.vitals.map Vitals.bounty).sum

/-- The step destroys a pawn. -/
structure Slays (t : Step World Event Report) (v : PawnId) (x : Vitals) : Prop where
  before : t.before.vitals[v]? = some x
  alive : x.destroyed = false
  dead : t.after.vitals[v]?.map (·.destroyed) = some true

/-- Whatever of worth the step destroys is shot by the main cannon of a live pawn. -/
def Rewarded (t : Step World Event Report) : Prop :=
  ∀ v x, Slays t v x → x.scoreValue ≠ 0 → ∃ p, t.before.pawnAlive p = true ∧ t.before.MainShot t.event p v

/-- What a step does to the two sums. -/
inductive Settles (t : Step World Event Report) : Prop where
  | even (scores : t.after.scores = t.before.scores) (bounties : t.after.bounties = t.before.bounties)
      (rewarded : Rewarded t)
  | paid (value : Scalar) (scores : t.after.scores = t.before.scores + value)
      (bounties : t.after.bounties = t.before.bounties + value) (rewarded : Rewarded t)
  | forfeited (value : Scalar) (worth : 0 ≤ value) (scores : t.after.scores = t.before.scores)
      (bounties : t.after.bounties = t.before.bounties + value) (rewarded : Rewarded t ↔ value = 0)

theorem sum_hidden (amount : Vitals → Scalar) (table : List Vitals) (i : Nat) {f : Vitals → Vitals}
    (hidden : ∀ x, amount (f x) = amount x) : ((table.modify i f).map amount).sum = (table.map amount).sum := by
  rw [Foundation.map_modify_hidden amount table i fun x _ => hidden x]

/-- A shot that pays somebody is the shot of a present main cannon. -/
theorem Pays.mainShot (wired : w.links.Wired) {event : Event} {call : DamageCall} {p : PawnId}
    (pays : w.Pays event call p) : w.pawnAlive p = true ∧ w.MainShot event p call.victim := by
  obtain ⟨j, _, named, backer, _⟩ := pays
  have alive : w.pawnAlive p = true := by
    obtain ⟨_, link, _, pawn, _, living⟩ := backer
    obtain ⟨y, there, rfl⟩ := lookup_pawn pawn
    exact pawnAlive_iff.mpr ⟨y, there, living⟩
  obtain ⟨free, c, launched, holds⟩ := (backer_iff wired alive).mp backer
  exact ⟨alive, j, c, named, free, launched, holds⟩

/-- The sum of bounties after a hit. -/
theorem bounties_hurt {x : Vitals} (found : w.vitals[v]? = some x) (damageValue : Scalar) :
    ((w.vitals.modify v (Vitals.hurt damageValue)).map Vitals.bounty).sum =
      w.bounties + ((x.hurt damageValue).bounty - x.bounty) := sum_modify Vitals.bounty w.vitals v _ found

theorem bounty_slain {x : Vitals} {damageValue : Scalar} (alive : x.destroyed = false)
    (dead : (x.hurt damageValue).destroyed = true) : (x.hurt damageValue).bounty - x.bounty = x.scoreValue := by
  rw [Vitals.bounty, Vitals.bounty, if_pos dead, alive]
  simp [Vitals.hurt]

/-- A pawn is only destroyed by a damage call that names it. -/
theorem Effect.slays {event : Event} {report : Report} {vitals : List Vitals} (effect : Effect w event report vitals)
    {x : Vitals} (before : w.vitals[v]? = some x) (alive : x.destroyed = false)
    (dead : vitals[v]?.map (·.destroyed) = some true) :
    ∃ call, report.damage = some call ∧ call.victim = v ∧ (x.hurt call.data.damageValue).destroyed = true := by
  have spared : ¬ x.destroyed = true := by simp [alive]
  have struck : ∀ call : DamageCall, report.damage = some call →
      (w.vitals.modify call.victim (Vitals.hurt call.data.damageValue))[v]?.map (·.destroyed) = some true →
        ∃ call, report.damage = some call ∧ call.victim = v ∧ (x.hurt call.data.damageValue).destroyed = true := by
    intro call shows gone
    by_cases mine : call.victim = v
    · rw [mine, List.getElem?_modify_eq, before] at gone
      exact ⟨call, shows, mine, Option.some.inj gone⟩
    · rw [List.getElem?_modify_ne _ _ mine, before] at gone
      exact absurd (Option.some.inj gone) spared
  cases effect with
  | quiet =>
      rw [before] at dead
      exact absurd (Option.some.inj dead) spared
  | @beginPlay p =>
      rw [List.getElem?_modify, before] at dead
      by_cases mine : p = v
      · simp [mine, Vitals.beginPlay, alive] at dead
      · simp [mine, alive] at dead
  | hurt shows => exact struck _ shows dead
  | @paid _ _ call p y shows =>
      apply struck call shows
      rw [List.getElem?_modify] at dead
      cases hurt : (w.vitals.modify call.victim (Vitals.hurt call.data.damageValue))[v]? with
      | none => simp [hurt] at dead
      | some z =>
          rw [hurt] at dead
          by_cases mine : p = v
          · simpa [mine, Vitals.paid] using dead
          · simpa [mine] using dead

theorem step_settles {t : Step World Event Report} (wired : t.before.links.Wired)
    (taken : t.before.step t.event = some (t.after, t.output))
    (present : ∀ v, t.event.target = some v → t.before.pawnAlive v = true)
    (worth : ∀ x ∈ t.before.vitals, 0 ≤ x.scoreValue) : Settles t := by
  have effect : Effect t.before t.event t.output t.after.vitals := step_effect wired taken
  have slain : ∀ {v x}, Slays t v x → ∃ call, t.output.damage = some call ∧ call.victim = v ∧
      (x.hurt call.data.damageValue).destroyed = true :=
    fun slays => effect.slays slays.before slays.alive slays.dead
  have total : t.after.scores = (t.after.vitals.map (·.score)).sum := rfl
  have worths : t.after.bounties = (t.after.vitals.map Vitals.bounty).sum := rfl
  have unslain : (∀ call, t.output.damage = some call → ∀ x, t.before.vitals[call.victim]? = some x →
      x.destroyed = false → (x.hurt call.data.damageValue).destroyed = false) → Rewarded t := by
    intro none v x slays
    obtain ⟨call, shows, rfl, dead⟩ := slain slays
    cases (none call shows x slays.before slays.alive).symm.trans dead
  have victim : ∀ call, t.output.damage = some call → ∀ x, t.before.vitals[call.victim]? = some x →
      t.after.vitals[call.victim]?.map (·.destroyed) = some (x.hurt call.data.damageValue).destroyed :=
    fun call shows x found => victim_after wired taken shows found
  generalize after : t.after.vitals = vitals at effect total worths
  generalize shown : t.output = output at effect
  generalize named : t.event = event at effect
  cases effect with
  | quiet silent =>
      refine .even total worths (unslain ?_)
      intro call shows
      rw [shown] at shows
      cases silent.symm.trans shows
  | @beginPlay p main alternate x found alive fresh =>
      refine .even (total.trans (sum_hidden _ _ _ fun _ => rfl)) (worths.trans (sum_hidden _ _ _ fun _ => rfl))
        (unslain ?_)
      intro call shows
      rw [shown] at shows
      cases shows
  | @hurt _ _ call shows source unpaid =>
      rw [← shown] at shows
      have kept : t.after.scores = t.before.scores := total.trans (sum_hidden _ _ _ fun _ => rfl)
      cases found : t.before.vitals[call.victim]? with
      | none =>
          rw [List.modify_eq_self (List.getElem?_eq_none_iff.mp found)] at worths
          refine .even kept worths (unslain ?_)
          intro call' shows' x there
          obtain rfl := Option.some.inj (shows.symm.trans shows')
          cases found.symm.trans there
      | some x =>
          have sum := worths.trans (bounties_hurt found call.data.damageValue)
          by_cases kill : x.destroyed = false ∧ (x.hurt call.data.damageValue).destroyed = true
          · obtain ⟨alive, dead⟩ := kill
            rw [bounty_slain alive dead] at sum
            refine .forfeited x.scoreValue (worth x (List.mem_of_getElem? found)) kept sum ?_
            constructor
            · intro rewarded
              by_contra valued
              obtain ⟨p, living, j, c, overlap, free, launched, holds⟩ :=
                rewarded call.victim x ⟨found, alive, dead ▸ victim call shows x found⟩ valued
              have backer := (backer_iff wired living).mpr ⟨free, c, launched, holds⟩
              exact unpaid p ⟨j, x, named ▸ overlap, backer, found, dead, valued⟩
            · intro free v y slays valued
              obtain ⟨call', shows', rfl, _⟩ := slain slays
              obtain rfl := Option.some.inj (shows.symm.trans shows')
              obtain rfl := Option.some.inj (found.symm.trans slays.before)
              exact absurd free valued
          · have level : (x.hurt call.data.damageValue).bounty = x.bounty := by
              cases alive : x.destroyed with
              | true => simp [Vitals.bounty, Vitals.hurt, alive]
              | false =>
                  have spared : (x.hurt call.data.damageValue).destroyed = false := by
                    simpa [alive] using kill
                  simp [Vitals.bounty, spared, alive]
            rw [level, sub_self, add_zero] at sum
            refine .even kept sum (unslain ?_)
            intro call' shows' y there alive
            obtain rfl := Option.some.inj (shows.symm.trans shows')
            obtain rfl := Option.some.inj (found.symm.trans there)
            simpa [alive] using kill
  | @paid _ _ call p x shows source pays found =>
      rw [← shown] at shows
      rw [← named] at source pays
      have other := source.pays_other wired pays
      obtain ⟨living, shot⟩ := pays.mainShot wired
      have alive : x.destroyed = false := by
        obtain ⟨y, there, up⟩ := pawnAlive_iff.mp (present _ source.target)
        have same : t.before.vitals[call.victim]? = some y.vitals := by simp [vitals, there]
        obtain rfl := Option.some.inj (found.symm.trans same)
        exact up
      have dead : (x.hurt call.data.damageValue).destroyed = true := by
        obtain ⟨_, y, _, _, found', gone, _⟩ := pays
        obtain rfl := Option.some.inj (found.symm.trans found')
        exact gone
      obtain ⟨y, there, _⟩ := pawnAlive_iff.mp living
      have backer : (t.before.vitals.modify call.victim (Vitals.hurt call.data.damageValue))[p]? = some y.vitals := by
        rw [List.getElem?_modify_ne _ _ other]
        simp [vitals, there]
      refine .paid x.scoreValue ?_ ?_ ?_
      · have kept : ((t.before.vitals.modify call.victim (Vitals.hurt call.data.damageValue)).map (·.score)).sum =
            t.before.scores := sum_hidden _ _ _ fun _ => rfl
        rw [total, sum_modify (·.score) _ p _ backer, kept]
        simp [Vitals.paid]
      · have kept : ∀ table : List Vitals, ((table.modify p (Vitals.paid x.scoreValue)).map Vitals.bounty).sum =
            (table.map Vitals.bounty).sum := fun _ => sum_hidden _ _ _ fun _ => rfl
        rw [worths, kept, bounties_hurt found, bounty_slain alive dead]
      · intro v z slays _
        obtain ⟨call', shows', rfl, _⟩ := slain slays
        obtain rfl := Option.some.inj (shows.symm.trans shows')
        exact ⟨p, living, shot⟩

theorem Settles.gap {t : Step World Event Report} (settles : Settles t) :
    t.before.bounties - t.before.scores ≤ t.after.bounties - t.after.scores ∧
      (t.after.bounties - t.after.scores = t.before.bounties - t.before.scores ↔ Rewarded t) := by
  cases settles with
  | even scores bounties rewarded =>
      rw [scores, bounties]
      exact ⟨le_rfl, iff_of_true rfl rewarded⟩
  | paid value scores bounties rewarded =>
      rw [scores, bounties, add_sub_add_right_eq_sub]
      exact ⟨le_rfl, iff_of_true rfl rewarded⟩
  | forfeited value worth scores bounties rewarded =>
      rw [scores, bounties, rewarded, add_sub_right_comm]
      exact ⟨le_add_of_nonneg_right worth, add_eq_left⟩

/-- No step changes what a pawn is worth. -/
theorem Effect.worth {event : Event} {report : Report} {vitals : List Vitals} (effect : Effect w event report vitals) :
    vitals.map (·.scoreValue) = w.vitals.map (·.scoreValue) := by
  have hidden : ∀ (table : List Vitals) (i : Nat) (f : Vitals → Vitals), (∀ x, (f x).scoreValue = x.scoreValue) →
      (table.modify i f).map (·.scoreValue) = table.map (·.scoreValue) :=
    fun table i f same => Foundation.map_modify_hidden _ table i fun x _ => same x
  cases effect with
  | quiet => rfl
  | beginPlay => exact hidden _ _ _ fun _ => rfl
  | hurt => exact hidden _ _ _ fun _ => rfl
  | paid =>
      apply Eq.trans
      · exact hidden _ _ _ fun _ => rfl
      · exact hidden _ _ _ fun _ => rfl

/-- Where hits name only live pawns, no more points are given than the destroyed pawns
were worth, and all of them are given exactly if every kill of worth was a shot of a
present main cannon that took no pool. -/
theorem purse_balanced {trace : List (Step World Event Report)} (initial : w.Initial)
    (worth : ∀ x ∈ w.pawns, 0 ≤ x.scoreValue) (run : Run World.step w trace w')
    (present : ∀ t ∈ trace, ∀ v, t.event.target = some v → t.before.pawnAlive v = true) :
    w'.scores ≤ w'.bounties ∧ (w'.scores = w'.bounties ↔ ∀ t ∈ trace, Rewarded t) := by
  have law : (∀ t ∈ trace, ∀ v, t.event.target = some v → t.before.pawnAlive v = true) →
      (∀ x ∈ w'.vitals, 0 ≤ x.scoreValue) ∧ 0 ≤ w'.bounties - w'.scores ∧
        (w'.bounties - w'.scores = 0 ↔ ∀ t ∈ trace, Rewarded t) := by
    refine run.growing (motive := fun trace (s : World) =>
      (∀ t ∈ trace, ∀ v, t.event.target = some v → t.before.pawnAlive v = true) →
        (∀ x ∈ s.vitals, 0 ≤ x.scoreValue) ∧ 0 ≤ s.bounties - s.scores ∧
          (s.bounties - s.scores = 0 ↔ ∀ t ∈ trace, Rewarded t)) ?nil ?snoc
    case nil =>
      intro _
      have unpaid : ∀ x ∈ w.vitals, x.score = 0 ∧ x.bounty = 0 ∧ 0 ≤ x.scoreValue := by
        intro x member
        obtain ⟨y, inside, rfl⟩ := List.mem_map.mp member
        obtain ⟨_, _, score, _, alive⟩ := initial.pawns y inside
        refine ⟨score, ?_, worth y inside⟩
        simp [Vitals.bounty, MachinePawn.vitals, alive]
      have scores : w.scores = 0 := List.sum_eq_zero (by simpa using fun x member => (unpaid x member).1)
      have bounties : w.bounties = 0 := List.sum_eq_zero (by simpa using fun x member => (unpaid x member).2.1)
      rw [scores, bounties]
      exact ⟨fun x member => (unpaid x member).2.2, by simp, by simp⟩
    case snoc =>
      intro trace t early taken ih each
      obtain ⟨worths, nonneg, balanced⟩ := ih fun u member => each u (List.mem_append_left _ member)
      have wired := (run_wired initial early).1
      obtain ⟨grows, level⟩ := (step_settles wired taken (each t (by simp)) worths).gap
      have effect : Effect t.before t.event t.output t.after.vitals := step_effect wired taken
      refine ⟨?_, nonneg.trans grows, ?_⟩
      · intro x member
        have inside : x.scoreValue ∈ t.before.vitals.map (·.scoreValue) := by
          rw [← effect.worth]
          exact List.mem_map_of_mem member
        obtain ⟨y, there, same⟩ := List.mem_map.mp inside
        rw [← same]
        exact worths y there
      · rw [List.forall_mem_append, List.forall_mem_singleton, ← balanced, ← level]
        constructor
        · intro closed
          have zero : t.before.bounties - t.before.scores = 0 := le_antisymm (closed ▸ grows) nonneg
          exact ⟨zero, closed.trans zero.symm⟩
        · rintro ⟨zero, same⟩
          exact same.trans zero
  obtain ⟨_, nonneg, balanced⟩ := law present
  refine ⟨sub_nonneg.mp nonneg, ?_⟩
  rw [← balanced, sub_eq_zero, eq_comm]

theorem purse_balanced_duel :
    (Foundation.perform World.step (duel none) shootOut).2.scores = 50 ∧
      (Foundation.perform World.step (duel none) shootOut).2.scores ≤
        (Foundation.perform World.step (duel none) shootOut).2.bounties := by
  have present : ∀ t ∈ (Foundation.perform World.step (duel none) shootOut).1, ∀ v, t.event.target = some v →
      t.before.pawnAlive v = true := by
    decide +kernel
  refine ⟨by decide +kernel, (purse_balanced (duel_initial none) (by decide) (perform_run _ _ _) present).1⟩

end World

end TankoGeddon
