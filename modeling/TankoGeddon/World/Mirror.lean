import TankoGeddon.Foundation.Lockstep
import TankoGeddon.Cannon.Ammo
import TankoGeddon.Cannon.Mirror
import TankoGeddon.World.Vitals

/-! The mirror image of a cannon in its level.

Launches, traces and damage do not read what `swap` exchanges, so a mirrored call
asks the same of the level and leaves the mirrored level.
-/

set_option autoImplicit false

namespace TankoGeddon

open Foundation (Run Step map_modify_hidden modify_congr perform_run)

namespace World

/-! The cannons after a call has been carried out. -/

theorem die_cannons (w : World) (p : PawnId) :
    ∃ c f, (w.die p).cannons = w.cannons.modify c f ∧ (f = id ∨ f = Cannon.destroy) := by
  unfold die
  split
  · next c _ => exact ⟨c, _, rfl, .inr rfl⟩
  · exact ⟨0, id, (List.modify_id _ _).symm, .inl rfl⟩

/-- Damage leaves the cannons, or destroys one. -/
theorem takeDamage_cannons (w : World) (p : PawnId) (damageData : FDamageData) :
    ∃ c f, (w.takeDamage p damageData).cannons = w.cannons.modify c f ∧ (f = id ∨ f = Cannon.destroy) := by
  unfold takeDamage
  cases w.pawns[p]? with
  | none => exact ⟨0, id, (List.modify_id _ _).symm, .inl rfl⟩
  | some x =>
      simp only []
      split
      · split
        · exact ⟨0, id, (List.modify_id _ _).symm, .inl rfl⟩
        · exact die_cannons _ p
      · exact ⟨0, id, (List.modify_id _ _).symm, .inl rfl⟩

theorem perform_cannons (w : World) (c : CannonId) (outcome : Outcome) (reply : Reply) :
    ∃ c' f, (w.perform c outcome reply).1.cannons = w.cannons.modify c' f ∧
      (f = id ∨ f = Cannon.destroy) := by
  have same : ∃ c' f, w.cannons = w.cannons.modify c' f ∧ (f = id ∨ f = Cannon.destroy) :=
    ⟨0, id, (List.modify_id _ _).symm, .inl rfl⟩
  by_cases traced : outcome = .traced
  · subst traced
    rcases lineTrace_cases w c reply.traceHit with missed | ⟨y, v, _, _, _, _, dealt⟩
    · rw [perform, missed]
      exact same
    · rw [perform, dealt]
      exact takeDamage_cannons w v _
  · rw [(perform_frame w c reply traced).2.1]
    exact same

/-- What destruction keeps of a cannon is kept by a call. -/
theorem perform_view {B : Type} (view : Cannon → B) (kept : ∀ y, view y.destroy = view y) (w : World)
    (c : CannonId) (outcome : Outcome) (reply : Reply) :
    (w.perform c outcome reply).1.cannons.map view = w.cannons.map view := by
  obtain ⟨c', f, cannons, how⟩ := perform_cannons w c outcome reply
  rw [cannons]
  apply map_modify_hidden
  rintro y _
  rcases how with rfl | rfl
  · rfl
  · exact kept y

/-! The mirrored level. -/

def swapCannon (w : World) (c : CannonId) : World := w.updateCannon c Cannon.swap

@[simp] theorem swapCannon_pawns (w : World) (c : CannonId) : (w.swapCannon c).pawns = w.pawns := rfl

@[simp] theorem swapCannon_projectiles (w : World) (c : CannonId) :
    (w.swapCannon c).projectiles = w.projectiles := rfl

@[simp] theorem swapCannon_pools (w : World) (c : CannonId) : (w.swapCannon c).pools = w.pools := rfl

/-- A field that `swap` keeps reads the same from the mirrored level. -/
theorem swapCannon_read {B : Type} (view : Cannon → Option B) (kept : ∀ y, view y.swap = view y)
    (w : World) (c i : CannonId) : (w.swapCannon c).cannons[i]?.bind view = w.cannons[i]?.bind view := by
  simp only [swapCannon, updateCannon, List.getElem?_modify]
  cases w.cannons[i]? with
  | none => rfl
  | some y =>
      by_cases here : c = i
      · simp [here, kept]
      · simp [here]

theorem swap_getOwner (w : World) (c : CannonId) (actor : Actor) :
    (w.swapCannon c).getOwner actor = w.getOwner actor := by
  cases actor with
  | cannon i => exact swapCannon_read (·.owner) (fun _ => rfl) w c i
  | _ => rfl

theorem swap_excludes (w : World) (c : CannonId) (owner : Option Actor) (other : Actor) :
    (w.swapCannon c).excludes owner other = w.excludes owner other := by
  have same : (w.swapCannon c).getOwner = w.getOwner := funext (swap_getOwner w c)
  simp only [excludes, same]

theorem swap_destroyCannon (w : World) (c i : CannonId) :
    (w.swapCannon c).destroyCannon i = (w.destroyCannon i).swapCannon c := by
  unfold swapCannon destroyCannon updateCannon
  by_cases same : c = i
  · subst same
    simp only [List.modify_modify_eq]
    rfl
  · simp only [List.modify_modify_ne _ _ _ same]

theorem swap_die (w : World) (c : CannonId) (p : PawnId) : (w.swapCannon c).die p = (w.die p).swapCannon c := by
  simp only [die, swapCannon_pawns]
  split
  · rw [swap_destroyCannon]
    rfl
  · rfl

theorem swap_takeDamage (w : World) (c : CannonId) (p : PawnId) (damageData : FDamageData) :
    (w.swapCannon c).takeDamage p damageData = (w.takeDamage p damageData).swapCannon c := by
  simp only [takeDamage, swapCannon_pawns]
  cases w.pawns[p]? with
  | none => rfl
  | some x =>
      simp only []
      split
      · split
        · rfl
        · exact swap_die (w.updatePawn p fun x' => { x' with
            healthComponent := (x.healthComponent.takeDamage damageData).1 }) c p
      · rfl

theorem swap_dealDamage (w : World) (c : CannonId) (other : Actor) (damageData : FDamageData) :
    (w.swapCannon c).dealDamage other damageData =
      ((w.dealDamage other damageData).1.swapCannon c, (w.dealDamage other damageData).2) := by
  unfold dealDamage
  split
  · simp only [swapCannon_pawns, swap_takeDamage]
    split <;> rfl
  · rfl

theorem swap_lineTrace (w : World) (c : CannonId) (hit : Option Actor) :
    (w.swapCannon c).lineTrace c hit = ((w.lineTrace c hit).1.swapCannon c, (w.lineTrace c hit).2) := by
  have there : (w.swapCannon c).cannons[c]? = w.cannons[c]?.map Cannon.swap := by
    simp [swapCannon, updateCannon]
  unfold lineTrace
  rw [there]
  cases w.cannons[c]? with
  | none => rfl
  | some y =>
      cases hit with
      | none => rfl
      | some other =>
          have owner : y.swap.owner = y.owner := rfl
          have damage : y.swap.traceDamage = y.traceDamage := rfl
          simp only [Option.map_some, owner, damage, swap_excludes, swap_dealDamage]
          split <;> rfl

theorem swap_launchSpawned (w : World) (c : CannonId) (reply : Reply) :
    (w.swapCannon c).launchSpawned c reply = (w.launchSpawned c reply).swapCannon c := by
  have read := swapCannon_read (·.projectileClass) (fun _ => rfl) w c c
  simp only [launchSpawned, read]
  split <;> rfl

theorem swap_launchPooled (w : World) (c : CannonId) (reply : Reply) :
    (w.swapCannon c).launchPooled c reply = (w.launchPooled c reply).swapCannon c := by
  have read := swapCannon_read (·.projectilePool) (fun _ => rfl) w c c
  simp only [launchPooled, read, swapCannon_pools]
  split
  · rfl
  · split <;> rfl

theorem swap_perform (w : World) (c : CannonId) (outcome : Outcome) (reply : Reply) :
    (w.swapCannon c).perform c outcome.swap reply =
      ((w.perform c outcome reply).1.swapCannon c, (w.perform c outcome reply).2) := by
  cases outcome with
  | spawned | burstShot => simp only [Outcome.swap, perform, swap_launchSpawned]
  | pooled => simp only [Outcome.swap, perform, swap_launchPooled]
  | traced => exact swap_lineTrace w c reply.traceHit
  | refused | burstCompleted | reloaded | resupplied => rfl

/-! Calls and runs. -/

theorem cannonEvent_swap {w : World} {c : CannonId} {y : Cannon} {event : Cannon.Event} {reply : Reply}
    (here : w.cannons[c]? = some y) (main : event ≠ .alternateFire) (regular : event = .fire → ¬ y.Slips) :
    (w.swapCannon c).cannonEvent c event.swap reply =
      (w.cannonEvent c event reply).map fun result => (result.1.swapCannon c, result.2) := by
  have there : (w.swapCannon c).cannons[c]? = some y.swap := by simp [swapCannon, updateCannon, here]
  simp only [cannonEvent, here, there, Cannon.step_swap main regular]
  cases y.step event with
  | none => rfl
  | some next =>
      have updated : (w.swapCannon c).updateCannon c (fun _ => next.1.swap) =
          (w.updateCannon c fun _ => next.1).swapCannon c := by
        simp only [swapCannon, updateCannon, List.modify_modify_eq]
        rfl
      simp only [Option.map_some, updated, swap_perform]

/-- What destruction keeps of the called cannon is as its own step left it. -/
theorem cannonEvent_view {B : Type} (view : Cannon → B) (kept : ∀ y, view y.destroy = view y) {w : World}
    {c : CannonId} {y : Cannon} {event : Cannon.Event} {reply : Reply} {next : Cannon × Outcome}
    {result : World × Report} (here : w.cannons[c]? = some y) (acted : y.step event = some next)
    (taken : w.cannonEvent c event reply = some result) :
    result.1.cannons[c]?.map view = some (view next.1) := by
  simp only [cannonEvent, here, acted, Option.some.injEq] at taken
  subst taken
  rw [← List.getElem?_map, perform_view view kept]
  simp [updateCannon, here]

theorem cannonEvent_mirrored_iff {w : World} {c : CannonId} {y : Cannon} (here : w.cannons[c]? = some y)
    (reply : Reply) :
    (w.swapCannon c).cannonEvent c .alternateFire reply =
        (w.cannonEvent c .fire reply).map (fun result => (result.1.swapCannon c, result.2)) ↔
      ¬ y.Slips := by
  constructor
  · intro mirrored slips
    obtain ⟨opened, shut⟩ := Cannon.alternateFire_slips slips
    have there : (w.swapCannon c).cannons[c]? = some y.swap := by simp [swapCannon, updateCannon, here]
    obtain ⟨result, taken⟩ : ∃ result, w.cannonEvent c .fire reply = some result := by
      simp [cannonEvent, here, Cannon.step]
    rw [taken, Option.map_some] at mirrored
    have alternate := cannonEvent_view (·.bAlternateCanFire) (fun _ => rfl) there rfl mirrored
    have main := cannonEvent_view (·.bMainCanFire) (fun _ => rfl) here rfl taken
    have exchanged : (result.1.swapCannon c).cannons[c]?.map (·.bAlternateCanFire) =
        result.1.cannons[c]?.map (·.bMainCanFire) := by
      simp only [swapCannon, updateCannon, List.getElem?_modify_eq]
      cases result.1.cannons[c]? <;> rfl
    rw [exchanged, main, opened] at alternate
    rw [Option.some.inj alternate] at shut
    cases shut
  · intro regular
    have main : Cannon.Event.fire ≠ .alternateFire := by simp
    exact cannonEvent_swap here main fun _ => regular

/-- One cannon of a level driven by its own events. -/
def drive (c : CannonId) (w : World) (event : Cannon.Event × Reply) : Option (World × Report) :=
  w.cannonEvent c event.1 event.2

/-- The same moments, the other trigger. -/
def mirrorStep (c : CannonId) : Step World (Cannon.Event × Reply) Report →
    Step World (Cannon.Event × Reply) Report :=
  Step.map (·.swapCannon c) (fun event => (event.1.swap, event.2)) id

theorem drive_mirrored_iff {w w' : World} {c : CannonId} {event : Cannon.Event × Reply} {report : Report}
    (taken : w.drive c event = some (w', report)) (main : event.1 ≠ .alternateFire) :
    (w.swapCannon c).drive c (event.1.swap, event.2) = some (w'.swapCannon c, report) ↔
      (event.1 = .fire → ∀ y, w.cannons[c]? = some y → ¬ y.Slips) := by
  obtain ⟨y, next, here, _, _⟩ := cannonEvent_cases taken
  have known : w.cannonEvent c event.1 event.2 = some (w', report) := taken
  constructor
  · intro mirrored pressed y' here'
    apply (cannonEvent_mirrored_iff here' event.2).mp
    rw [← pressed, known]
    simpa [drive, pressed, Cannon.Event.swap] using mirrored
  · intro regular
    have mirrored : (w.swapCannon c).cannonEvent c event.1.swap event.2 = _ :=
      cannonEvent_swap here main fun pressed => regular pressed y here
    rwa [known] at mirrored

/-- `AlternateFire` mirrors `Fire`, call by call and run by run, except where a
`FireSPProjectile` or `FireTrace` shot leaves the barrel. -/
theorem alternateFire_mirrors_iff (c : CannonId) :
    (∀ (w : World) (y : Cannon) (reply : Reply), w.cannons[c]? = some y →
      ((w.swapCannon c).cannonEvent c .alternateFire reply =
          (w.cannonEvent c .fire reply).map (fun result => (result.1.swapCannon c, result.2)) ↔
        ¬ y.Slips)) ∧
    ∀ (w w' : World) (trace : List (Step World (Cannon.Event × Reply) Report)), Run (drive c) w trace w' →
      (∀ t ∈ trace, t.event.1 ≠ .alternateFire) →
      (Run (drive c) (w.swapCannon c) (trace.map (mirrorStep c)) (w'.swapCannon c) ↔
        ∀ t ∈ trace, t.event.1 = .fire → ∀ y, t.before.cannons[c]? = some y → ¬ y.Slips) := by
  refine ⟨fun w y reply here => cannonEvent_mirrored_iff here reply, ?_⟩
  intro w w' trace run main
  refine (run.image_iff (·.swapCannon c) (fun event => (event.1.swap, event.2)) id).trans ?_
  constructor
  · intro each t member
    exact (drive_mirrored_iff (run.taken member) (main t member)).mp (each t member)
  · intro regular t member
    exact (drive_mirrored_iff (run.taken member) (main t member)).mpr (regular t member)

/-- A level with one cannon, fresh from `BeginPlay`. -/
def battery (cannonType : ECannonType) : World := { pawns := [], cannons := [Cannon.ready cannonType 10 3] }

theorem alternateFire_mirrors_iff_reloaded :
    ((battery .fireProjectile).swapCannon 0).cannonEvent 0 .alternateFire {} =
        ((battery .fireProjectile).cannonEvent 0 .fire {}).map
          (fun result => (result.1.swapCannon 0, result.2)) ∧
      (Run (drive 0) ((battery .fireProjectile).swapCannon 0)
        ((Foundation.perform (drive 0) (battery .fireProjectile)
          [(.fire, {}), (.reloadTimer, {}), (.fire, {})]).1.map (mirrorStep 0))
        ((Foundation.perform (drive 0) (battery .fireProjectile)
          [(.fire, {}), (.reloadTimer, {}), (.fire, {})]).2.swapCannon 0)) :=
  ⟨((alternateFire_mirrors_iff 0).1 (battery .fireProjectile) (Cannon.ready .fireProjectile 10 3) {} rfl).mpr
      (by decide +kernel),
    ((alternateFire_mirrors_iff 0).2 _ _ _ (perform_run _ _ _) (by decide +kernel)).mpr (by decide +kernel)⟩

-- One press: the alternate trigger is charged and stays ready.
theorem alternateFire_unmirrored :
    ¬ ∀ (c : CannonId) (w : World) (y : Cannon) (reply : Reply), w.cannons[c]? = some y →
      (w.swapCannon c).cannonEvent c .alternateFire reply =
        (w.cannonEvent c .fire reply).map (fun result => (result.1.swapCannon c, result.2)) := by
  intro claim
  have mirrored := claim 0 (battery .fireSPProjectile) (Cannon.ready .fireSPProjectile 10 3) {} rfl
  exact absurd mirrored (by decide +kernel)

end World

end TankoGeddon
