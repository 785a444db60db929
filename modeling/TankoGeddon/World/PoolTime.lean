import TankoGeddon.World.FireRate
import TankoGeddon.World.FlightTime

/-! How large a pool gets, in time.

What a pool has in flight was launched by its cannon, each element in a discharge of its
own. A weapon that keeps its pace and projectiles that end on time leave room for so
many of them and no more, so a pool stocked with that many never grows.
-/

set_option autoImplicit false

namespace TankoGeddon.World

open Foundation (Run Step Setting Timing Clocked Beat Spaced peak_le perform_run getElem?_concat)

variable {w w' : World} {c : CannonId} {j : ProjectileId} {k : PoolId}

theorem Reachable.poolsSound (reachable : w.Reachable) : w.PoolsSound := by
  obtain ⟨_, _, initial, run⟩ := reachable
  exact (run_pools initial run).1.1

theorem Reachable.depotSound (reachable : w.Reachable) : w.depot.Sound := by
  obtain ⟨_, _, initial, run⟩ := reachable
  exact (run_pools initial run).1.2

/-- New pools hold new elements. -/
theorem Restocks.fresh (restocks : Restocks w w') {pool : ProjectilePool} (missing : w.pools[k]? = none)
    (there : w'.pools[k]? = some pool) : ∀ j ∈ pool.projectilePool, w.projectiles[j]? = none := by
  have grown : ∀ {w₁ : World}, Restocks w w₁ → w.projectiles.length ≤ w₁.projectiles.length := by
    intro w₁ steps
    induction steps with
    | refl => exact Nat.le_refl _
    | tail _ last ih =>
        rcases last with ⟨_, projectiles, empty⟩ | ⟨_, projectiles⟩
        · rename_i pc n _
          cases source : pc.projectileClass with
          | none => rw [(empty source).2]; exact ih
          | some cls =>
              rw [projectiles cls source, List.length_append]
              omega
        · rw [projectiles]
          exact ih
  induction restocks with
  | refl => cases missing.symm.trans there
  | @tail w₁ w₂ early last ih =>
      rcases last with ⟨pools, _, _⟩ | ⟨pools, _⟩
      · rw [pools] at there
        rcases getElem?_concat there with old | ⟨_, rfl⟩
        · exact ih old
        · intro j member
          obtain ⟨least, _⟩ := List.mem_range'_1.mp member
          exact List.getElem?_eq_none_iff.mpr ((grown early).trans least)
      · rw [pools] at there
        exact ih there

/-- The step hands out one element of the pool, to the cannon the pool serves. -/
structure HandsOut (t : Step World Event Report) (k : PoolId) (j : ProjectileId) : Prop where
  launched : ∃ c y reply, Launches t.before t.event t.output c y .pooled reply ∧ y.projectilePool = some k
  up : started j t = true
  others : ∀ i, i ≠ j → t.after.projectiles[i]? = t.before.projectiles[i]?

/-- The element was in flight already, in the same flight. -/
structure FliesOn (t : Step World Event Report) (k : PoolId) (j : ProjectileId) : Prop where
  level : started j t = false
  active : PoolState.isActive t.before.projectiles j = true
  member : ∃ pool, t.before.pools[k]? = some pool ∧ j ∈ pool.projectilePool

theorem started_same {t : Step World Event Report} (same : t.after.projectiles[j]? = t.before.projectiles[j]?) :
    started j t = false := by
  simp [started, same]

/-- A pool that was there before has the elements it had. -/
theorem modified_pool {t : Step World Event Report} {k' : PoolId} {pool pool₁ pool' : ProjectilePool}
    (known : t.before.pools[k']? = some pool) (pools : t.after.pools = t.before.pools.modify k' fun _ => pool₁)
    (there : t.after.pools[k]? = some pool') :
    k' = k ∧ pool' = pool₁ ∨ k' ≠ k ∧ t.before.pools[k]? = some pool' := by
  by_cases same : k' = k
  · subst same
    refine .inl ⟨rfl, ?_⟩
    rw [pools, List.getElem?_modify_eq, known] at there
    exact (Option.some.inj there).symm
  · rw [pools, List.getElem?_modify_ne _ _ same] at there
    exact .inr ⟨same, there⟩

/-- An element in flight was in flight before, or is handed out in the step. -/
theorem element_step {t : Step World Event Report} (reachable : t.before.Reachable)
    (taken : t.before.step t.event = some (t.after, t.output)) {pool' : ProjectilePool}
    (there : t.after.pools[k]? = some pool') (member : j ∈ pool'.projectilePool)
    (flies : PoolState.isActive t.after.projectiles j = true) : HandsOut t k j ∨ FliesOn t k j := by
  have sound := reachable.poolsSound
  have on : t.after.projectiles[j]? = t.before.projectiles[j]? →
      (∃ pool, t.before.pools[k]? = some pool ∧ j ∈ pool.projectilePool) → FliesOn t k j := by
    intro same known
    refine ⟨started_same same, ?_, known⟩
    simpa only [PoolState.isActive, same] using flies
  have traffic : Traffic t.before t.event t.output t.after := step_traffic reachable.wired taken
  cases traffic with
  | quiet pools projectiles =>
      rw [pools] at there
      exact .inr (on (by rw [projectiles]) ⟨pool', there, member⟩)
  | restock _ _ _ restocks =>
      rcases restocks.projectile j with same | ⟨missing, cls, made⟩
      · cases known : t.before.pools[k]? with
        | some pool =>
            obtain rfl := Option.some.inj ((restocks.keeps known).symm.trans there)
            exact .inr (on same ⟨pool, known, member⟩)
        | none =>
            have missing := restocks.fresh known there j member
            simp [PoolState.isActive, same, missing] at flies
      · simp [PoolState.isActive, made, PoolState.stored] at flies
  | @moved i forward q _ found _ pools projectiles =>
      rw [pools] at there
      refine .inr ⟨?_, ?_, pool', there, member⟩
      · simp only [started, projectiles, List.getElem?_modify]
        cases t.before.projectiles[j]? with
        | none => rfl
        | some q => by_cases here : i = j <;> simp [here, Projectile.move]
      · simp only [PoolState.isActive, projectiles, List.getElem?_modify] at flies ⊢
        cases before : t.before.projectiles[j]? with
        | none => simp [before] at flies
        | some q =>
            rw [before] at flies
            by_cases here : i = j <;> simpa [here, Projectile.move] using flies
  | @stopped i q _ found _ pools projectiles =>
      rw [pools] at there
      by_cases here : i = j
      · subst here
        simp [PoolState.isActive, projectiles, found, Projectile.deactivate] at flies
      · refine .inr (on ?_ ⟨pool', there, member⟩)
        rw [projectiles, List.getElem?_modify_ne _ _ here]
  | spawned _ _ _ pools projectiles =>
      rw [pools] at there
      refine .inr (on ?_ ⟨pool', there, member⟩)
      rw [projectiles, List.getElem?_append_left (sound.there there member)]
  | @reused c y reply k' pool i q launches holds known inside found idle pools projectiles =>
      have before : ∃ pool, t.before.pools[k]? = some pool ∧ j ∈ pool.projectilePool := by
        rcases modified_pool known pools there with ⟨rfl, rfl⟩ | ⟨_, same⟩
        · exact ⟨pool, known, member⟩
        · exact ⟨pool', same, member⟩
      by_cases here : i = j
      · subst here
        obtain ⟨old, known', member'⟩ := before
        obtain rfl := sound.disjoint k' k pool old i known known' inside member'
        refine .inl ⟨⟨c, y, reply, launches, holds⟩, ?_, ?_⟩
        · simp [started, projectiles, found, Projectile.relaunch, PoolState.reuse, Projectile.start]
        · intro i' other
          rw [projectiles, List.getElem?_modify_ne _ _ other.symm]
      · refine .inr (on ?_ before)
        rw [projectiles, List.getElem?_modify_ne _ _ here]
  | @grown c y reply k' pool cls launches holds known _ _ pools projectiles =>
      have old : (∃ pool, t.before.pools[k]? = some pool ∧ j ∈ pool.projectilePool) → FliesOn t k j := by
        rintro ⟨pool₀, known₀, member₀⟩
        refine on ?_ ⟨pool₀, known₀, member₀⟩
        rw [projectiles, List.getElem?_append_left (sound.there known₀ member₀)]
      rcases modified_pool known pools there with ⟨rfl, rfl⟩ | ⟨_, same⟩
      · rcases List.mem_append.mp member with before | last
        · exact .inr (old ⟨pool, known, before⟩)
        · obtain rfl := List.mem_singleton.mp last
          refine .inl ⟨⟨c, y, reply, launches, holds⟩, ?_, ?_⟩
          · simp [started, projectiles, Projectile.relaunch, PoolState.reuse, Projectile.start]
          · intro i other
            rw [projectiles]
            rcases Nat.lt_or_gt_of_ne other with inside | outside
            · rw [List.getElem?_append_left inside]
            · rw [List.getElem?_eq_none_iff.mpr (by simp; omega), List.getElem?_eq_none_iff.mpr outside.le]
      · exact .inr (old ⟨pool', same, member⟩)
  | @missed c y reply k' pool launches _ known pools projectiles =>
      refine .inr (on (by rw [projectiles]) ?_)
      rcases modified_pool known pools there with ⟨rfl, rfl⟩ | ⟨_, same⟩
      · exact ⟨pool, known, member⟩
      · exact ⟨pool', same, member⟩

/-! When the elements in flight were launched. -/

/-- When the present flight of a projectile began. -/
def sinceOf (j : ProjectileId) (trace : Timeline) : Option Scalar := (flightOf j trace).map (·.since)

section

variable {trace : Timeline} {t : Step World Event Report}
  {u : Step (Clocked World Handle Scalar) (Beat Event Scalar) (Option (Step World Event Report))}

theorem sinceOf_tick (shown : u.output = none) : sinceOf j (trace ++ [u]) = sinceOf j trace := by
  rw [sinceOf, flightOf_snoc, Flight.next, shown]
  rfl

theorem sinceOf_on (shown : u.output = some t) (level : started j t = false) :
    sinceOf j (trace ++ [u]) = sinceOf j trace := by
  rw [sinceOf, flightOf_snoc, Flight.next, shown]
  simp only [level, Bool.false_eq_true, if_false]
  split
  · rfl
  · split
    · split
      · rw [Option.map_map]
        rfl
      · rfl
    · rfl

theorem sinceOf_up (shown : u.output = some t) (up : started j t = true) {reply : Reply}
    (brings : t.event.reply = some reply) : sinceOf j (trace ++ [u]) = some u.before.now := by
  rw [sinceOf, flightOf_snoc, Flight.next, shown]
  cases after : t.after.projectiles[j]? with
  | none => simp [started, after] at up
  | some q => simp [after, up, brings]

theorem fireTimes_mem {time : Scalar} (member : time ∈ fireTimes c trace) : time ∈ fireTimes c (trace ++ [u]) := by
  rw [fireTimes_snoc]
  exact List.mem_append_left _ member

/-- A step keeps what a cannon was made as, its pool too. -/
theorem holder_kept (reachable : t.before.Reachable) (taken : t.before.step t.event = some (t.after, t.output))
    {y : Cannon} (here : t.before.cannons[c]? = some y) :
    ∃ y', t.after.cannons[c]? = some y' ∧ y'.projectilePool = y.projectilePool ∧
      y'.toCannonClass = y.toCannonClass ∧ y'.trigger = y.trigger := by
  rcases step_cannon reachable.wired taken here with ⟨call, next, _, acted, after⟩ | ⟨_, y', after, spared⟩
  · obtain ⟨config, trigger⟩ := stepped_config acted
    exact ⟨next.1, after, (Cannon.step_transition acted).pool, config, trigger⟩
  · obtain ⟨config, trigger⟩ := spared_config spared
    refine ⟨y', after, ?_, config, trigger⟩
    rcases spared with rfl | ⟨_, rfl⟩ <;> rfl

/-- Two cannons do not share a pool. -/
theorem Reachable.served (reachable : w.Reachable) {c' : CannonId} {y y' : Cannon} (here : w.cannons[c]? = some y)
    (here' : w.cannons[c']? = some y') (holds : y.projectilePool = some k) (holds' : y'.projectilePool = some k) :
    c = c' :=
  reachable.depotSound.own c c' y.mount y'.mount k (mount_at here) (mount_at here') holds holds'

theorem launch_fires {y : Cannon} {reply : Reply} (launches : Launches t.before t.event t.output c y .pooled reply) :
    fires c t = true := by
  obtain ⟨call, y', made, acted⟩ := launches.call
  exact fires_called made launches.here acted

/-- An element in flight was launched by the cannon of its pool, in a discharge. -/
theorem run_launched {s s' : Clocked World Handle Scalar} (begins : Begins s)
    (run : Run (timing.clock World.step) s trace s') {pool : ProjectilePool} (known : s'.state.pools[k]? = some pool)
    (member : j ∈ pool.projectilePool) (flies : PoolState.isActive s'.state.projectiles j = true) :
    ∃ c y, s'.state.cannons[c]? = some y ∧ y.projectilePool = some k ∧
      ∃ time ∈ fireTimes c trace, sinceOf j trace = some time := by
  have law : ∀ pool, s'.state.pools[k]? = some pool → j ∈ pool.projectilePool →
      PoolState.isActive s'.state.projectiles j = true → ∃ c y, s'.state.cannons[c]? = some y ∧
        y.projectilePool = some k ∧ ∃ time ∈ fireTimes c trace, sinceOf j trace = some time := by
    refine run.growing (motive := fun trace (s : Clocked World Handle Scalar) =>
      ∀ pool, s.state.pools[k]? = some pool → j ∈ pool.projectilePool →
        PoolState.isActive s.state.projectiles j = true → ∃ c y, s.state.cannons[c]? = some y ∧
          y.projectilePool = some k ∧ ∃ time ∈ fireTimes c trace, sinceOf j trace = some time) ?nil ?snoc
    case nil =>
      intro pool known
      simp [begins.initial.pools] at known
    case snoc =>
      intro trace u prior taken ih pool known member flies
      have reachable := (timing_lawful.run_agrees begins.reachable begins.agrees prior).1.1
      rcases Timing.clock_cases taken with
        ⟨elapsed, _, _, _, after, shown⟩ | ⟨t, shown, _, before, next, offered, _⟩
      · rw [after] at known flies ⊢
        obtain ⟨c, y, here, holds, time, fired, since⟩ := ih pool known member flies
        exact ⟨c, y, here, holds, time, fireTimes_mem fired, (sinceOf_tick shown).trans since⟩
      rw [← before] at ih reachable
      rw [← next] at known flies ⊢
      rcases element_step reachable offered known member flies with out | on
      · obtain ⟨c, y, reply, launches, holds⟩ := out.launched
        obtain ⟨y', here, same, _⟩ := holder_kept reachable offered launches.here
        refine ⟨c, y', here, same.trans holds, u.before.now, ?_, sinceOf_up shown out.up launches.brings⟩
        rw [fireTimes_snoc, shown, Option.any_some, launch_fires launches, if_pos rfl]
        simp
      · obtain ⟨pool₀, known₀, member₀⟩ := on.member
        obtain ⟨c, y, there, holds, time, fired, since⟩ := ih pool₀ known₀ member₀ on.active
        obtain ⟨y', here, same, _⟩ := holder_kept reachable offered there
        exact ⟨c, y', here, same.trans holds, time, fireTimes_mem fired, (sinceOf_on shown on.level).trans since⟩
  exact law pool known member flies

/-- Of two elements launched in time, one was launched a reload before the other. -/
theorem run_distinct {s s' : Clocked World Handle Scalar} (begins : Begins s)
    (run : Run (timing.clock World.step) s trace s') {y : Cannon} (here : s'.state.cannons[c]? = some y)
    (guarded : y.Guarded y.trigger) (holds : y.projectilePool = some k) {pool : ProjectilePool}
    (known : s'.state.pools[k]? = some pool) :
    ∀ i ∈ pool.projectilePool, ∀ j ∈ pool.projectilePool, PoolState.isActive s'.state.projectiles i = true →
      PoolState.isActive s'.state.projectiles j = true → sinceOf i trace = sinceOf j trace → i = j := by
  have law : ∀ y, s'.state.cannons[c]? = some y → y.Guarded y.trigger → y.projectilePool = some k →
      ∀ pool, s'.state.pools[k]? = some pool → ∀ i ∈ pool.projectilePool, ∀ j ∈ pool.projectilePool,
        PoolState.isActive s'.state.projectiles i = true → PoolState.isActive s'.state.projectiles j = true →
          sinceOf i trace = sinceOf j trace → i = j := by
    refine run.growing (motive := fun trace (s : Clocked World Handle Scalar) =>
      ∀ y, s.state.cannons[c]? = some y → y.Guarded y.trigger → y.projectilePool = some k →
        ∀ pool, s.state.pools[k]? = some pool → ∀ i ∈ pool.projectilePool, ∀ j ∈ pool.projectilePool,
          PoolState.isActive s.state.projectiles i = true → PoolState.isActive s.state.projectiles j = true →
            sinceOf i trace = sinceOf j trace → i = j) ?nil ?snoc
    case nil =>
      intro y here
      simp [begins.initial.cannons] at here
    case snoc =>
      intro trace u prior taken ih y here guarded holds pool known i memberI j memberJ fliesI fliesJ same
      have reachable := (timing_lawful.run_agrees begins.reachable begins.agrees prior).1.1
      have cooling := (run_cooling begins (prior.snoc taken)).2 y here guarded
      rcases Timing.clock_cases taken with
        ⟨elapsed, _, _, _, after, shown⟩ | ⟨t, shown, _, before, next, offered, _⟩
      · rw [after] at here known fliesI fliesJ
        rw [sinceOf_tick shown, sinceOf_tick shown] at same
        exact ih y here guarded holds pool known i memberI j memberJ fliesI fliesJ same
      rw [← before] at ih reachable
      rw [← next] at here known fliesI fliesJ
      -- the element that flies on was launched by the same cannon, in an earlier discharge
      have earlier : ∀ i, FliesOn t k i → ∃ y₀, t.before.cannons[c]? = some y₀ ∧ y₀.projectilePool = some k ∧
          y.toCannonClass = y₀.toCannonClass ∧ y.trigger = y₀.trigger ∧
            ∃ time ∈ fireTimes c trace, sinceOf i trace = some time := by
        intro i on
        obtain ⟨pool₀, known₀, member₀⟩ := on.member
        have active := on.active
        rw [before] at known₀ active
        obtain ⟨c₀, y₀, there, holds₀, time, fired, since⟩ := run_launched begins prior known₀ member₀ active
        rw [← before] at there
        obtain ⟨y₁, here₁, pool₁, config, trigger⟩ := holder_kept reachable offered there
        obtain rfl := (reachable.step offered).served here here₁ holds (pool₁.trans holds₀)
        obtain rfl := Option.some.inj (here.symm.trans here₁)
        exact ⟨y₀, there, holds₀, config, trigger, time, fired, since⟩
      have apart : ∀ i j, FliesOn t k i → HandsOut t k j → sinceOf i (trace ++ [u]) ≠ sinceOf j (trace ++ [u]) := by
        intro i j on out alike
        obtain ⟨y₀, _, _, _, _, time, fired, since⟩ := earlier i on
        obtain ⟨c', y', reply, launches, holds'⟩ := out.launched
        rw [sinceOf_on shown on.level, sinceOf_up shown out.up launches.brings, since] at alike
        obtain ⟨y₁, here₁, pool₁, _, _⟩ := holder_kept reachable offered launches.here
        obtain rfl := (reachable.step offered).served here here₁ holds (pool₁.trans holds')
        have spaced := cooling.spaced
        rw [fireTimes_snoc, shown, Option.any_some, launch_fires launches, if_pos rfl, List.pairwise_append] at spaced
        have gap := spaced.2.2 time fired u.before.now (by simp)
        have reload := guarded.reload
        rw [Option.some.inj alike] at gap
        linarith
      rcases element_step reachable offered known memberI fliesI with outI | onI
      · rcases element_step reachable offered known memberJ fliesJ with outJ | onJ
        · by_contra different
          have level := started_same (outI.others j (Ne.symm different))
          cases level.symm.trans outJ.up
        · exact absurd same.symm (apart j i onJ outI)
      · rcases element_step reachable offered known memberJ fliesJ with outJ | onJ
        · exact absurd same (apart i j onI outJ)
        · obtain ⟨y₀, there, holds₀, config, trigger, _⟩ := earlier i onI
          have guarded₀ : y₀.Guarded y₀.trigger := by
            rw [← trigger]
            exact guarded.of_config config.symm
          rw [sinceOf_on shown onI.level, sinceOf_on shown onJ.level] at same
          obtain ⟨pool₀, known₀, memberI₀⟩ := onI.member
          obtain ⟨pool₁, known₁, memberJ₀⟩ := onJ.member
          obtain rfl := Option.some.inj (known₀.symm.trans known₁)
          exact ih y₀ there guarded₀ holds₀ pool₀ known₀ i memberI₀ j memberJ₀ onI.active onJ.active same
  exact law y here guarded holds pool known

/-- Elements whose flights end on time, launched at a reload's distance: there are so
many of them at most. -/
theorem inFlight_le {s s' : Clocked World Handle Scalar} {late : Scalar} (begins : Begins s) (nonneg : 0 ≤ late)
    (frames : Timing.Frames late trace) (run : Run (timing.clock World.step) s trace s') {y : Cannon}
    (here : s'.state.cannons[c]? = some y) (guarded : y.Guarded y.trigger) (holds : y.projectilePool = some k)
    {pool : ProjectilePool} (known : s'.state.pools[k]? = some pool) {cls : ProjectileClass}
    (kind : pool.projectileClass = some cls) (moves : 0 < cls.moveRate) (expires : 0 < cls.deactivateTime) :
    poolInFlight k s'.state ≤ ⌊(cls.deactivateTime + late) / y.reloadTime⌋₊ + 1 := by
  have told := run_known begins nonneg frames run
  have reachable := told.1.reachable
  have sound := reachable.poolsSound
  -- the launch of each element in flight
  have launched : ∀ j ∈ pool.projectilePool, PoolState.isActive s'.state.projectiles j = true →
      ∃ time ∈ fireTimes c trace, sinceOf j trace = some time := by
    intro j member flies
    obtain ⟨c', y', here', holds', found⟩ := run_launched begins run known member flies
    obtain rfl := reachable.served here here' holds holds'
    exact found
  have recent : ∀ j ∈ pool.projectilePool, PoolState.isActive s'.state.projectiles j = true →
      ∀ time, sinceOf j trace = some time → s'.now - (cls.deactivateTime + late) ≤ time ∧ time ≤ s'.now := by
    intro j member flies time since
    obtain ⟨q, found, same, steady⟩ := sound.element k pool known j member
    obtain rfl := Option.some.inj (kind.symm.trans same)
    have active : q.bIsActivation = true := by simpa [PoolState.isActive, found] using flies
    have armed : q.deactivateTimer.isSome = true := steady.expires_iff.mpr ⟨active, expires⟩
    obtain ⟨f, flight, aloft⟩ := run_aloft begins run found (.inr armed)
    have onTime := aloft.onTime told.1 found
    obtain rfl : f.since = time := by simpa [sinceOf, flight] using since
    have lasting := onTime.lasting armed
    have past := onTime.paced
    have nonneg' : (0 : Scalar) ≤ f.headings.length * q.moveRate := mul_nonneg (Nat.cast_nonneg _) moves.le
    constructor <;> linarith
  have spaced := ((run_cooling begins run).2 y here guarded).spaced
  have reload := guarded.reload
  have symm : Std.Symm fun a b : Scalar => y.reloadTime ≤ |a - b| := ⟨fun a b gap => abs_sub_comm a b ▸ gap⟩
  have forward : (fireTimes c trace).Pairwise fun a b => y.reloadTime ≤ |a - b| := Spaced.of_forward spaced
  let flying := pool.projectilePool.filter (PoolState.isActive s'.state.projectiles)
  let times := flying.map fun j => (sinceOf j trace).getD 0
  have apart : Spaced y.reloadTime times := by
    rw [Spaced, List.pairwise_map]
    apply ((sound.nodup k pool known).filter _).pairwise_of_forall_ne
    intro i hi j hj different
    obtain ⟨memberI, fliesI⟩ := List.mem_filter.mp hi
    obtain ⟨memberJ, fliesJ⟩ := List.mem_filter.mp hj
    obtain ⟨timeI, firedI, sinceI⟩ := launched i memberI fliesI
    obtain ⟨timeJ, firedJ, sinceJ⟩ := launched j memberJ fliesJ
    rw [sinceI, sinceJ]
    apply forward.forall firedI firedJ
    rintro rfl
    exact different (run_distinct begins run here guarded holds known i memberI j memberJ fliesI fliesJ
      (sinceI.trans sinceJ.symm))
  have inside : ∀ time ∈ times, s'.now - (cls.deactivateTime + late) ≤ time ∧ time ≤ s'.now := by
    intro time member
    obtain ⟨j, inside, rfl⟩ := List.mem_map.mp member
    obtain ⟨memberJ, fliesJ⟩ := List.mem_filter.mp inside
    obtain ⟨time, _, since⟩ := launched j memberJ fliesJ
    rw [since]
    exact recent j memberJ fliesJ time since
  have count : poolInFlight k s'.state = times.length := by
    rw [List.length_map]
    simp only [poolInFlight, known, Option.map_some, Option.getD_some, List.countP_eq_length_filter]
    rfl
  have bound := apart.length_le reload inside
  rwa [← count, sub_sub_cancel] at bound

/-- What a cannon was made as, and the class of a pool, last to the end of the run. -/
theorem run_holder {start final : World} {past : List (Step World Event Report)} (reachable : start.Reachable)
    (run : Run World.step start past final) {y : Cannon} (here : start.cannons[c]? = some y) :
    ∃ y', final.cannons[c]? = some y' ∧ y'.projectilePool = y.projectilePool ∧
      y'.toCannonClass = y.toCannonClass ∧ y'.trigger = y.trigger := by
  have kept := run.invariant (fun w : World => w.Reachable ∧ ∃ y', w.cannons[c]? = some y' ∧
    y'.projectilePool = y.projectilePool ∧ y'.toCannonClass = y.toCannonClass ∧ y'.trigger = y.trigger)
    ⟨reachable, y, here, rfl, rfl, rfl⟩ ?_
  · exact kept.1.2
  · rintro t _ taken ⟨reached, y₁, there, pool₁, config₁, trigger₁⟩
    obtain ⟨y₂, after, pool₂, config₂, trigger₂⟩ := holder_kept reached taken there
    exact ⟨reached.step taken, y₂, after, pool₂.trans pool₁, config₂.trans config₁, trigger₂.trans trigger₁⟩

theorem run_class {start final : World} {past : List (Step World Event Report)} (reachable : start.Reachable)
    (run : Run World.step start past final) {pool : ProjectilePool} (known : start.pools[k]? = some pool) :
    ∃ pool', final.pools[k]? = some pool' ∧ pool'.toPoolClass = pool.toPoolClass := by
  have kept := run.invariant (fun w : World => w.Reachable ∧ ∃ pool', w.pools[k]? = some pool' ∧
    pool'.toPoolClass = pool.toPoolClass) ⟨reachable, pool, known, rfl⟩ ?_
  · exact kept.1.2
  · rintro t _ taken ⟨reached, pool₁, there, class₁⟩
    obtain ⟨pool₂, after, class₂, _⟩ := pool_step (step_traffic reached.wired taken) there
    exact ⟨reached.step taken, pool₂, after, class₂.trans class₁⟩

/-- The bound at the end of a run held all the way. -/
theorem inFlight_le_before {s s₁ s' : Clocked World Handle Scalar} {early rest : Timeline} {late : Scalar}
    (begins : Begins s) (nonneg : 0 ≤ late) (frames : Timing.Frames late early)
    (run : Run (timing.clock World.step) s early s₁) (more : Run (timing.clock World.step) s₁ rest s') {y : Cannon}
    (here : s'.state.cannons[c]? = some y) (guarded : y.Guarded y.trigger) (holds : y.projectilePool = some k)
    {pool : ProjectilePool} (known : s'.state.pools[k]? = some pool) {cls : ProjectileClass}
    (kind : pool.projectileClass = some cls) (moves : 0 < cls.moveRate) (expires : 0 < cls.deactivateTime) :
    poolInFlight k s₁.state ≤ ⌊(cls.deactivateTime + late) / y.reloadTime⌋₊ + 1 := by
  have reachable := (run_known begins nonneg frames run).1.reachable
  have reachable' := (timing_lawful.run_agrees reachable (run_known begins nonneg frames run).1.agrees more).1.1
  have past := Timing.run_untimed more
  cases there : s₁.state.pools[k]? with
  | none => simp [poolInFlight, there]
  | some pool₁ =>
      by_cases quiet : ∃ j ∈ pool₁.projectilePool, PoolState.isActive s₁.state.projectiles j = true
      · obtain ⟨j, member, flies⟩ := quiet
        obtain ⟨c₁, y₁, here₁, holds₁, _⟩ := run_launched begins run there member flies
        obtain ⟨y₂, here₂, pool₂, config, trigger⟩ := run_holder reachable past here₁
        obtain rfl := reachable'.served here here₂ holds (pool₂.trans holds₁)
        obtain rfl := Option.some.inj (here.symm.trans here₂)
        obtain ⟨pool₃, known₃, class₃⟩ := run_class reachable past there
        obtain rfl := Option.some.inj (known.symm.trans known₃)
        have guarded₁ : y₁.Guarded y₁.trigger := by
          rw [← trigger]
          exact guarded.of_config config.symm
        have kind₁ : pool₁.projectileClass = some cls := (congrArg PoolClass.projectileClass class₃).symm.trans kind
        have rate : y.reloadTime = y₁.reloadTime := congrArg CannonClass.reloadTime config
        rw [rate]
        exact inFlight_le begins nonneg frames run here₁ guarded₁ holds₁ there kind₁ moves expires
      · simp only [poolInFlight, there, Option.map_some, Option.getD_some]
        rw [List.countP_eq_zero.mpr fun j member flies => quiet ⟨j, member, flies⟩]
        exact Nat.zero_le _

/-- In a level played in time, the pool of a weapon that keeps its pace has at most so
many elements in flight, and never grows beyond that: stocked with as many, it has the
size it was stocked with for the rest of the level. -/
theorem pool_bounded {s s' : Clocked World Handle Scalar} {late : Scalar} (begins : Begins s) (nonneg : 0 ≤ late)
    (frames : Timing.Frames late trace) (run : Run (timing.clock World.step) s trace s') {y : Cannon}
    (here : s'.state.cannons[c]? = some y) (guarded : y.Guarded y.trigger) (holds : y.projectilePool = some k)
    {pool : ProjectilePool} (known : s'.state.pools[k]? = some pool) {cls : ProjectileClass}
    (kind : pool.projectileClass = some cls) (moves : 0 < cls.moveRate) (expires : 0 < cls.deactivateTime) :
    (∀ u ∈ trace, poolInFlight k u.after.state ≤ ⌊(cls.deactivateTime + late) / y.reloadTime⌋₊ + 1) ∧
      ∃ t ∈ Timing.untimed trace, ∃ stocked, t.before.pools[k]? = none ∧ t.after.pools[k]? = some stocked ∧
        stocked.projectilePool.length ≤ pool.projectilePool.length ∧
        pool.projectilePool.length ≤
          max stocked.projectilePool.length (⌊(cls.deactivateTime + late) / y.reloadTime⌋₊ + 1) := by
  have each : ∀ u ∈ trace, poolInFlight k u.after.state ≤ ⌊(cls.deactivateTime + late) / y.reloadTime⌋₊ + 1 := by
    intro u member
    obtain ⟨early, rest, rfl⟩ := List.append_of_mem member
    obtain ⟨prior, more⟩ := run.cut
    have taken := run.taken member
    refine inFlight_le_before begins nonneg ?_ (prior.snoc taken) more here guarded holds known kind moves expires
    intro v inside
    apply frames
    rcases List.mem_append.mp inside with first | last
    · exact List.mem_append_left _ first
    · rw [List.mem_singleton.mp last]
      exact member
  refine ⟨each, ?_⟩
  obtain ⟨t, member, stocked, missing, there, _, size⟩ := run_stocking begins.initial (Timing.run_untimed run) known
  refine ⟨t, member, stocked, missing, there, ?_, ?_⟩
  · rw [size]
    exact le_max_left _ _
  · rw [size]
    apply max_le_max_left
    apply peak_le
    · simp [poolInFlight, begins.initial.pools]
    · intro v inside
      obtain ⟨u, within, shown⟩ := List.mem_filterMap.mp inside
      have bound := each u within
      rcases Timing.clock_cases (run.taken within) with ⟨_, _, _, _, _, silent⟩ | ⟨v', shown', _, _, after, _⟩
      · cases silent.symm.trans shown
      · obtain rfl := Option.some.inj (shown'.symm.trans shown)
        rw [after]
        exact bound

/-- At the default times and a frame of a hundredth, four elements are enough. -/
theorem pool_bounded_opening : ∃ pool, openingRun.2.state.pools[0]? = some pool ∧
    (∀ u ∈ openingRun.1, poolInFlight 0 u.after.state ≤ 4) ∧ ∃ t ∈ Timing.untimed openingRun.1, ∃ stocked,
      t.before.pools[0]? = none ∧ t.after.pools[0]? = some stocked ∧
        stocked.projectilePool.length ≤ pool.projectilePool.length ∧
        pool.projectilePool.length ≤ max stocked.projectilePool.length 4 := by
  have made : openingRun.2.state.cannons[0]?.map
      (fun y => (y.cannonType, y.trigger, y.reloadTime, y.projectilePool)) =
        some (.fireProjectile, .main, 1, some 0) := by decide +kernel
  obtain ⟨y, here, same⟩ := Option.map_eq_some_iff.mp made
  simp only [Prod.mk.injEq] at same
  obtain ⟨type, trigger, reload, holds⟩ := same
  have stocked : openingRun.2.state.pools[0]?.map (·.projectileClass) = some (some ({ } : ProjectileClass)) := by
    decide +kernel
  obtain ⟨pool, known, kind⟩ := Option.map_eq_some_iff.mp stocked
  have guarded : y.Guarded y.trigger := ⟨by rw [type]; decide, .inl trigger, by rw [reload]; norm_num⟩
  have bound := pool_bounded ⟨skirmish_initial, fun _ => rfl⟩ (by norm_num) openingRun_frames
    (perform_run _ _ _) here guarded holds known kind (by norm_num) (by norm_num)
  have three : ⌊(({ } : ProjectileClass).deactivateTime + 1 / 100) / y.reloadTime⌋₊ = 3 := by
    rw [reload, Nat.floor_eq_iff (by norm_num)]
    norm_num
  rw [three] at bound
  exact ⟨pool, known, bound⟩

end

end TankoGeddon.World
