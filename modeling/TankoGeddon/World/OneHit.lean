import TankoGeddon.World.SelfDamage

/-! How often one flight of a projectile deals damage.

The overlap handler ends the flight with `Deactivate` and does not ask, when it is
entered again, whether the flight is over. Each notification that names a damage
taker it does not exclude is another `TakeDamage`.
-/

set_option autoImplicit false

namespace TankoGeddon

open Foundation (Run Step perform_run)

namespace World

/-- The projectile is in its `n`-th flight, from that `Start` to the next. -/
def inFlight (w : World) (j : ProjectileId) (n : Nat) : Bool :=
  w.projectiles[j]?.any fun q => q.flight == n

/-- The step calls `TakeDamage` for the projectile. -/
def hit (j : ProjectileId) (t : Step World Event Report) : Bool :=
  t.output.damage.any fun call => call.data.damageMaker == some (.projectile j)

/-- A begin-overlap of the projectile with a machine pawn that the handler does not
take for its owner or its owner's owner. -/
def strikes (w : World) (j : ProjectileId) : Event → Bool
  | .meshOverlapBegin i (.pawn v) => i == j && decide (v < w.pawns.length) &&
      w.projectiles[j]?.any fun q => !w.excludes q.owner (.pawn v)
  | _ => false

def hitsIn (trace : List (Step World Event Report)) (j : ProjectileId) (n : Nat) : Nat :=
  trace.countP fun t => t.before.inFlight j n && hit j t

def strikesIn (trace : List (Step World Event Report)) (j : ProjectileId) (n : Nat) : Nat :=
  trace.countP fun t => t.before.inFlight j n && t.before.strikes j t.event

theorem strikes_iff {w : World} {j : ProjectileId} {event : Event} :
    w.strikes j event = true ↔ ∃ v q, event = .meshOverlapBegin j (.pawn v) ∧ v < w.pawns.length ∧
      w.projectiles[j]? = some q ∧ w.excludes q.owner (.pawn v) = false := by
  constructor
  · intro struck
    cases event with
    | meshOverlapBegin i other =>
        cases other with
        | pawn v =>
            simp only [strikes, Bool.and_eq_true, beq_iff_eq, decide_eq_true_eq, Option.any_eq_true] at struck
            obtain ⟨⟨rfl, there⟩, q, found, clear⟩ := struck
            exact ⟨v, q, rfl, there, found, by simpa using clear⟩
        | _ => cases struck
    | _ => cases struck
  · rintro ⟨v, q, rfl, there, found, clear⟩
    simp [strikes, there, found, clear]

/-- A projectile deals damage in a step exactly when it strikes in it. -/
theorem hit_iff_strikes {t : Step World Event Report} (wired : t.before.links.Wired)
    (taken : t.before.step t.event = some (t.after, t.output)) (j : ProjectileId) :
    hit j t = true ↔ t.before.strikes j t.event = true := by
  rw [strikes_iff]
  constructor
  · intro struck
    obtain ⟨call, shows, maker⟩ := (Option.any_eq_true _ _).mp struck
    have source := damage_source wired taken shows
    generalize t.event = event at source
    cases source with
    | @projectile i q v found there clear =>
        obtain rfl : i = j := by simpa using maker
        exact ⟨v, q, rfl, there, found, clear⟩
    | trace => simp at maker
    | unarmed => simp at maker
  · rintro ⟨v, q, overlap, there, found, clear⟩
    have size : j < t.before.projectiles.length := (List.getElem?_eq_some_iff.mp found).1
    have damage := overlap_damage found there clear
    simp only [overlap, step, if_pos size, Option.some.injEq] at taken
    rw [taken] at damage
    have shows : t.output.damage = some _ := damage
    simp [hit, shows]

theorem hitsIn_eq {w w' : World} {trace : List (Step World Event Report)} (initial : w.Initial)
    (run : Run World.step w trace w') (j : ProjectileId) (n : Nat) :
    hitsIn trace j n = strikesIn trace j n := by
  apply List.countP_congr
  intro t member
  have wired := ((run_wired initial run).2 t member).1
  have same := hit_iff_strikes wired (run.taken member) j
  rw [Bool.and_eq_true, Bool.and_eq_true, same]

/-- A flight deals damage once at most exactly when it is notified of damage takers
once at most. -/
theorem oneHit_iff {w w' : World} {trace : List (Step World Event Report)} (initial : w.Initial)
    (run : Run World.step w trace w') (j : ProjectileId) (n : Nat) :
    hitsIn trace j n ≤ 1 ↔ strikesIn trace j n ≤ 1 := by
  rw [hitsIn_eq initial run j n]

/-- The shot of the duel touches several components of its target in one move. -/
def volley (touched : List Actor) : List Event :=
  [.beginPlay 0 {} {}, .beginPlay 1 {} {}, .fire 0 {}] ++ touched.map (.meshOverlapBegin 0)

def volleyTrace (touched : List Actor) : List (Step World Event Report) :=
  (Foundation.perform World.step (duel none) (volley touched)).1

theorem oneHit_iff_single : (duel none).Initial ∧
    hitsIn (volleyTrace [.other 7, .pawn 1, .pawn 0]) 0 1 ≤ 1 :=
  ⟨duel_initial none, (oneHit_iff (duel_initial none) (perform_run _ _ _) 0 1).mpr (by decide +kernel)⟩

-- `BodyMesh` and `BoxComponent` of the same pawn.
theorem two_components_two_hits :
    ¬ ∀ (w w' : World) (trace : List (Step World Event Report)), w.Initial →
      Run World.step w trace w' → ∀ j n, hitsIn trace j n ≤ 1 := by
  intro claim
  have once := claim (duel none) _ _ (duel_initial none) (perform_run _ _ (volley [.pawn 1, .pawn 1])) 0 1
  exact absurd once (by decide +kernel)

end World

end TankoGeddon
