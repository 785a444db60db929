import TankoGeddon.Level.Basic
import TankoGeddon.World.Effects

/-! What a step of the level does to its turrets and to the world, said once. -/

set_option autoImplicit false

namespace TankoGeddon.Level

inductive Transition (l : Level) : Event → Level → Sight → Prop
  | world {event : World.Event} {w : World} {report : Report}
      (taken : l.world.step event = some (w, report)) :
      Transition l (.world event) { l with world := w } { report }
  | possess (inPawn : Option PawnId) : Transition l (.possess inPawn) { l with controllerPawn := inPawn } {}
  | beginPlay {i : Nat} {main alternate : CannonReply} {turret : Turret} {w : World} {report : Report}
      (found : l.turrets[i]? = some turret)
      (taken : l.world.step (.beginPlay turret.pawn main alternate) = some (w, report)) :
      Transition l (.beginPlay i main alternate)
        { l with
          world := w
          turrets := l.turrets.modify i (Turret.beginPlay ({ l with world := w } : Level).getPawn) }
        { report }
  | crash {i : Nat} {sighting : Sighting} {reply : Reply} {turret : Turret}
      (found : l.turrets[i]? = some turret) (armed : turret.targetingTimer.isSome = true)
      (null : turret.playerPawn = none) :
      Transition l (.targeting i sighting reply) { l with crashed := true }
        { dereferences := [⟨.isPlayerInRange, none⟩] }
  | targeting {i : Nat} {sighting : Sighting} {reply : Reply} {turret : Turret} {p : PawnId} {w : World}
      {turn : Turret → Turret} {sight : Sight}
      (found : l.turrets[i]? = some turret) (armed : turret.targetingTimer.isSome = true)
      (pointer : turret.playerPawn = some p)
      (first : ⟨.isPlayerInRange, some p⟩ ∈ sight.dereferences)
      (same : ∀ d ∈ sight.dereferences, d.playerPawn = some p)
      (turns : turn = id ∨ turn = (·.rotateToPlayer sighting))
      (shot : w = l.world ∨ ∃ report, l.world.step (.fire turret.pawn reply) = some (w, report)) :
      Transition l (.targeting i sighting reply) { l with world := w, turrets := l.turrets.modify i turn } sight
  | collectGarbage : Transition l .collectGarbage l.collectGarbage {}

theorem targeting_transition {l l' : Level} {i : Nat} {sighting : Sighting} {reply : Reply} {turret : Turret}
    {sight : Sight} (found : l.turrets[i]? = some turret) (armed : turret.targetingTimer.isSome = true)
    (taken : l.targeting i turret sighting reply = some (l', sight)) :
    Transition l (.targeting i sighting reply) l' sight := by
  unfold targeting at taken
  cases pointer : turret.playerPawn with
  | none =>
      rw [pointer] at taken
      cases taken
      exact .crash found armed pointer
  | some p =>
      rw [pointer] at taken
      simp only [] at taken
      split at taken
      · split at taken
        · split at taken
          · cases taken
          · next w report fired =>
            cases taken
            exact .targeting found armed pointer (by simp) (by simp) (.inr rfl) (.inr ⟨report, fired⟩)
        · cases taken
          exact .targeting found armed pointer (by simp) (by simp) (.inr rfl) (.inl rfl)
      · cases taken
        have still : Transition l (.targeting i sighting reply)
            { l with turrets := l.turrets.modify i id }
            { dereferences := [⟨.isPlayerInRange, some p⟩] } :=
          .targeting found armed pointer (by simp) (by simp) (.inl rfl) (.inl rfl)
        rwa [List.modify_id] at still

theorem step_transition {l l' : Level} {event : Event} {sight : Sight}
    (taken : l.step event = some (l', sight)) : Transition l event l' sight := by
  unfold step at taken
  split at taken
  · cases taken
  cases event with
  | world event =>
      simp only [] at taken
      split at taken
      · cases taken
      · obtain ⟨next, stepped, same⟩ := Option.map_eq_some_iff.mp taken
        cases same
        exact .world stepped
  | possess inPawn =>
      simp only [] at taken
      split at taken <;> cases taken
      exact .possess inPawn
  | beginPlay i main alternate =>
      simp only [beginPlay] at taken
      split at taken
      · cases taken
      next turret found =>
      split at taken
      · cases taken
      next w report stepped =>
      cases taken
      exact .beginPlay found stepped
  | targeting i sighting reply =>
      simp only [] at taken
      split at taken
      · cases taken
      next turret found =>
      split at taken
      · next ready => exact targeting_transition found (Bool.and_eq_true_iff.mp ready).1 taken
      · cases taken
  | collectGarbage =>
      cases taken
      exact .collectGarbage

/-- The world moves by its own steps. -/
theorem Transition.world_step {l l' : Level} {event : Event} {sight : Sight}
    (move : Transition l event l' sight) :
    l'.world = l.world ∨ ∃ event report, l.world.step event = some (l'.world, report) := by
  cases move with
  | world taken => exact .inr ⟨_, _, taken⟩
  | beginPlay _ taken => exact .inr ⟨_, _, taken⟩
  | targeting _ _ _ _ _ _ shot =>
      rcases shot with same | ⟨report, fired⟩
      · exact .inl same
      · exact .inr ⟨_, _, fired⟩
  | possess | crash | collectGarbage => exact .inl rfl

theorem Transition.wired {l l' : Level} {event : Event} {sight : Sight}
    (move : Transition l event l' sight) (wired : l.world.links.Wired) : l'.world.links.Wired := by
  rcases move.world_step with same | ⟨_, _, taken⟩
  · rw [same]
    exact wired
  · exact wired.moves (World.step_moves wired taken)

theorem Transition.stays_dead {l l' : Level} {event : Event} {sight : Sight}
    (move : Transition l event l' sight) (wired : l.world.links.Wired) {p : PawnId}
    (dead : l.world.pawnAlive p = false) : l'.world.pawnAlive p = false := by
  rcases move.world_step with same | ⟨_, _, taken⟩
  · rw [same]
    exact dead
  · exact World.stays_dead wired taken dead

/-- The pawn has begun play. -/
def begun (l : Level) (p : PawnId) : Bool := l.world.vitals[p]?.any (·.begun)

theorem Transition.stays_begun {l l' : Level} {event : Event} {sight : Sight}
    (move : Transition l event l' sight) (wired : l.world.links.Wired) {p : PawnId}
    (known : l.begun p = true) : l'.begun p = true := by
  rcases move.world_step with same | ⟨_, _, taken⟩
  · rw [begun, same]
    exact known
  · exact World.stays_begun wired taken known

end TankoGeddon.Level
