import TankoGeddon.Pickup.Basic
import TankoGeddon.World.Credit

/-! What a tank gets from an ammo box.

The box refills the cannon its own pointer names. No statement of the source writes
that pointer, so the handler stops at its first test.
-/

set_option autoImplicit false

namespace TankoGeddon.Arena

open Foundation (Run Step perform_run)

/-- The main cannon of a pawn. -/
def mainCannon (a : Arena) (p : PawnId) : Option CannonId := a.world.pawns[p]?.bind (·.cannon)

/-- The pawn has no main cannon that could take a round. -/
def Full (a : Arena) (p : PawnId) : Prop :=
  ∀ c y, a.mainCannon p = some c → a.world.cannons[c]? = some y → y.maxAmmo ≤ y.currentAmmo

/-- The box is spent on the main cannon of the toucher where that has room, and is
left alone otherwise. -/
structure Refills (a a' : Arena) (b : Nat) (box : AmmoBox) (p : PawnId) : Prop where
  room : ∀ c y, a.mainCannon p = some c → a.world.cannons[c]? = some y → y.currentAmmo < y.maxAmmo →
    a'.world.cannons[c]?.map (·.currentAmmo) = some (min (y.currentAmmo + box.ammoBoxVolume) y.maxAmmo) ∧
      a'.ammoBoxes[b]?.any (·.bActorIsBeingDestroyed) = true
  full : a.Full p → a'.ammoBoxes = a.ammoBoxes ∧ a'.world.cannons = a.world.cannons
  others : ∀ c, a.mainCannon p ≠ some c → a'.world.cannons[c]? = a.world.cannons[c]?

/-- The pointer of every box is null. -/
def Unassigned (a : Arena) : Prop := ∀ box ∈ a.ammoBoxes, box.cannon = none

/-- With a null pointer the handler does nothing. -/
theorem ammoBoxOverlap_unassigned {a : Arena} (unassigned : a.Unassigned) {b : Nat} {box : AmmoBox}
    (found : a.ammoBoxes[b]? = some box) (otherActor : Actor) : a.ammoBoxOverlap b otherActor = some a := by
  have null := unassigned box (List.mem_of_getElem? found)
  unfold ammoBoxOverlap
  rw [found]
  simp only [null]
  split
  · next same => cases same
  · rfl

/-- The steps of an arena, as far as its ammo boxes and tanks go. -/
theorem step_boxes {a a' : Arena} {event : Event} {out : Unit} (unassigned : a.Unassigned)
    (taken : a.step event = some (a', out)) :
    a'.ammoBoxes = a.ammoBoxes ∨ ∃ volume, a'.ammoBoxes = a.ammoBoxes ++ [{ ammoBoxVolume := volume }] := by
  cases event with
  | world event =>
      obtain ⟨next, _, same⟩ := Option.map_eq_some_iff.mp taken
      cases same
      exact .inl rfl
  | ammoBoxOverlap b otherActor =>
      simp only [step] at taken
      split at taken
      · next able =>
        obtain ⟨box, found, _⟩ := (Option.any_eq_true _ _).mp (Bool.and_eq_true_iff.mp able).2
        rw [ammoBoxOverlap_unassigned unassigned found] at taken
        cases taken
        exact .inl rfl
      · cases taken
  | newCannonBoxOverlap b otherActor main alternate =>
      simp only [step] at taken
      split at taken
      · obtain ⟨next, done, same⟩ := Option.map_eq_some_iff.mp taken
        cases same
        unfold newCannonBoxOverlap at done
        split at done
        · cases done
        · split at done
          · obtain ⟨w, _, rfl⟩ := Option.map_eq_some_iff.mp done
            exact .inl rfl
          · cases done
            exact .inl rfl
      · cases taken
  | spawnAmmoBox ammoBoxVolume =>
      cases taken
      exact .inr ⟨ammoBoxVolume, rfl⟩
  | spawnNewCannonBox cannonClass =>
      cases taken
      exact .inl rfl

/-- Nothing assigns the pointer of a box. -/
theorem Unassigned.step {a a' : Arena} {event : Event} {out : Unit} (unassigned : a.Unassigned)
    (taken : a.step event = some (a', out)) : a'.Unassigned := by
  unfold Unassigned
  rcases step_boxes unassigned taken with same | ⟨volume, more⟩
  · rw [same]
    exact unassigned
  · rw [more]
    intro box member
    rcases List.mem_append.mp member with old | new
    · exact unassigned box old
    · rw [List.mem_singleton.mp new]

/-- A box does for the tank that touches it what it should exactly when it has nothing
to do. -/
theorem refills_iff {a a' : Arena} {trace : List (Step Arena Event Unit)} (initial : a.Initial)
    (run : Run Arena.step a trace a') :
    ∀ t ∈ trace, ∀ (b : Nat) (box : AmmoBox) (p : PawnId), t.event = .ammoBoxOverlap b (.pawn p) →
      p ∈ t.before.tanks → t.before.ammoBoxes[b]? = some box → 0 < box.ammoBoxVolume →
        (Refills t.before t.after b box p ↔ t.before.Full p) := by
  intro t member b box p overlap _ found volume
  have unassigned := ((run.invariant Unassigned initial.ammoBoxes fun _ _ taken before =>
    before.step taken).2 t member).1
  have taken := run.taken member
  rw [overlap] at taken
  simp only [Arena.step] at taken
  split at taken
  · rw [ammoBoxOverlap_unassigned unassigned found] at taken
    have same : t.before = t.after := congrArg Prod.fst (Option.some.inj taken)
    rw [← same]
    constructor
    · intro refills c y main here
      by_contra room
      obtain ⟨ammo, _⟩ := refills.room c y main here (not_le.mp room)
      rw [here, Option.map_some, Option.some.injEq] at ammo
      omega
    · intro full
      exact ⟨fun c y main here room => absurd (full c y main here) (not_le.mpr room),
        fun _ => ⟨rfl, rfl⟩, fun _ _ => rfl⟩
  · cases taken

/-- A tank with a magazine of 120, and a box of 30. -/
def depotWithAmmo : Arena := { world := World.duel none, tanks := [0], ammoBoxes := [{}] }

theorem depotWithAmmo_initial : depotWithAmmo.Initial :=
  ⟨World.duel_initial none, by simp [depotWithAmmo]⟩

/-- The tank touches the box after the given number of shots. -/
def refillEvents (shots : Nat) : List Event :=
  .world (.beginPlay 0 {} {}) :: List.replicate shots (.world (.fire 0 {})) ++ [.ammoBoxOverlap 0 (.pawn 0)]

def refillTrace (shots : Nat) : List (Step Arena Event Unit) :=
  (Foundation.perform Arena.step depotWithAmmo (refillEvents shots)).1

theorem refillTrace_full : 1 < (refillTrace 0).length := by decide +kernel

theorem refillTrace_magazine : ((refillTrace 0).get ⟨1, refillTrace_full⟩).before.Full 0 := by
  intro c y main here
  have first : ((refillTrace 0).get ⟨1, refillTrace_full⟩).before.mainCannon 0 = some 0 := by decide +kernel
  obtain rfl : 0 = c := Option.some.inj (first.symm.trans main)
  have magazine : (((refillTrace 0).get ⟨1, refillTrace_full⟩).before.world.cannons[0]?).all
      (fun y => decide (y.maxAmmo ≤ y.currentAmmo)) = true := by decide +kernel
  rw [here] at magazine
  simpa using magazine

theorem refills_iff_full : depotWithAmmo.Initial ∧
    Refills ((refillTrace 0).get ⟨1, refillTrace_full⟩).before ((refillTrace 0).get ⟨1, refillTrace_full⟩).after
      0 {} 0 :=
  ⟨depotWithAmmo_initial, (refills_iff depotWithAmmo_initial (perform_run _ _ (refillEvents 0)) _
    (List.get_mem _ _) 0 {} 0 rfl (by decide +kernel) (by decide +kernel) (by decide)).mpr refillTrace_magazine⟩

theorem refillTrace_shot : 2 < (refillTrace 1).length := by decide +kernel

-- One round spent: the box has room to fill and leaves it.
theorem ammo_box_refills_nothing :
    ¬ ∀ (a a' : Arena) (trace : List (Step Arena Event Unit)), a.Initial → Run Arena.step a trace a' →
      ∀ t ∈ trace, ∀ (b : Nat) (box : AmmoBox) (p : PawnId), t.event = .ammoBoxOverlap b (.pawn p) →
        p ∈ t.before.tanks → t.before.ammoBoxes[b]? = some box → 0 < box.ammoBoxVolume →
          Refills t.before t.after b box p := by
  intro claim
  have refills := claim _ _ _ depotWithAmmo_initial (perform_run _ _ (refillEvents 1)) _
    (List.get_mem _ ⟨2, refillTrace_shot⟩) 0 {} 0 rfl (by decide +kernel) (by decide +kernel) (by decide)
  have room := refills.room 0
    (((refillTrace 1).get ⟨2, refillTrace_shot⟩).before.world.cannons.get ⟨0, by decide +kernel⟩)
    (by decide +kernel) (by decide +kernel) (by decide +kernel)
  exact absurd room.1 (by decide +kernel)

end TankoGeddon.Arena
